import ProxyForge.Word

/-!
# ProxyForge.Heap.Basic — a heap that only grows

The heap is a sequence of cells and a table of the symbols among them. A new
cell goes to the end and its handle is its position for good. `Heap.get?`
reads a cell through any word at all: a word that is no handle, or the handle
of a cell not allocated yet, has no cell.

A class names its parent, and an instance its class, by a word; nothing says
that the word is a class. `Heap.isA?` therefore walks the chain with a bound:
a chain of more values than there are cells, and one more, visits some class
twice and never ends.
-/

namespace ProxyForge

/-- What a cell holds. -/
inductive Cell where
  | pair (car cdr : Word)
  | symbol (name : String)
  | string (text : String)
  | classCell (name : String) (parent : Option Word)
  | instanceCell (cls : Word)
deriving DecidableEq, Repr

/-- The cells in the order of allocation, and the handle of each symbol by its
name, the latest first. -/
structure Heap where
  cells : Array Cell := #[]
  symbols : List (String × Word) := []
deriving DecidableEq, Repr

namespace Heap

/-- The heap without cells. -/
def empty : Heap := {}

/-- The number of cells. -/
def size (h : Heap) : Nat := h.cells.size

/-- The cell that a word names. -/
def get? (h : Heap) (w : Word) : Option Cell :=
  w.cellIndex?.bind fun i => h.cells[i]?

/-! ## Growing -/

/-- The heap with one more cell, at the end. -/
def push (h : Heap) (c : Cell) : Heap :=
  { h with cells := h.cells.push c }

/-- The handle that the next cell gets. -/
def nextHandle (h : Heap) : Word := Word.handle h.size

/-- The handle of the symbol with this name, if there is one. -/
def symbol? (h : Heap) (name : String) : Option Word :=
  h.symbols.lookup name

/-- The heap with a new symbol, entered into the table. -/
def pushSymbol (h : Heap) (name : String) : Heap :=
  let sym := h.nextHandle
  { cells := h.cells.push (.symbol name), symbols := (name, sym) :: h.symbols }

/-- The heap in which the pair `x` has the cdr `y`; the same heap when `x` is no
pair. -/
def setCdr (h : Heap) (x y : Word) : Heap :=
  match x.cellIndex? with
  | none => h
  | some i =>
    { h with cells := h.cells.modify i fun
        | .pair car _ => .pair car y
        | c => c }

/-! ## Reading -/

/-- The car and the cdr of a pair. -/
def pair? (h : Heap) (w : Word) : Option (Word × Word) :=
  match h.get? w with
  | some (.pair car cdr) => some (car, cdr)
  | _ => none

/-- The name of a symbol. -/
def symbolName? (h : Heap) (w : Word) : Option String :=
  match h.get? w with
  | some (.symbol name) => some name
  | _ => none

/-- The text of a string. -/
def stringValue? (h : Heap) (w : Word) : Option String :=
  match h.get? w with
  | some (.string text) => some text
  | _ => none

/-- The name of a class. -/
def className? (h : Heap) (w : Word) : Option String :=
  match h.get? w with
  | some (.classCell name _) => some name
  | _ => none

/-- The class of an instance. -/
def instanceClass? (h : Heap) (w : Word) : Option Word :=
  match h.get? w with
  | some (.instanceCell cls) => some cls
  | _ => none

/-- The parent of a class that has one. -/
def parent? (h : Heap) (w : Word) : Option Word :=
  match h.get? w with
  | some (.classCell _ parent) => parent
  | _ => none

/-- Whether `y` is among the first `bound` values of the class chain from `w`;
`none` when it is not and the chain goes on. -/
def onChain? (h : Heap) (y : Word) : Nat → Word → Option Bool
  | 0, _ => none
  | bound + 1, w =>
    if w = y then some true
    else
      match h.parent? w with
      | none => some false
      | some p => h.onChain? y bound p

/-- Whether `x` is an instance whose class chain holds `y`; `none` when the walk
along the chain never ends. -/
def isA? (h : Heap) (x y : Word) : Option Bool :=
  match h.instanceClass? x with
  | none => some false
  | some cls => h.onChain? y (h.size + 1) cls

end Heap

end ProxyForge
