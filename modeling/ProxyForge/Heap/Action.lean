import ProxyForge.Call
import ProxyForge.Heap.Basic
import ProxyForge.Log.Event

/-!
# ProxyForge.Heap.Action — what a client can do to a heap at once

An `Action` is one step that no other client can interrupt: a primitive call,
or one of the heap's own operations. Interning a symbol is two actions, a
lookup and, when that finds nothing, a second lookup together with the
allocation.

`Heap.perform` gives the meaning of every action. A call on a word of the
wrong type faults and leaves the heap as it was.
-/

namespace ProxyForge

/-- An operation that needs a pair. -/
inductive PairAccess where
  | car
  | cdr
  | setCdr
deriving DecidableEq, Repr

/-- The name of the operation in messages. -/
def PairAccess.name : PairAccess → String
  | car => "car"
  | cdr => "cdr"
  | setCdr => "set-cdr!"

/-- Why an action gives no answer. -/
inductive Fault where
  /-- The operation was given a word that is no pair. -/
  | nonPair (access : PairAccess) (x : Word)
  /-- The walk along a chain of cells never ends. -/
  | endless
deriving DecidableEq, Repr

/-- The text of the fault. -/
def Fault.message : Fault → String
  | nonPair access x => "wrong-type-arg: " ++ access.name ++ " of non-pair " ++ x.describe
  | endless => "endless chain of cells"

/-- One uninterrupted step on a heap. -/
inductive Action (α : Type) where
  | primitive (c : Call α)
  | lookupSymbol (name : String)
  | internSymbol (name : String)
  | newString (text : String)
  | newClass (name : String) (parent : Option α)
  | newInstance (cls : α)
  | symbolName (x : α)
  | stringValue (x : α)
  | className (x : α)
  | allocated
  | contents
deriving DecidableEq, Repr

namespace Action

/-- The type of the answer. -/
@[reducible] def Answer {α : Type} : Action α → Type
  | primitive c => c.Answer
  | lookupSymbol _ => Option Word
  | internSymbol _ | newString _ | newClass _ _ | newInstance _ => Word
  | symbolName _ | stringValue _ | className _ => Option String
  | allocated => Nat
  | contents => Array Cell

/-- Gives each argument its value; fails when one has none. -/
def resolve {α β : Type} (f : α → Option β) : Action α → Option (Action β)
  | primitive c => (c.resolve f).map .primitive
  | lookupSymbol name => some (.lookupSymbol name)
  | internSymbol name => some (.internSymbol name)
  | newString text => some (.newString text)
  | newClass name none => some (.newClass name none)
  | newClass name (some p) => (f p).map fun p => .newClass name (some p)
  | newInstance cls => (f cls).map .newInstance
  | symbolName x => (f x).map .symbolName
  | stringValue x => (f x).map .stringValue
  | className x => (f x).map .className
  | allocated => some .allocated
  | contents => some .contents

end Action

/-- What an action leaves behind: its answer or a fault, the heap, and the events
in order. -/
structure Effect (α : Type) where
  result : Except Fault α
  heap : Heap
  events : List Event := []

namespace Heap

/-- An answer that leaves the heap as it was. -/
def answer {α : Type} (h : Heap) (a : α) : Effect α :=
  { result := .ok a, heap := h }

/-- An answer if there is one, else a fault; the heap stays as it was. -/
def answerOr {α : Type} (h : Heap) (f : Fault) (a : Option α) : Effect α :=
  { result := a.elim (.error f) .ok, heap := h }

/-- Allocates a cell and answers its handle. -/
def alloc (h : Heap) (c : Cell) : Effect Word :=
  let index := h.size
  { result := .ok (Word.handle index), heap := h.push c, events := [.cellAllocated index] }

/-- The word that a constant stands for. -/
def constantWord : Constant → Word
  | .boolF => .boolF
  | .boolT => .boolT
  | .undefined => .undefined
  | .unspecified => .unspecified
  | .eol => .eol
  | .unbound => .unbound

/-- The meaning of a primitive of one value. -/
def performUnary (h : Heap) (x : Word) : (p : Unary) → Effect p.ret.Carrier
  | .unpack => h.answer x.bits
  | .isFalse => h.answer (x == Word.boolF)
  | .isTrue => h.answer (x != Word.boolF)
  | .isBool => h.answer (x == Word.boolF || x == Word.boolT)
  | .isNull => h.answer (x == Word.eol)
  | .isPair => h.answer (h.pair? x).isSome
  | .isSymbol => h.answer (h.symbolName? x).isSome
  | .isString => h.answer (h.stringValue? x).isSome
  | .isUnbound => h.answer (x == Word.undefined)
  | .car => h.answerOr (.nonPair .car x) ((h.pair? x).map (·.1))
  | .cdr => h.answerOr (.nonPair .cdr x) ((h.pair? x).map (·.2))

/-- The meaning of a primitive of two values. -/
def performBinary (h : Heap) (x y : Word) : (p : Binary) → Effect p.ret.Carrier
  | .isEq => h.answer (x == y)
  | .isA => h.answerOr .endless (h.isA? x y)
  | .cons => h.alloc (.pair x y)
  | .setCdr =>
    if (h.pair? x).isSome then
      { result := .ok (), heap := h.setCdr x y }
    else
      { result := .error (.nonPair .setCdr x), heap := h }

/-- The meaning of a primitive call. -/
def performCall (h : Heap) : (c : Call Word) → Effect c.Answer
  | .constant c => h.answer (constantWord c)
  | .unary p x => h.performUnary x p
  | .binary p x y => h.performBinary x y p

/-- The meaning of an action. -/
def perform (h : Heap) : (a : Action Word) → Effect a.Answer
  | .primitive c => h.performCall c
  | .lookupSymbol name => h.answer (h.symbol? name)
  | .internSymbol name =>
    match h.symbol? name with
    | some sym => h.answer sym
    | none =>
      let index := h.size
      { result := .ok (Word.handle index), heap := h.pushSymbol name,
        events := [.cellAllocated index] }
  | .newString text => h.alloc (.string text)
  | .newClass name parent => h.alloc (.classCell name parent)
  | .newInstance cls => h.alloc (.instanceCell cls)
  | .symbolName x => h.answer (h.symbolName? x)
  | .stringValue x => h.answer (h.stringValue? x)
  | .className x => h.answer (h.className? x)
  | .allocated => h.answer h.size
  | .contents => h.answer h.cells

end Heap

end ProxyForge
