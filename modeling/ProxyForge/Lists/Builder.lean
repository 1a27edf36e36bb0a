import ProxyForge.Program

/-!
# ProxyForge.Lists.Builder — lists built at the tail

A `ListBuilder` remembers the first and the last pair of the list it builds,
so that each further element costs one pair and one link. The list is proper
at every moment: the last pair ends in the empty list of the backend.

Three ways to fill a list rest on it: from given values (`listOfValues`), from
an array up to the undefined object that ends it (`listOfArguments`), and
from a bounded array that must hold such an end (`listOfTerminated?`). The last
two build the same list; they differ in when they look for the end.
-/

namespace ProxyForge

/-- A list under construction. -/
structure ListBuilder where
  /-- The list so far. -/
  head : Word
  /-- Its last pair, if it has one. -/
  last : Option Word
  /-- The number of elements so far. -/
  length : Nat
deriving DecidableEq, Repr

namespace ListBuilder

/-- A builder without elements. -/
def new : Program ListBuilder := do
  return { head := ← Program.eol, last := none, length := 0 }

/-- Appends an element: a new pair, linked behind the last one. -/
def push (b : ListBuilder) (value : Word) : Program ListBuilder := do
  let cell ← Program.cons value (← Program.eol)
  match b.last with
  | none => return { head := cell, last := some cell, length := b.length + 1 }
  | some last =>
    Program.setCdr last cell
    return { b with last := some cell, length := b.length + 1 }

/-- Appends elements in order. -/
def extend (b : ListBuilder) : List Word → Program ListBuilder
  | [] => return b
  | v :: rest => do (← b.push v).extend rest

/-- Whether the list is still empty. -/
def isEmpty (b : ListBuilder) : Bool := b.length == 0

/-- Hands the list over. -/
def finish (b : ListBuilder) : Program Word :=
  .emit (.listBuilt b.length) (.done b.head)

/-- Appends the elements of an array up to the undefined object, which is looked
for one element at a time. -/
def extendUntilEnd (b : ListBuilder) : List Word → Program ListBuilder
  | [] => return b
  | v :: rest => do
    if ← Program.isUnbound v then return b
    else (← b.push v).extendUntilEnd rest

end ListBuilder

/-- The list of the given values. -/
def listOfValues (values : List Word) : Program Word := do
  (← (← ListBuilder.new).extend values).finish

/-- The list of the elements before the undefined object that ends the array. -/
def listOfArguments (elements : List Word) : Program Word := do
  (← (← ListBuilder.new).extendUntilEnd elements).finish

/-- The position of the first undefined object, counted from `start`. -/
def endOfArguments? (start : Nat) : List Word → Program (Option Nat)
  | [] => return none
  | v :: rest => do
    if ← Program.isUnbound v then return some start
    else endOfArguments? (start + 1) rest

/-- The list of the elements before the first undefined object; nothing at all
when the array holds none. -/
def listOfTerminated? (elements : List Word) : Program (Option Word) := do
  match ← endOfArguments? 0 elements with
  | none => return none
  | some stop => return some (← listOfValues (elements.take stop))

/-! ## Cursors -/

/-- A position in an argument array that ends with the undefined object. -/
structure ArgumentCursor where
  rest : List Word
  ended : Bool := false
deriving DecidableEq, Repr

/-- The element at the cursor; none for ever once the end has been seen. -/
def ArgumentCursor.next (c : ArgumentCursor) : Program (Option Word × ArgumentCursor) :=
  match c.ended, c.rest with
  | true, _ => return (none, c)
  | false, [] => return (none, { c with ended := true })
  | false, v :: rest => do
    if ← Program.isUnbound v then return (none, { c with ended := true })
    else return (some v, { c with rest })

end ProxyForge
