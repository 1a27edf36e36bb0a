import ProxyForge.Program

/-!
# ProxyForge.Lists.Traversal — walking a list while the heap changes

A `ListIter` stands at a value. Each step asks whether that is a pair and, if
so, reads the car and the cdr: three separate calls, between which other
clients may relink the list. The walk ends at the first value that is no
pair, so the tail of an improper list is never an element.

A list whose links form a circle has no end. `ListIter.count` therefore gives
up after as many elements as there are cells.
-/

namespace ProxyForge

/-- A position on a list. -/
structure ListIter where
  rest : Word
deriving DecidableEq, Repr

namespace ListIter

/-- The next element, and the position behind it. -/
def next (it : ListIter) : Program (Option Word × ListIter) := do
  if ← Program.isPair it.rest then
    let head ← Program.car it.rest
    let rest ← Program.cdr it.rest
    return (some head, ⟨rest⟩)
  else
    return (none, it)

/-- The elements `seen`, then at most `limit` more. -/
def collect (seen : Array Word) (it : ListIter) : (limit : Nat) → Program (Array Word)
  | 0 => return seen
  | limit + 1 => do
    match ← it.next with
    | (none, _) => return seen
    | (some v, it) => it.collect (seen.push v) limit

/-- The number of elements after the `seen` ones, if the walk ends within `limit`
steps. -/
def count (seen : Nat) (it : ListIter) : (limit : Nat) → Program Nat
  | 0 => .fail .endless
  | limit + 1 => do
    match ← it.next with
    | (none, _) => return seen
    | (some _, it) => it.count (seen + 1) limit

end ListIter

/-- The first elements of a list, at most `limit`. -/
def listTake (list : Word) (limit : Nat) : Program (Array Word) :=
  ListIter.collect #[] ⟨list⟩ limit

/-- The number of elements of a list. -/
def listLength (list : Word) : Program Nat := do
  let cells ← Program.perform .allocated
  ListIter.count 0 ⟨list⟩ (cells + 1)

end ProxyForge
