import ProxyForge.Proofs.Heap.Change

/-!
# ProxyForge.Proofs.Heap.Symbols — the symbol table and the symbol cells

A heap is `Tabled` when its table sends a name to a handle exactly if that is the
handle of a symbol cell with that name. Every action keeps this, so a name has at
most one symbol cell, and two names never share one.
-/

namespace ProxyForge.Heap

variable {h h' : Heap} {a : Action Word} {w w' : Word} {name name' : String}

/-- The table and the symbol cells agree. -/
def Tabled (h : Heap) : Prop :=
  ∀ name w, h.symbol? name = some w ↔ h.get? w = some (.symbol name)

theorem empty_tabled : empty.Tabled := by
  intro name w
  rw [get?_empty]
  constructor <;> intro h <;> cases h

/-- A name has one symbol cell at most. -/
theorem Tabled.eq_of_get? (ht : h.Tabled) (hw : h.get? w = some (.symbol name))
    (hw' : h.get? w' = some (.symbol name)) : w = w' := by
  rw [← ht] at hw hw'
  rw [hw] at hw'
  exact Option.some.inj hw'

/-- Different names have different symbols. -/
theorem Tabled.symbol?_inj (ht : h.Tabled) (hw : h.symbol? name = some w)
    (hw' : h.symbol? name' = some w) : name = name' := by
  rw [ht] at hw hw'
  rw [hw] at hw'
  cases hw'
  rfl

/-- A cell that is no symbol makes no difference to the table. -/
theorem Tabled.push {c : Cell} (ht : h.Tabled) (hsize : h.size < Word.capacity)
    (hc : ∀ name, c ≠ .symbol name) : (h.push c).Tabled := by
  intro name w
  rw [symbol?_push, ht]
  by_cases hw : w = h.nextHandle
  · subst hw
    rw [get?_nextHandle hsize, get?_push_nextHandle hsize]
    constructor
    · intro hnone
      cases hnone
    · intro hsome
      exact absurd (Option.some.inj hsome) (hc name)
  · rw [get?_push_of_ne hw]

/-- A new symbol has a name that was not in the table. -/
theorem Tabled.pushSymbol (ht : h.Tabled) (hsize : h.size < Word.capacity)
    (hnew : h.symbol? name = none) : (h.pushSymbol name).Tabled := by
  intro other w
  rw [symbol?_pushSymbol, get?_pushSymbol]
  by_cases hw : w = h.nextHandle
  · subst hw
    rw [get?_push_nextHandle hsize]
    by_cases hother : other = name
    · subst hother
      simp
    · -- no other name is sent to a handle that has not been given out
      have hold : h.symbol? other ≠ some h.nextHandle := by
        rw [Ne, ht, get?_nextHandle hsize]
        simp
      rw [if_neg hother]
      constructor
      · intro hsome
        exact absurd hsome hold
      · intro hsome
        exact absurd (Cell.symbol.inj (Option.some.inj hsome)).symm hother
  · rw [get?_push_of_ne hw, ← ht]
    by_cases hother : other = name
    · subst hother
      rw [if_pos rfl, hnew]
      constructor
      · intro hsome
        exact absurd (Option.some.inj hsome).symm hw
      · intro hsome
        cases hsome
    · rw [if_neg hother]

/-- A relinked pair is a pair still. -/
theorem Tabled.setCdr {x y car cdr : Word} (ht : h.Tabled)
    (hx : h.get? x = some (.pair car cdr)) : (h.setCdr x y).Tabled := by
  intro name w
  rw [symbol?_setCdr, ht]
  by_cases hw : w = x
  · subst hw
    rw [get?_setCdr_self hx, hx]
    simp
  · rw [get?_setCdr_of_ne hw]

/-- Every action keeps the table and the cells in agreement. -/
theorem Tabled.change (ht : h.Tabled) (hc : Change h a h') (hsize : h'.size ≤ Word.capacity) :
    h'.Tabled := by
  cases hc with
  | same => exact ht
  | allocated _ c ha =>
    rw [size_push] at hsize
    exact ht.push hsize (Action.cell?_ne_symbol ha)
  | interned name hnew =>
    rw [size_pushSymbol] at hsize
    exact ht.pushSymbol hsize hnew
  | relinked x y car cdr hx => exact ht.setCdr hx

end ProxyForge.Heap
