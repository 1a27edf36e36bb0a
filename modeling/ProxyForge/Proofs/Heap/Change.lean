import ProxyForge.Heap.Action
import ProxyForge.Proofs.Heap.Access

/-!
# ProxyForge.Proofs.Heap.Change — what one action can do to a heap

`Heap.Change` lists the four outcomes of an action: the heap stays, it grows by
a cell, it grows by a symbol that was missing, or one pair is relinked.
`perform_change` says that nothing else happens, so that an invariant of the
heap needs four cases and no look at the single primitives.
-/

namespace ProxyForge

/-- The cell that an action allocates whatever the heap is. -/
def Action.cell? : Action Word → Option Cell
  | .primitive (.binary .cons x y) => some (.pair x y)
  | .newString text => some (.string text)
  | .newClass name parent => some (.classCell name parent)
  | .newInstance cls => some (.instanceCell cls)
  | _ => none

/-- A cell that an action allocates is no symbol: those come from interning alone. -/
theorem Action.cell?_ne_symbol {a : Action Word} {c : Cell} (ha : a.cell? = some c)
    (name : String) : c ≠ .symbol name := by
  unfold Action.cell? at ha
  rintro rfl
  split at ha <;> simp at ha

namespace Heap

variable {h h' : Heap} {a : Action Word} {v w x y : Word} {c : Cell}

/-- What the readers of pairs answer for a pair. -/
theorem perform_of_pair {car cdr : Word} (hx : h.get? x = some (.pair car cdr)) :
    h.perform (.primitive (.unary .isPair x)) = h.answer true ∧
    h.perform (.primitive (.unary .car x)) = h.answer car ∧
    h.perform (.primitive (.unary .cdr x)) = h.answer cdr := by
  simp only [perform, performCall, performUnary, pair?_eq_some.2 hx]
  exact ⟨rfl, rfl, rfl⟩

/-- What they answer for any other word. -/
theorem perform_of_not_pair (hx : h.pair? x = none) :
    h.perform (.primitive (.unary .isPair x)) = h.answer false ∧
    h.perform (.primitive (.unary .car x)) =
      { result := .error (.nonPair .car x), heap := h } ∧
    h.perform (.primitive (.unary .cdr x)) =
      { result := .error (.nonPair .cdr x), heap := h } := by
  simp only [perform, performCall, performUnary, hx]
  exact ⟨rfl, rfl, rfl⟩

/-- Relinking succeeds on a pair. -/
theorem performBinary_setCdr {car cdr : Word} (hx : h.get? x = some (.pair car cdr)) :
    h.performBinary x y .setCdr = { result := .ok (), heap := h.setCdr x y } := by
  rw [performBinary, if_pos (isSome_pair?.2 ⟨car, cdr, hx⟩)]

/-- What an action can turn a heap into. -/
inductive Change (h : Heap) : Action Word → Heap → Prop where
  | same (a : Action Word) (ha : a.cell? = none) : Change h a h
  | allocated (a : Action Word) (c : Cell) (ha : a.cell? = some c) : Change h a (h.push c)
  | interned (name : String) (hnew : h.symbol? name = none) :
      Change h (.internSymbol name) (h.pushSymbol name)
  | relinked (x y car cdr : Word) (hx : h.get? x = some (.pair car cdr)) :
      Change h (.primitive (.binary .setCdr x y)) (h.setCdr x y)

theorem perform_change (h : Heap) (a : Action Word) : Change h a (h.perform a).heap := by
  cases a with
  | primitive call =>
    cases call with
    | constant k => exact .same _ rfl
    | unary p x => cases p <;> exact .same _ rfl
    | binary p x y =>
      cases p with
      | isEq => exact .same _ rfl
      | isA => exact .same _ rfl
      | cons => exact .allocated _ _ rfl
      | setCdr =>
        by_cases hx : (h.pair? x).isSome
        · rcases isSome_pair?.1 hx with ⟨car, cdr, hget⟩
          have hheap : (h.perform (.primitive (.binary .setCdr x y))).heap = h.setCdr x y := by
            simp [perform, performCall, performBinary, hx]
          rw [hheap]
          exact .relinked x y car cdr hget
        · have hheap : (h.perform (.primitive (.binary .setCdr x y))).heap = h := by
            simp [perform, performCall, performBinary, hx]
          rw [hheap]
          exact .same _ rfl
  | internSymbol name =>
    cases hname : h.symbol? name with
    | some sym =>
      have hheap : (h.perform (.internSymbol name)).heap = h := by
        simp [perform, hname, answer]
      rw [hheap]
      exact .same _ rfl
    | none =>
      have hheap : (h.perform (.internSymbol name)).heap = h.pushSymbol name := by
        simp [perform, hname]
      rw [hheap]
      exact .interned name hname
  | newString text => exact .allocated _ _ rfl
  | newClass name parent => exact .allocated _ _ rfl
  | newInstance cls => exact .allocated _ _ rfl
  | _ => exact .same _ rfl

/-! ## Size and table -/

/-- A heap never shrinks. -/
theorem Change.size_le (hc : Change h a h') : h.size ≤ h'.size := by
  cases hc <;> simp

/-- A name that has a symbol keeps it. -/
theorem Change.symbol?_of_some {name : String} (hc : Change h a h')
    (hname : h.symbol? name = some w) : h'.symbol? name = some w := by
  cases hc with
  | interned other hnew =>
    rw [symbol?_pushSymbol, if_neg, hname]
    rintro rfl
    rw [hnew] at hname
    cases hname
  | same => exact hname
  | allocated => simpa using hname
  | relinked => simpa using hname

/-! ## Runs of bounded size

The number of cells is bounded at the end of a run only. Since heaps never shrink, the
bound holds at every step on the way, and an invariant may use it there. -/

variable {σ μ : Type}

/-- When no step makes the heap smaller, no run does. -/
theorem size_le_foldl (step : σ → μ → σ) (heap : σ → Heap)
    (hmono : ∀ s m, (heap s).size ≤ (heap (step s m)).size) (ms : List μ) (s : σ) :
    (heap s).size ≤ (heap (ms.foldl step s)).size := by
  induction ms generalizing s with
  | nil => exact Nat.le_refl _
  | cons m ms ih => exact Nat.le_trans (hmono s m) (ih (step s m))

/-- An invariant that each of the given steps keeps as long as the cells fit holds after their
run, if the cells fit there. -/
theorem foldl_invariant_of_mem (step : σ → μ → σ) (heap : σ → Heap)
    (hmono : ∀ s m, (heap s).size ≤ (heap (step s m)).size) (inv : σ → Prop) (ms : List μ)
    (hstep : ∀ s, ∀ m ∈ ms, inv s → (heap (step s m)).size ≤ Word.capacity → inv (step s m))
    (s : σ) (hs : inv s) (hsize : (heap (ms.foldl step s)).size ≤ Word.capacity) :
    inv (ms.foldl step s) := by
  induction ms generalizing s with
  | nil => exact hs
  | cons m ms ih =>
    have hnext : (heap (step s m)).size ≤ Word.capacity :=
      Nat.le_trans (size_le_foldl step heap hmono ms (step s m)) hsize
    have hrest : ∀ s, ∀ m ∈ ms, inv s → (heap (step s m)).size ≤ Word.capacity →
        inv (step s m) := fun s m hm => hstep s m (List.mem_cons_of_mem _ hm)
    exact ih hrest (step s m) (hstep s m List.mem_cons_self hs hnext) hsize

/-- The same for steps that all keep it. -/
theorem foldl_invariant (step : σ → μ → σ) (heap : σ → Heap)
    (hmono : ∀ s m, (heap s).size ≤ (heap (step s m)).size) (inv : σ → Prop)
    (hstep : ∀ s m, inv s → (heap (step s m)).size ≤ Word.capacity → inv (step s m))
    (ms : List μ) (s : σ) (hs : inv s)
    (hsize : (heap (ms.foldl step s)).size ≤ Word.capacity) : inv (ms.foldl step s) :=
  foldl_invariant_of_mem step heap hmono inv ms (fun s m _ => hstep s m) s hs hsize

/-! ## Frames -/

/-- Only a relinking of `w` itself changes the cell of `w`. -/
theorem Change.get?_of_some (hc : Change h a h') (hsize : h'.size ≤ Word.capacity)
    (hw : h.get? w = some c) (hne : ∀ y, a ≠ .primitive (.binary .setCdr w y)) :
    h'.get? w = some c := by
  cases hc with
  | same => exact hw
  | allocated d _ =>
    rw [size_push] at hsize
    exact get?_push_of_some hsize hw
  | interned name _ =>
    rw [size_pushSymbol] at hsize
    rw [get?_pushSymbol]
    exact get?_push_of_some hsize hw
  | relinked x y =>
    rw [get?_setCdr_of_ne, hw]
    rintro rfl
    exact hne y rfl

end Heap

end ProxyForge
