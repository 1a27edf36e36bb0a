import ProxyForge.Proofs.Heap.Lasting

/-!
# ProxyForge.Proofs.Heap.Known — clients that make no handles up

A client that passes on what it was given can only use words that name no cell, and
handles of cells that exist already: `Heap.Knows`. A word made up from bits could be
the handle of a cell that is yet to come, and would then close a circle.

Such a client can only make pairs whose cdr is known (`Heap.CdrsKnown`).

`Word.rank` counts cells from one and gives every word without a cell the rank zero,
so that a heap knows exactly the words up to its size (`knows_iff_rank_le`).
-/

namespace ProxyForge

/-- The position of the cell that a word names, counted from one; zero for a word that
names none. -/
def Word.rank (w : Word) : Nat := w.cellIndex?.elim 0 (· + 1)

theorem Word.rank_handle {i : Nat} (hi : i < Word.capacity) : (Word.handle i).rank = i + 1 := by
  rw [rank, Word.cellIndex?_handle hi]
  rfl

/-- The words that an action is given. -/
def Action.words : Action Word → List Word
  | .primitive (.constant _) => []
  | .primitive (.unary _ x) => [x]
  | .primitive (.binary _ x y) => [x, y]
  | .newClass _ parent => parent.toList
  | .newInstance cls => [cls]
  | .symbolName x | .stringValue x | .className x => [x]
  | .lookupSymbol _ | .internSymbol _ | .newString _ | .allocated | .contents => []

/-- The cdr of a new pair is a word that the action was given. -/
theorem Action.cdr_mem_words {a : Action Word} {v d : Word} (ha : a.cell? = some (.pair v d)) :
    d ∈ a.words := by
  unfold Action.cell? at ha
  split at ha
  · cases ha
    simp [Action.words]
  all_goals cases ha

namespace Heap

variable {h h' : Heap} {a : Action Word} {w x y v d : Word} {c : Cell}

/-! ## Known words -/

/-- The word names no cell, or it is the handle of a cell of the heap. -/
def Knows (h : Heap) (w : Word) : Prop := w.cellIndex? = none ∨ h.Issued w

instance (h : Heap) (w : Word) : Decidable (h.Issued w) :=
  inferInstanceAs (Decidable (∃ i, i < h.size ∧ w = Word.handle i))

instance (h : Heap) (w : Word) : Decidable (h.Knows w) :=
  inferInstanceAs (Decidable (_ ∨ _))

theorem knows_iff_rank_le (hsize : h.size ≤ Word.capacity) : h.Knows w ↔ w.rank ≤ h.size := by
  constructor
  · rintro (hplain | ⟨i, hi, rfl⟩)
    · simp [Word.rank, hplain]
    · rw [Word.rank_handle (by omega)]
      omega
  · intro hrank
    cases hw : w.cellIndex? with
    | none => exact .inl hw
    | some i =>
      rcases Word.cellIndex?_eq_some.1 hw with ⟨hi, rfl⟩
      rw [Word.rank_handle hi] at hrank
      exact .inr ⟨i, by omega, rfl⟩

theorem Knows.mono (hw : h.Knows w) (hle : h.size ≤ h'.size) : h'.Knows w := by
  rcases hw with hplain | hissued
  · exact .inl hplain
  · exact .inr (hissued.mono hle)

theorem knows_of_get? (hw : h.get? w = some c) : h.Knows w := .inr (issued_of_get? hw)

theorem knows_eol : h.Knows .eol := .inl rfl

/-- Nobody knows the next handle. -/
theorem not_knows_nextHandle (hsize : h.size < Word.capacity) : ¬ h.Knows h.nextHandle := by
  rw [knows_iff_rank_le (by omega), nextHandle, Word.rank_handle hsize]
  omega

/-- A known word without a cell never gets one. -/
theorem Outlasts.get?_of_known_none (hl : h'.Outlasts h) (hw : h.Knows w)
    (hnone : h.get? w = none) : h'.get? w = none := by
  rcases hw with hplain | hissued
  · exact get?_of_cellIndex?_eq_none hplain
  · rcases hissued.get? (Nat.le_trans hl.size_le hl.fits) with ⟨c, hc⟩
    rw [hnone] at hc
    cases hc

/-! ## Runs with known words -/

/-- The action is given known words only. -/
def Admits (h : Heap) (a : Action Word) : Prop := ∀ w ∈ a.words, h.Knows w

instance (h : Heap) (a : Action Word) : Decidable (h.Admits a) :=
  inferInstanceAs (Decidable (∀ w ∈ _, _))

/-- The heap after an action, which does not happen when it is given a word that is not
known. -/
def performKnown (h : Heap) (a : Action Word) : Heap := if h.Admits a then (h.perform a).heap else h

/-- The heap after actions, each of them given words that are known by then. -/
def runKnown (actions : List (Action Word)) : Heap := actions.foldl performKnown {}

/-- Either the action happens, given known words only, or nothing does. -/
theorem performKnown_cases (h : Heap) (a : Action Word) :
    (h.Admits a ∧ h.performKnown a = (h.perform a).heap) ∨ h.performKnown a = h := by
  unfold performKnown
  split
  · next hadmits => exact .inl ⟨hadmits, rfl⟩
  · exact .inr rfl

theorem size_le_performKnown (h : Heap) (a : Action Word) : h.size ≤ (h.performKnown a).size := by
  rcases performKnown_cases h a with ⟨-, hperform⟩ | hrefused
  · rw [hperform]
    exact (perform_change h a).size_le
  · exact Nat.le_of_eq (congrArg size hrefused.symm)

theorem Outlasts.performKnown (hl : h'.Outlasts h)
    (hsize : (h'.performKnown a).size ≤ Word.capacity) : (h'.performKnown a).Outlasts h := by
  rcases performKnown_cases h' a with ⟨-, hperform⟩ | hrefused
  · rw [hperform] at hsize ⊢
    exact hl.perform hsize
  · rw [hrefused]
    exact hl

theorem outlasts_performKnown (hsize : (h.performKnown a).size ≤ Word.capacity) :
    (h.performKnown a).Outlasts h := by
  have hfits : h.size ≤ Word.capacity := Nat.le_trans (size_le_performKnown h a) hsize
  exact (Outlasts.refl hfits).performKnown hsize

/-- What the permitted actions keep holds after any action, whether it happens or not. -/
theorem performKnown_induction {inv : Heap → Prop}
    (hstep : ∀ h a, inv h → h.Admits a → (h.perform a).heap.size ≤ Word.capacity →
      inv (h.perform a).heap)
    (hinv : inv h) (hsize : (h.performKnown a).size ≤ Word.capacity) : inv (h.performKnown a) := by
  rcases performKnown_cases h a with ⟨hadmits, hperform⟩ | hrefused
  · rw [hperform] at hsize ⊢
    exact hstep h a hinv hadmits hsize
  · rw [hrefused]
    exact hinv

/-- What the permitted actions keep holds after any run whose cells fit. -/
theorem runKnown_induction {inv : Heap → Prop} (hempty : inv {})
    (hstep : ∀ h a, inv h → h.Admits a → (h.perform a).heap.size ≤ Word.capacity →
      inv (h.perform a).heap)
    (actions : List (Action Word)) (hsize : (runKnown actions).size ≤ Word.capacity) :
    inv (runKnown actions) :=
  foldl_invariant performKnown id size_le_performKnown inv
    (fun _ _ hinv hnext => performKnown_induction hstep hinv hnext) actions {} hempty hsize

/-! ## Known cdrs -/

/-- The cdr of every pair is a known word. -/
def CdrsKnown (h : Heap) : Prop := ∀ w v d, h.get? w = some (.pair v d) → h.Knows d

theorem empty_cdrsKnown : ({} : Heap).CdrsKnown := by
  intro w v d hw
  change empty.get? w = some (.pair v d) at hw
  rw [get?_empty] at hw
  cases hw

/-- A new pair must have a known cdr. -/
theorem CdrsKnown.push (hk : h.CdrsKnown) (hsize : h.size < Word.capacity)
    (hc : ∀ v d, c = .pair v d → h.Knows d) : (h.push c).CdrsKnown := by
  intro w v d hw
  have hknown : h.Knows d := by
    by_cases hnew : w = h.nextHandle
    · subst hnew
      rw [get?_push_nextHandle hsize] at hw
      exact hc v d (Option.some.inj hw)
    · rw [get?_push_of_ne hnew] at hw
      exact hk w v d hw
  exact hknown.mono (by simp)

/-- A pair must be relinked to a known word. -/
theorem CdrsKnown.setCdr (hk : h.CdrsKnown) (hx : h.get? x = some (.pair v d)) (hy : h.Knows y) :
    (h.setCdr x y).CdrsKnown := by
  intro w u e hw
  have hknown : h.Knows e := by
    by_cases hwx : w = x
    · subst hwx
      rw [get?_setCdr_self hx] at hw
      cases hw
      exact hy
    · rw [get?_setCdr_of_ne hwx] at hw
      exact hk w u e hw
  exact hknown.mono (by simp)

theorem CdrsKnown.perform (hk : h.CdrsKnown) (ha : h.Admits a)
    (hsize : (h.perform a).heap.size ≤ Word.capacity) : (h.perform a).heap.CdrsKnown := by
  have hchange := perform_change h a
  generalize (h.perform a).heap = h' at hchange hsize
  cases hchange with
  | same => exact hk
  | allocated _ c hcell =>
    rw [size_push] at hsize
    refine hk.push hsize ?_
    rintro v d rfl
    exact ha d (Action.cdr_mem_words hcell)
  | interned name =>
    rw [size_pushSymbol] at hsize
    have hpush : (h.push (.symbol name)).CdrsKnown := hk.push hsize nofun
    exact hpush
  | relinked x y car cdr hx => exact hk.setCdr hx (ha y (by simp [Action.words]))

theorem CdrsKnown.performKnown (hk : h.CdrsKnown)
    (hsize : (h.performKnown a).size ≤ Word.capacity) : (h.performKnown a).CdrsKnown :=
  performKnown_induction (fun _ _ hk ha hnext => hk.perform ha hnext) hk hsize

theorem runKnown_cdrsKnown (actions : List (Action Word))
    (hsize : (runKnown actions).size ≤ Word.capacity) : (runKnown actions).CdrsKnown :=
  runKnown_induction empty_cdrsKnown (fun _ _ hk ha hnext => hk.perform ha hnext) actions hsize

end Heap

end ProxyForge
