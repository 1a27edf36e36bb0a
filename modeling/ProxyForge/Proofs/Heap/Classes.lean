import ProxyForge.Proofs.Heap.Known

/-!
# ProxyForge.Proofs.Heap.Classes — class chains

`Heap.Chain` is the class chain from a value: the value itself, and if it is a class
with a parent, the chain from that parent. As clients make no handles up, a parent
is older than its class (`Heap.Descends`), so that every chain ends; and since no
action changes a class, a chain that is there stays.

`is_a` walks this chain. It therefore ends, says whether a value is on it, and says
the same for ever.
-/

namespace ProxyForge

/-- The value behind a class or an instance: its parent, or its class. -/
def Cell.above? : Cell → Option Word
  | .classCell _ parent => parent
  | .instanceCell cls => some cls
  | _ => none

/-- What is behind a new cell was given to the action that makes it. -/
theorem Action.mem_words_of_above? {a : Action Word} {c : Cell} {p : Word}
    (ha : a.cell? = some c) (hp : c.above? = some p) : p ∈ a.words := by
  unfold Action.cell? at ha
  split at ha
  · cases ha
    cases hp
  · cases ha
    cases hp
  · next name parent =>
    cases ha
    have hparent : parent = some p := hp
    simp [words, hparent]
  · next cls =>
    cases ha
    have hcls : some cls = some p := hp
    simp [words, Option.some.inj hcls]
  · cases ha

namespace Heap

variable {h h' : Heap} {a : Action Word} {v w x y p : Word} {ws vs : List Word}

/-! ## Parents are older -/

/-- What is behind a class or an instance is older than it, or no cell at all. -/
def Descends (h : Heap) : Prop :=
  ∀ w c p, h.get? w = some c → c.above? = some p → p.rank < w.rank

theorem empty_descends : ({} : Heap).Descends := by
  intro w c p hw
  change empty.get? w = some c at hw
  rw [get?_empty] at hw
  cases hw

/-- A new cell keeps the order when what is behind it is known. -/
theorem Descends.push {c : Cell} (hd : h.Descends) (hsize : h.size < Word.capacity)
    (hc : ∀ p, c.above? = some p → h.Knows p) : (h.push c).Descends := by
  intro w d p hw hp
  by_cases hnew : w = h.nextHandle
  · subst hnew
    rw [get?_push_nextHandle hsize] at hw
    cases hw
    -- a known word has at most the rank of the newest cell so far
    have hrank := (knows_iff_rank_le (by omega)).1 (hc p hp)
    rw [nextHandle, Word.rank_handle hsize]
    omega
  · rw [get?_push_of_ne hnew] at hw
    exact hd w d p hw hp

/-- A relinked pair has nothing behind it. -/
theorem Descends.setCdr {car cdr : Word} (hd : h.Descends)
    (hx : h.get? x = some (.pair car cdr)) : (h.setCdr x y).Descends := by
  intro w d p hw hp
  by_cases hwx : w = x
  · subst hwx
    rw [get?_setCdr_self hx] at hw
    cases hw
    cases hp
  · rw [get?_setCdr_of_ne hwx] at hw
    exact hd w d p hw hp

theorem Descends.perform (hd : h.Descends) (ha : h.Admits a)
    (hsize : (h.perform a).heap.size ≤ Word.capacity) : (h.perform a).heap.Descends := by
  have hchange := perform_change h a
  generalize (h.perform a).heap = h' at hchange hsize
  cases hchange with
  | same => exact hd
  | allocated _ c hcell =>
    rw [size_push] at hsize
    exact hd.push hsize fun p hp => ha p (Action.mem_words_of_above? hcell hp)
  | interned name =>
    rw [size_pushSymbol] at hsize
    have hpush : (h.push (.symbol name)).Descends := hd.push hsize nofun
    exact hpush
  | relinked x y car cdr hx => exact hd.setCdr hx

theorem runKnown_descends (actions : List (Action Word))
    (hsize : (runKnown actions).size ≤ Word.capacity) : (runKnown actions).Descends :=
  runKnown_induction empty_descends (fun _ _ hd ha hnext => hd.perform ha hnext) actions hsize

theorem Descends.parent_rank_lt (hd : h.Descends) (hw : h.parent? w = some p) :
    p.rank < w.rank := by
  rcases parent?_eq_some.1 hw with ⟨name, hget⟩
  exact hd w _ p hget rfl

/-! ## Chains -/

/-- The class chain from a value, up to the first one that is no class with a parent. -/
inductive Chain (h : Heap) : Word → List Word → Prop where
  | last {w : Word} (hw : h.parent? w = none) : Chain h w [w]
  | more {w p : Word} {ws : List Word} (hw : h.parent? w = some p) (rest : Chain h p ws) :
      Chain h w (w :: ws)

/-- The value `v` is on the class chain from `w`. -/
def OnChain (h : Heap) (w v : Word) : Prop := ∃ ws, h.Chain w ws ∧ v ∈ ws

namespace Chain

theorem unique (hw : h.Chain w ws) (hw' : h.Chain w vs) : ws = vs := by
  induction hw generalizing vs with
  | last hnone =>
    cases hw' with
    | last => rfl
    | more hsome =>
      rw [hnone] at hsome
      cases hsome
  | more hsome _ ih =>
    cases hw' with
    | last hnone =>
      rw [hnone] at hsome
      cases hsome
    | more hsome' rest =>
      rw [hsome] at hsome'
      cases hsome'
      rw [ih rest]

/-- The chain from a value on a chain is the end of that chain. -/
theorem suffix_of_mem (hw : h.Chain w ws) (hv : v ∈ ws) : ∃ vs, h.Chain v vs ∧ vs <:+ ws := by
  induction hw with
  | last hnone =>
    obtain rfl := List.mem_singleton.1 hv
    exact ⟨_, .last hnone, List.suffix_refl _⟩
  | @more w p ws hsome rest ih =>
    rcases List.mem_cons.1 hv with rfl | hv
    · exact ⟨_, .more hsome rest, List.suffix_refl _⟩
    · rcases ih hv with ⟨vs, hvs, hsuffix⟩
      exact ⟨vs, hvs, hsuffix.trans (List.suffix_cons w ws)⟩

/-- A chain has its start at its head. -/
theorem head_eq (hw : h.Chain w ws) : ws.head? = some w := by
  cases hw <;> rfl

/-- A chain depends on the parents of its own members alone. -/
theorem of_parent? (hw : h.Chain w ws) (hsame : ∀ v ∈ ws, h'.parent? v = h.parent? v) :
    h'.Chain w ws := by
  induction hw with
  | last hnone =>
    refine .last ?_
    rw [hsame _ List.mem_cons_self, hnone]
  | @more w p ws hsome _ ih =>
    refine .more ?_ (ih fun v hv => hsame v (List.mem_cons_of_mem w hv))
    rw [hsame _ List.mem_cons_self, hsome]

/-- Ranks fall along a chain. -/
theorem rank_le (hw : h.Chain w ws) (hd : h.Descends) (hv : v ∈ ws) : v.rank ≤ w.rank := by
  induction hw with
  | last =>
    obtain rfl := List.mem_singleton.1 hv
    exact Nat.le_refl _
  | more hsome _ ih =>
    rcases List.mem_cons.1 hv with rfl | hv
    · exact Nat.le_refl _
    · have hlt := hd.parent_rank_lt hsome
      have hle := ih hv
      omega

theorem length_le_rank (hw : h.Chain w ws) (hd : h.Descends) : ws.length ≤ w.rank + 1 := by
  induction hw with
  | last => simp
  | more hsome _ ih =>
    have hlt := hd.parent_rank_lt hsome
    rw [List.length_cons]
    omega

/-- A chain has one value more than the heap has cells at most. -/
theorem length_le_size (hw : h.Chain w ws) (hd : h.Descends) : ws.length ≤ h.size + 1 := by
  cases hw with
  | last => simp
  | more hsome rest =>
    rcases parent?_eq_some.1 hsome with ⟨name, hget⟩
    rcases lt_size_of_get? hget with ⟨i, hlt, hi, rfl⟩
    have hrank := hd.parent_rank_lt hsome
    have hlen := rest.length_le_rank hd
    rw [Word.rank_handle hi] at hrank
    rw [List.length_cons]
    omega

/-- The walk along a chain ends within as many steps as the chain has values. -/
theorem onChain?_eq (hw : h.Chain w ws) {bound : Nat} (hbound : ws.length ≤ bound) (y : Word) :
    h.onChain? y bound w = some (decide (y ∈ ws)) := by
  induction hw generalizing bound with
  | @last w hnone =>
    cases bound with
    | zero => simp at hbound
    | succ bound =>
      rw [onChain?, hnone]
      by_cases hy : w = y
      · simp [hy]
      · simp [hy, Ne.symm hy]
  | @more w p ws hsome _ ih =>
    cases bound with
    | zero => simp at hbound
    | succ bound =>
      have hrest : ws.length ≤ bound := by simpa using hbound
      rw [onChain?, hsome]
      by_cases hy : w = y
      · simp [hy]
      · simp [hy, Ne.symm hy, ih hrest]

end Chain

/-- From every value there is a chain. -/
theorem Descends.exists_chain (hd : h.Descends) (w : Word) : ∃ ws, h.Chain w ws := by
  -- on the rank, since a parent may be anywhere among the older cells
  induction hn : w.rank using Nat.strongRecOn generalizing w with
  | _ n ih =>
    cases hw : h.parent? w with
    | none => exact ⟨[w], .last hw⟩
    | some p =>
      have hlt := hd.parent_rank_lt hw
      rw [hn] at hlt
      rcases ih p.rank hlt p rfl with ⟨ws, hws⟩
      exact ⟨w :: ws, .more hw hws⟩

/-! ## Ancestry -/

theorem OnChain.trans {u : Word} (hv : h.OnChain w v) (hu : h.OnChain v u) : h.OnChain w u := by
  rcases hv with ⟨ws, hws, hmem⟩
  rcases hu with ⟨vs, hvs, hmem'⟩
  rcases hws.suffix_of_mem hmem with ⟨vs', hvs', hsuffix⟩
  obtain rfl := hvs.unique hvs'
  exact ⟨ws, hws, hsuffix.subset hmem'⟩

/-- Two values on each other's chains have the same chain, and so they are the same. -/
theorem OnChain.antisymm (hv : h.OnChain w v) (hw : h.OnChain v w) : w = v := by
  rcases hv with ⟨ws, hws, hmem⟩
  rcases hw with ⟨vs, hvs, hmem'⟩
  -- each of the two chains is an end of the other one
  rcases hws.suffix_of_mem hmem with ⟨vs', hvs', hsuffix⟩
  rcases hvs.suffix_of_mem hmem' with ⟨ws', hws', hsuffix'⟩
  obtain rfl := hvs.unique hvs'
  obtain rfl := hws.unique hws'
  have hsame : ws = vs :=
    hsuffix'.eq_of_length (Nat.le_antisymm hsuffix'.length_le hsuffix.length_le)
  have hhead := hws.head_eq
  rw [hsame, hvs.head_eq] at hhead
  exact (Option.some.inj hhead).symm

/-! ## Instances -/

/-- What `is_a` answers of an instance. -/
theorem Chain.isA?_eq {cls : Word} (hc : h.Chain cls ws) (hx : h.get? x = some (.instanceCell cls))
    (hlen : ws.length ≤ h.size + 1) (y : Word) : h.isA? x y = some (decide (y ∈ ws)) := by
  rw [isA?, instanceClass?_eq_some.2 hx]
  exact hc.onChain?_eq hlen y

/-- Nothing is an instance of anything unless its cell is one. -/
theorem isA?_of_not_instance (hx : h.instanceClass? x = none) (y : Word) :
    h.isA? x y = some false := by
  rw [isA?, hx]

/-- The parent of a known word stays what it is. -/
theorem Outlasts.parent?_eq (hl : h'.Outlasts h) (hw : h.Knows w) :
    h'.parent? w = h.parent? w := by
  cases hget : h.get? w with
  | none =>
    -- only for a known word: a handle that was made up may get a class later on
    have hnone := hl.get?_of_known_none hw hget
    exact (readers_of_get? (hnone.trans hget.symm)).2.1
  | some c =>
    rcases hl.get? w c hget with ⟨cdrs, hget'⟩
    unfold parent?
    rw [hget, hget']
    cases c <;> rfl

/-- So does the class of a cell. -/
theorem Outlasts.instanceClass?_eq {c : Cell} (hl : h'.Outlasts h) (hx : h.get? x = some c) :
    h'.instanceClass? x = h.instanceClass? x := by
  rcases hl.get? x c hx with ⟨cdrs, hx'⟩
  unfold instanceClass?
  rw [hx, hx']
  cases c <;> rfl

/-- All members of the chain behind a cell are known, so the chain stays. -/
theorem Chain.outlasts {c : Cell} (hc : h.Chain p ws) (hd : h.Descends)
    (hx : h.get? x = some c) (hp : c.above? = some p) (hl : h'.Outlasts h) : h'.Chain p ws := by
  refine hc.of_parent? fun v hv => hl.parent?_eq ?_
  have hfits : h.size ≤ Word.capacity := Nat.le_trans hl.size_le hl.fits
  -- a member has at most the rank of `p`, and that is older than the cell of `x`
  rw [knows_iff_rank_le hfits]
  have hx' := (knows_iff_rank_le hfits).1 (knows_of_get? hx)
  have hpx := hd x c p hx hp
  have hvp := hc.rank_le hd hv
  omega

/-- The answer of `is_a` for a cell never changes. -/
theorem Descends.isA?_outlasts {c : Cell} (hd : h.Descends) (hx : h.get? x = some c)
    (hl : h'.Outlasts h) (y : Word) : h'.isA? x y = h.isA? x y := by
  have hclass := hl.instanceClass?_eq hx
  cases hcls : h.instanceClass? x with
  | none =>
    rw [isA?_of_not_instance hcls, isA?_of_not_instance (hclass.trans hcls)]
  | some cls =>
    have hinst : h.get? x = some (.instanceCell cls) := instanceClass?_eq_some.1 hcls
    have hinst' : h'.get? x = some (.instanceCell cls) :=
      instanceClass?_eq_some.1 (hclass.trans hcls)
    rcases hd.exists_chain cls with ⟨ws, hws⟩
    have hws' := hws.outlasts hd hinst rfl hl
    have hlen := hws.length_le_size hd
    have hlen' : ws.length ≤ h'.size + 1 := Nat.le_trans hlen (Nat.add_le_add_right hl.size_le 1)
    rw [hws.isA?_eq hinst hlen, hws'.isA?_eq hinst' hlen']

/-- Whatever actions a heap has been through, as long as they were given known words: `is_a`
answers, and it says whether the second value is on the class chain of the first, which has
at most one value more than there are cells, so that no longer walk than that is needed.
No later action changes the answer for a value that has a cell. To be on a chain is
transitive, and two different values are never on each other's chains. -/
theorem isA_walks_class_chain (actions : List (Action Word))
    (hsize : (runKnown actions).size ≤ Word.capacity) :
    (∀ x y, ∃ b : Bool,
      ((runKnown actions).perform (.primitive (.binary .isA x y))).result = .ok b ∧
      (b = true ↔ ∃ cls, (runKnown actions).get? x = some (.instanceCell cls) ∧
        (runKnown actions).OnChain cls y)) ∧
    (∀ x cls, (runKnown actions).get? x = some (.instanceCell cls) →
      ∃ ws, (runKnown actions).Chain cls ws ∧ ws.length ≤ (runKnown actions).size + 1 ∧
        ∀ y bound, ws.length ≤ bound →
          (runKnown actions).onChain? y bound cls = some (decide (y ∈ ws))) ∧
    (∀ x y later, (runKnown actions).Issued x →
      ((runKnown actions).after later).size ≤ Word.capacity →
      (((runKnown actions).after later).perform (.primitive (.binary .isA x y))).result =
        ((runKnown actions).perform (.primitive (.binary .isA x y))).result) ∧
    (∀ a b c, (runKnown actions).OnChain a b → (runKnown actions).OnChain b c →
      (runKnown actions).OnChain a c) ∧
    (∀ a b, a ≠ b → (runKnown actions).OnChain a b → ¬ (runKnown actions).OnChain b a) := by
  have hd := runKnown_descends actions hsize
  have hanswer : ∀ (g : Heap) x y, (g.perform (.primitive (.binary .isA x y))).result =
      (g.isA? x y).elim (.error .endless) .ok := fun _ _ _ => rfl
  refine ⟨?_, ?_, ?_, fun a b c hab hbc => hab.trans hbc, ?_⟩
  · -- what the answer says
    intro x y
    rw [hanswer]
    cases hcls : (runKnown actions).instanceClass? x with
    | none =>
      refine ⟨false, by rw [isA?_of_not_instance hcls]; rfl, ?_⟩
      constructor
      · intro hfalse
        cases hfalse
      · rintro ⟨cls, hx, -⟩
        rw [instanceClass?_eq_some.2 hx] at hcls
        cases hcls
    | some cls =>
      have hx := instanceClass?_eq_some.1 hcls
      rcases hd.exists_chain cls with ⟨ws, hws⟩
      rw [hws.isA?_eq hx (hws.length_le_size hd)]
      refine ⟨decide (y ∈ ws), rfl, ?_⟩
      constructor
      · intro hy
        exact ⟨cls, hx, ws, hws, of_decide_eq_true hy⟩
      · rintro ⟨cls', hx', ws', hws', hy⟩
        rw [hx] at hx'
        cases hx'
        rw [hws.unique hws']
        exact decide_eq_true hy
  · -- how long the walk takes
    intro x cls hx
    rcases hd.exists_chain cls with ⟨ws, hws⟩
    refine ⟨ws, hws, hws.length_le_size hd, ?_⟩
    intro y bound hbound
    exact hws.onChain?_eq hbound y
  · -- what later actions can do to it
    intro x y later hx hlater
    rcases hx.get? hsize with ⟨c, hc⟩
    rw [hanswer, hanswer, hd.isA?_outlasts hc (outlasts_after later hlater)]
  · intro a b hne hab hba
    exact hne (hab.antisymm hba)

/-- Three classes, an instance of the youngest, a pair that is relinked to it, and a class
whose parent is a string. -/
def family : List (Action Word) :=
  [.newClass "object" none, .newClass "number" (some (.handle 0)),
    .newClass "real" (some (.handle 1)), .newInstance (.handle 2),
    .primitive (.binary .cons .boolT .eol), .newString "text",
    .newClass "odd" (some (.handle 5)), .newClass "forged" (some (.handle 9)),
    .primitive (.binary .setCdr (.handle 4) (.handle 3)), .newInstance (.handle 6)]

theorem isA_walks_class_chain_over_family :
    (runKnown family).size ≤ Word.capacity ∧ (runKnown family).size = 8 ∧
    (runKnown family).Issued (.handle 3) ∧
    (∃ b : Bool,
      ((runKnown family).perform (.primitive (.binary .isA (.handle 3) (.handle 0)))).result =
        .ok b ∧ (b = true ↔ ∃ cls, (runKnown family).get? (.handle 3) = some (.instanceCell cls) ∧
        (runKnown family).OnChain cls (.handle 0))) ∧
    (((runKnown family).after [.newClass "late" (some (.handle 12))]).perform
      (.primitive (.binary .isA (.handle 3) (.handle 0)))).result = .ok true := by
  have hsize : (runKnown family).size ≤ Word.capacity := by decide
  have hissued : (runKnown family).Issued (.handle 3) := ⟨3, by decide, rfl⟩
  have h := isA_walks_class_chain family hsize
  refine ⟨hsize, by decide, hissued, h.1 _ _, ?_⟩
  rw [h.2.2.1 (.handle 3) (.handle 0) _ hissued (by decide)]
  rfl

end Heap

end ProxyForge
