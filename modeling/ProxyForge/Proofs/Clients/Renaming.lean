import ProxyForge.Session
import ProxyForge.Proofs.Heap.Access
import Mathlib.Data.Fintype.EquivFin
import Mathlib.Data.Fintype.Sum
import Mathlib.Data.List.Nodup

/-!
# ProxyForge.Proofs.Clients.Renaming — handles that differ from run to run

The same client gets other handles on another heap. A `Renaming` lists, for each
cell of one heap in the order of allocation, the handle that its counterpart has
in another heap; words that name no cell stand for themselves. It grows with each
allocation (`Renaming.snoc`), never sends two words to one, and what it says is
part of an injective map of all words (`Renaming.exists_total`).
-/

namespace ProxyForge

/-! ## Renamed results -/

/-- The cell with each word renamed. -/
def Cell.rename (ρ : Word → Word) : Cell → Cell
  | pair car cdr => pair (ρ car) (ρ cdr)
  | symbol name => symbol name
  | string text => string text
  | classCell name parent => classCell name (parent.map ρ)
  | instanceCell cls => instanceCell (ρ cls)

/-- The answer with each word renamed, also the one behind its bits. -/
def Answer.rename (ρ : Word → Word) : Answer → Answer
  | nothing => nothing
  | word w => word (ρ w)
  | bits b => bits (ρ ⟨b⟩).bits
  | truth b => truth b
  | number n => number n
  | text s => text s
  | words ws => words (ws.map ρ)
  | cells cs => cells (cs.map (Cell.rename ρ))

/-- The fault about the renamed word. -/
def Fault.rename (ρ : Word → Word) : Fault → Fault
  | nonPair access x => nonPair access (ρ x)
  | endless => endless

/-- The result of a step with each word renamed; a fault stays a fault. -/
def renameResult (ρ : Word → Word) : Except Fault Answer → Except Fault Answer
  | .ok a => .ok (a.rename ρ)
  | .error f => .error (f.rename ρ)

/-! ## Renamings -/

/-- For each cell of a heap the handle of its counterpart in another heap. -/
structure Renaming where
  handles : List Word
  nodup : handles.Nodup
  isCell : ∀ w ∈ handles, w.cellIndex? ≠ none

namespace Renaming

/-- The word that stands for `w` in the other heap, if `w` is known. -/
def image? (r : Renaming) (w : Word) : Option Word :=
  match w.cellIndex? with
  | none => some w
  | some i => r.handles[i]?

/-- In the other heap `x` goes by the name `y`. -/
def Sends (r : Renaming) (x y : Word) : Prop := r.image? x = some y

/-- The renaming of an empty heap. -/
def empty : Renaming := ⟨[], List.nodup_nil, by simp⟩

/-- One more cell. -/
def snoc (r : Renaming) (v : Word) (hv : v ∉ r.handles) (hcell : v.cellIndex? ≠ none) :
    Renaming where
  handles := r.handles ++ [v]
  nodup := by
    rw [← List.concat_eq_append]
    exact r.nodup.concat hv
  isCell := by
    intro w hw
    rcases List.mem_append.1 hw with hw | hw
    · exact r.isCell w hw
    · rw [List.mem_singleton.1 hw]
      exact hcell

/-- A later renaming knows more cells. -/
instance : LE Renaming := ⟨fun r r' => r.handles <+: r'.handles⟩

variable {r r' r'' : Renaming} {x y v w : Word}

theorem le_refl (r : Renaming) : r ≤ r := List.prefix_refl r.handles

theorem le_trans (h : r ≤ r') (h' : r' ≤ r'') : r ≤ r'' := List.IsPrefix.trans h h'

theorem le_snoc (hv : v ∉ r.handles) (hcell : v.cellIndex? ≠ none) : r ≤ r.snoc v hv hcell :=
  List.prefix_append r.handles [v]

/-! ## Words -/

/-- A word that names no cell stands for itself. -/
theorem sends_of_plain (hx : x.cellIndex? = none) : r.Sends x x := by
  unfold Sends image?
  rw [hx]

theorem Sends.eq_of_plain (h : r.Sends x y) (hx : x.cellIndex? = none) : y = x := by
  unfold Sends image? at h
  rw [hx] at h
  exact (Option.some.inj h).symm

/-- A known word that names a cell has a counterpart in the list. -/
theorem sends_iff_of_cell {i : Nat} (hx : x.cellIndex? = some i) :
    r.Sends x y ↔ r.handles[i]? = some y := by
  unfold Sends image?
  rw [hx]

theorem Sends.mono (h : r.Sends x y) (hle : r ≤ r') : r'.Sends x y := by
  cases hx : x.cellIndex? with
  | none =>
    rw [h.eq_of_plain hx]
    exact sends_of_plain hx
  | some i =>
    rw [sends_iff_of_cell hx] at h ⊢
    rcases hle with ⟨later, hlater⟩
    rw [← hlater, List.getElem?_append_left (List.getElem?_eq_some_iff.1 h).1]
    exact h

theorem Sends.unique (h : r.Sends x y) (h' : r.Sends x v) : y = v := by
  unfold Sends at h h'
  rw [h] at h'
  exact Option.some.inj h'

/-- The counterpart of a cell is a cell, and that of another word is not. -/
theorem Sends.plain_iff (h : r.Sends x y) : x.cellIndex? = none ↔ y.cellIndex? = none := by
  cases hx : x.cellIndex? with
  | none =>
    rw [h.eq_of_plain hx]
    exact iff_of_true rfl hx
  | some i =>
    rw [sends_iff_of_cell hx] at h
    exact iff_of_false (by simp) (r.isCell y (List.mem_of_getElem? h))

/-- No two words go by the same name. -/
theorem Sends.inj (h : r.Sends x v) (h' : r.Sends y v) : x = y := by
  cases hx : x.cellIndex? with
  | none =>
    -- a word that names no cell, so neither does the other
    obtain rfl := h.eq_of_plain hx
    exact h'.eq_of_plain (h'.plain_iff.2 hx)
  | some i =>
    cases hy : y.cellIndex? with
    | none =>
      have hplain := h.plain_iff.2 (h'.plain_iff.1 hy)
      rw [hx] at hplain
      cases hplain
    | some j =>
      -- two cells: the list has no handle twice
      have hi := (sends_iff_of_cell hx).1 h
      have hj := (sends_iff_of_cell hy).1 h'
      have hij : i = j := (List.getElem?_inj (List.getElem?_eq_some_iff.1 hi).1 r.nodup).1
        (hi.trans hj.symm)
      rcases Word.cellIndex?_eq_some.1 hx with ⟨-, rfl⟩
      rcases Word.cellIndex?_eq_some.1 hy with ⟨-, rfl⟩
      rw [hij]

/-- So a test for equality gives the same in both heaps. -/
theorem Sends.eq_iff (hx : r.Sends x v) (hy : r.Sends y w) : x = y ↔ v = w := by
  constructor
  · rintro rfl
    exact hx.unique hy
  · rintro rfl
    exact hx.inj hy

/-- A renaming is part of an injective map of all words. -/
theorem exists_total (r : Renaming) :
    ∃ ρ : Word → Word, Function.Injective ρ ∧ (∀ w, w.cellIndex? = none → ρ w = w) ∧
      ∀ x y, r.Sends x y → ρ x = y := by
  have hbits : Function.Injective fun w : Word => w.bits.toFin := by
    intro x y hxy
    cases x
    cases y
    exact congrArg Word.mk (UInt64.toFin_inj.1 hxy)
  have : Finite Word := Finite.of_injective _ hbits
  have : Fintype Word := Fintype.ofFinite Word
  -- there are finitely many words, so what is injective on some extends to all
  have hinj : Set.InjOn (fun w => (r.image? w).getD w) {w | (r.image? w).isSome} := by
    intro x hx y hy hxy
    rcases Option.isSome_iff_exists.1 hx with ⟨v, hv⟩
    rcases Option.isSome_iff_exists.1 hy with ⟨u, hu⟩
    have hvu : v = u := by simpa [hv, hu] using hxy
    subst hvu
    exact Sends.inj hv hu
  obtain ⟨g, hg⟩ := Set.MapsTo.exists_equiv_extend_of_card_eq (t := Finset.univ)
    Finset.card_univ.symm (fun _ _ => Finset.mem_univ _) hinj
  have hsends : ∀ x y, r.Sends x y → (g x : Word) = y := by
    intro x y hxy
    have hx : r.image? x = some y := hxy
    rw [hg x (by simp [hx]), hx]
    rfl
  refine ⟨fun w => g w, ?_, fun w hw => hsends w w (sends_of_plain hw), hsends⟩
  exact Subtype.val_injective.comp g.injective

end Renaming

/-! ## Cells, answers and faults -/

namespace Renaming

/-- Related options stay related when both are mapped. -/
theorem rel_map {α β γ δ : Type} {R : α → β → Prop} {S : γ → δ → Prop} {f : α → γ} {g : β → δ}
    {a : Option α} {b : Option β} (hab : Option.Rel R a b) (hfg : ∀ x y, R x y → S (f x) (g y)) :
    Option.Rel S (a.map f) (b.map g) := by
  cases hab with
  | none => exact .none
  | some hxy => exact .some (hfg _ _ hxy)

theorem rel_bind {α β γ δ : Type} {R : α → β → Prop} {S : γ → δ → Prop} {f : α → Option γ}
    {g : β → Option δ} {a : Option α} {b : Option β} (hab : Option.Rel R a b)
    (hfg : ∀ x y, R x y → Option.Rel S (f x) (g y)) : Option.Rel S (a.bind f) (b.bind g) := by
  cases hab with
  | none => exact .none
  | some hxy => exact hfg _ _ hxy

/-- Lists that are related element by element have related elements at each position. -/
theorem rel_getElem? {α β : Type} {R : α → β → Prop} {as : List α} {bs : List β}
    (hab : List.Forall₂ R as bs) (i : Nat) : Option.Rel R as[i]? bs[i]? := by
  induction hab generalizing i with
  | nil => exact .none
  | cons h _ ih =>
    cases i with
    | zero => exact .some h
    | succ i => exact ih i

variable {r r' : Renaming} {ρ : Word → Word}

/-- The cell `d` is the counterpart of the cell `c`. -/
inductive SendsCell (r : Renaming) : Cell → Cell → Prop where
  | pair {car car' cdr cdr' : Word} (hcar : r.Sends car car') (hcdr : r.Sends cdr cdr') :
      SendsCell r (.pair car cdr) (.pair car' cdr')
  | symbol (name : String) : SendsCell r (.symbol name) (.symbol name)
  | string (text : String) : SendsCell r (.string text) (.string text)
  | classCell (name : String) {parent parent' : Option Word}
      (hparent : Option.Rel r.Sends parent parent') :
      SendsCell r (.classCell name parent) (.classCell name parent')
  | instanceCell {cls cls' : Word} (hcls : r.Sends cls cls') :
      SendsCell r (.instanceCell cls) (.instanceCell cls')

theorem rel_sends_mono {x y : Option Word} (h : Option.Rel r.Sends x y) (hle : r ≤ r') :
    Option.Rel r'.Sends x y := by
  cases h with
  | none => exact .none
  | some hxy => exact .some (hxy.mono hle)

theorem SendsCell.mono {c d : Cell} (h : r.SendsCell c d) (hle : r ≤ r') : r'.SendsCell c d := by
  cases h with
  | pair hcar hcdr => exact .pair (hcar.mono hle) (hcdr.mono hle)
  | symbol name => exact .symbol name
  | string text => exact .string text
  | classCell name hparent => exact .classCell name (rel_sends_mono hparent hle)
  | instanceCell hcls => exact .instanceCell (hcls.mono hle)

/-- The answer `b` is what `a` is in the other heap. No client is answered cells. -/
inductive SendsAnswer (r : Renaming) : Answer → Answer → Prop where
  | nothing : SendsAnswer r .nothing .nothing
  | word {x y : Word} (h : r.Sends x y) : SendsAnswer r (.word x) (.word y)
  | bits {x y : Word} (h : r.Sends x y) : SendsAnswer r (.bits x.bits) (.bits y.bits)
  | truth (b : Bool) : SendsAnswer r (.truth b) (.truth b)
  | text (s : String) : SendsAnswer r (.text s) (.text s)
  | words {xs ys : Array Word} (h : List.Forall₂ r.Sends xs.toList ys.toList) :
      SendsAnswer r (.words xs) (.words ys)

/-- A fault is about the same word of the client. -/
inductive SendsFault (r : Renaming) : Fault → Fault → Prop where
  | nonPair (access : PairAccess) {x y : Word} (h : r.Sends x y) :
      SendsFault r (.nonPair access x) (.nonPair access y)

/-- Two results are related answers, or they are faults about the same word. -/
inductive SendsResult {α β : Type} (r : Renaming) (R : α → β → Prop) :
    Except Fault α → Except Fault β → Prop where
  | ok {a : α} {b : β} (h : R a b) : SendsResult r R (.ok a) (.ok b)
  | error {f g : Fault} (h : r.SendsFault f g) : SendsResult r R (.error f) (.error g)

theorem forall₂_sends_mono {xs ys : List Word} (h : List.Forall₂ r.Sends xs ys) (hle : r ≤ r') :
    List.Forall₂ r'.Sends xs ys :=
  h.imp fun _ _ hxy => hxy.mono hle

theorem map_eq_of_sends {xs ys : List Word} (h : List.Forall₂ r.Sends xs ys)
    (hρ : ∀ x y, r.Sends x y → ρ x = y) : xs.map ρ = ys := by
  induction h with
  | nil => rfl
  | cons hxy _ ih => rw [List.map_cons, hρ _ _ hxy, ih]

theorem SendsAnswer.mono {a b : Answer} (h : r.SendsAnswer a b) (hle : r ≤ r') :
    r'.SendsAnswer a b := by
  cases h with
  | nothing => exact .nothing
  | word h => exact .word (h.mono hle)
  | bits h => exact .bits (h.mono hle)
  | truth b => exact .truth b
  | text s => exact .text s
  | words h => exact .words (forall₂_sends_mono h hle)

theorem SendsResult.mono {a b : Except Fault Answer} (h : r.SendsResult r.SendsAnswer a b)
    (hle : r ≤ r') : r'.SendsResult r'.SendsAnswer a b := by
  cases h with
  | ok h => exact .ok (h.mono hle)
  | error h =>
    cases h with
    | nonPair access h => exact .error (.nonPair access (h.mono hle))

/-- A map of all words that agrees with the renaming renames the results. -/
theorem SendsResult.renameResult_eq {a b : Except Fault Answer}
    (h : r.SendsResult r.SendsAnswer a b) (hρ : ∀ x y, r.Sends x y → ρ x = y) :
    renameResult ρ a = b := by
  cases h with
  | ok h =>
    refine congrArg Except.ok ?_
    cases h with
    | word h => rw [Answer.rename, hρ _ _ h]
    | bits h => rw [Answer.rename, hρ _ _ h]
    | @words xs ys h =>
      rw [Answer.rename, ← Array.toList_inj.1 (Array.toList_map.trans (map_eq_of_sends h hρ))]
    | nothing => rfl
    | truth b => rfl
    | text s => rfl
  | error h =>
    cases h with
    | nonPair access h => rw [renameResult, Fault.rename, hρ _ _ h]

end Renaming

end ProxyForge
