import ProxyForge.Proofs.Clients.Mirror
import ProxyForge.Proofs.Heap.Change

/-!
# ProxyForge.Proofs.Clients.Lockstep — one action in two heaps

A client does an action on a heap of its own and, with the counterparts of the
words, on a heap that mirrors it. Both give the same result up to the renaming,
which knows the new cell then. In the mirroring heap nothing happens to what is
not the client's: `Heap.Keeps` is the part of `Heap.Lockstep` that the other clients
rely on.
-/

namespace ProxyForge

namespace Heap

open Renaming

variable {h g h' g' g'' : Heap} {r r' r'' : Renaming} {x x' y y' v w : Word} {c d : Cell}

/-- What a client leaves of the common heap, when its renaming has grown from `r` to `r'`:
other cells stay, and so do its own symbols; and what it came to know since was no cell
before, or it is a symbol. -/
structure Keeps (r r' : Renaming) (g g' : Heap) : Prop where
  frame : ∀ w c, g.get? w = some c → (w ∈ r.handles → ∃ name, c = .symbol name) →
    g'.get? w = some c
  fresh : ∀ w ∈ r'.handles,
    w ∈ r.handles ∨ g.get? w = none ∨ ∃ name, g'.get? w = some (.symbol name)

theorem Keeps.refl (r : Renaming) (g : Heap) : Keeps r r g g :=
  ⟨fun _ _ hw _ => hw, fun _ hw => .inl hw⟩

theorem Keeps.trans (hk : Keeps r r' g g') (hk' : Keeps r' r'' g' g'') : Keeps r r'' g g'' := by
  constructor
  · intro w c hw hown
    have hw' := hk.frame w c hw hown
    refine hk'.frame w c hw' fun hmem => ?_
    rcases hk.fresh w hmem with hold | hnone | ⟨name, hname⟩
    · exact hown hold
    · rw [hw] at hnone
      cases hnone
    · rw [hw'] at hname
      exact ⟨name, Option.some.inj hname⟩
  · intro w hw
    by_cases hold : w ∈ r.handles
    · exact .inl hold
    right
    rcases hk'.fresh w hw with hmem | hnone | hsym
    · rcases hk.fresh w hmem with hmem | hnone | ⟨name, hname⟩
      · exact absurd hmem hold
      · exact .inl hnone
      · exact .inr ⟨name, hk'.frame w _ hname fun _ => ⟨name, rfl⟩⟩
    · left
      cases hget : g.get? w with
      | none => rfl
      | some c =>
        rw [hk.frame w c hget fun hmem => absurd hmem hold] at hnone
        cases hnone
    · exact .inr hsym

/-- The results of a client in its own heap and in the common heap `g` agree, and so do
the heaps that it leaves behind. -/
def Lockstep {α β : Type} (R : Renaming → α → β → Prop) (r : Renaming) (g : Heap)
    (a : Except Fault α) (h' : Heap) (b : Except Fault β) (g' : Heap) : Prop :=
  ∃ r', r ≤ r' ∧ Mirrors r' h' g' ∧ Keeps r r' g g' ∧ r'.SendsResult (R r') a b

/-- A step that only reads. -/
theorem Mirrors.lockstep {α β : Type} {R : Renaming → α → β → Prop} {a : Except Fault α}
    {b : Except Fault β} (hm : Mirrors r h g) (hab : r.SendsResult (R r) a b) :
    Lockstep R r g a h b g :=
  ⟨r, le_refl r, hm, .refl r g, hab⟩

/-! ## New cells -/

theorem Mirrors.nextHandle_notMem (hm : Mirrors r h g) (hsize : g.size < Word.capacity) :
    g.nextHandle ∉ r.handles := by
  intro hmem
  rcases hm.get?_of_mem hmem with ⟨d, hd⟩
  exact ne_nextHandle hsize hd rfl

/-- The next cell goes by the handle that was added last. -/
theorem Mirrors.sends_nextHandle (hm : Mirrors r h g) (hsize : h.size < Word.capacity)
    (hv : v ∉ r.handles) (hcell : v.cellIndex? ≠ none) :
    (r.snoc v hv hcell).Sends h.nextHandle v := by
  rw [sends_iff_of_cell (cellIndex?_nextHandle hsize), ← hm.length_eq]
  exact List.getElem?_concat_length

/-- Both heaps get a new cell. -/
theorem Mirrors.alloc (hm : Mirrors r h g) (hcells : h'.cells = h.cells.push c)
    (hget : ∀ w, g'.get? w = (g.push d).get? w) (ht : h'.Tabled) (ht' : g'.Tabled)
    (hcd : r.SendsCell c d) (hsize : g.size < Word.capacity) :
    ∃ r', r ≤ r' ∧ Mirrors r' h' g' ∧ Keeps r r' g g' ∧
      r'.Sends h.nextHandle g.nextHandle := by
  have hv := hm.nextHandle_notMem hsize
  have hcell : g.nextHandle.cellIndex? ≠ none := by
    rw [cellIndex?_nextHandle hsize]
    simp
  have hsame : ∀ w ∈ r.handles, g'.get? w = g.get? w := by
    intro w hw
    rw [hget, get?_push_of_ne]
    rintro rfl
    exact hv hw
  refine ⟨r.snoc g.nextHandle hv hcell, le_snoc hv hcell, ?_, ?_, ?_⟩
  · refine hm.grow hcells ht ht' hv hcell ?_ hcd hsame
    rw [hget, get?_push_nextHandle hsize]
  · constructor
    · intro w c' hw _
      rw [hget, get?_push_of_some hsize hw]
    · intro w hw
      rcases List.mem_append.1 hw with hw | hw
      · exact .inl hw
      · rw [List.mem_singleton.1 hw]
        exact .inr (.inl (get?_nextHandle hsize))
  · exact hm.sends_nextHandle (Nat.lt_of_le_of_lt hm.size_le hsize) hv hcell

/-- Both heaps get a new symbol. -/
theorem Mirrors.intern (hm : Mirrors r h g) {name : String} (hnew : h.symbol? name = none)
    (hnew' : g.symbol? name = none) (hsize : (g.pushSymbol name).size ≤ Word.capacity) :
    ∃ r', r ≤ r' ∧ Mirrors r' (h.pushSymbol name) (g.pushSymbol name) ∧
      Keeps r r' g (g.pushSymbol name) ∧ r'.Sends h.nextHandle g.nextHandle := by
  rw [size_pushSymbol] at hsize
  have hlt : h.size < Word.capacity := Nat.lt_of_le_of_lt hm.size_le hsize
  have hcells : (h.pushSymbol name).cells = h.cells.push (.symbol name) := rfl
  have hget : ∀ w, (g.pushSymbol name).get? w = (g.push (.symbol name)).get? w := fun _ => rfl
  exact hm.alloc hcells hget (hm.tabled.pushSymbol hlt hnew) (hm.tabled'.pushSymbol hsize hnew')
    (.symbol name) hsize

/-- A symbol that is new to the client is the counterpart of none of its cells. -/
theorem Mirrors.notMem_of_new (hm : Mirrors r h g) {name : String}
    (hnew : h.symbol? name = none) (hold : g.symbol? name = some v)
    (hsize : g.size ≤ Word.capacity) : v ∉ r.handles := by
  intro hmem
  rcases List.getElem?_of_mem hmem with ⟨i, hi⟩
  have hlt : i < h.cells.size := by
    have hlen := (List.getElem?_eq_some_iff.1 hi).1
    rwa [hm.length_eq] at hlen
  have hc : h.cells[i]? = some h.cells[i] := Array.getElem?_eq_getElem hlt
  rcases hm.cell i _ v hc hi with ⟨d, hd, hcd⟩
  rw [(hm.tabled' name v).1 hold] at hd
  cases hd
  -- its counterpart would be a symbol of that name in the client's own heap
  generalize h.cells[i] = own at hc hcd
  cases hcd
  have hcap : i < Word.capacity := Nat.lt_of_lt_of_le hlt (Nat.le_trans hm.size_le hsize)
  have hown := (hm.tabled name (Word.handle i)).2 (by rw [get?_handle hcap, hc])
  rw [hnew] at hown
  cases hown

/-- A new symbol of the client may be there already, for another client. -/
theorem Mirrors.adopt (hm : Mirrors r h g) {name : String} (hnew : h.symbol? name = none)
    (hold : g.symbol? name = some v) (hsize : g.size ≤ Word.capacity) :
    ∃ r', r ≤ r' ∧ Mirrors r' (h.pushSymbol name) g ∧ Keeps r r' g g ∧
      r'.Sends h.nextHandle v := by
  have hget := (hm.tabled' name v).1 hold
  have hcell : v.cellIndex? ≠ none := by
    intro hplain
    rw [get?_of_cellIndex?_eq_none hplain] at hget
    cases hget
  have hv := hm.notMem_of_new hnew hold hsize
  have hlt : h.size < Word.capacity := Nat.lt_of_lt_of_le (hm.size_lt hv hget) hsize
  refine ⟨r.snoc v hv hcell, le_snoc hv hcell, ?_, ?_, hm.sends_nextHandle hlt hv hcell⟩
  · exact hm.grow rfl (hm.tabled.pushSymbol hlt hnew) hm.tabled' hv hcell hget (.symbol name)
      fun _ _ => rfl
  · constructor
    · exact fun _ _ hw _ => hw
    · intro w hw
      rcases List.mem_append.1 hw with hw | hw
      · exact .inl hw
      · rw [List.mem_singleton.1 hw]
        exact .inr (.inr ⟨name, hget⟩)

end Heap

/-! ## Actions -/

namespace Renaming

open Heap

variable {r : Renaming} {x x' y y' : Word} {a a' : Action Word} {h g : Heap}

/-- The action `b` is what `a` is in the other heap. These are the actions of a client:
a symbol is interned by its two sections together, and the cells are not laid open. -/
inductive SendsAction (r : Renaming) : Action Word → Action Word → Prop where
  | constant (k : Constant) : SendsAction r (.primitive (.constant k)) (.primitive (.constant k))
  | unary (p : Unary) {x x' : Word} (hx : r.Sends x x') :
      SendsAction r (.primitive (.unary p x)) (.primitive (.unary p x'))
  | binary (p : Binary) {x x' y y' : Word} (hx : r.Sends x x') (hy : r.Sends y y') :
      SendsAction r (.primitive (.binary p x y)) (.primitive (.binary p x' y'))
  | newString (text : String) : SendsAction r (.newString text) (.newString text)
  | newClass (name : String) {parent parent' : Option Word}
      (hparent : Option.Rel r.Sends parent parent') :
      SendsAction r (.newClass name parent) (.newClass name parent')
  | newInstance {cls cls' : Word} (hcls : r.Sends cls cls') :
      SendsAction r (.newInstance cls) (.newInstance cls')
  | symbolName {x x' : Word} (hx : r.Sends x x') :
      SendsAction r (.symbolName x) (.symbolName x')
  | stringValue {x x' : Word} (hx : r.Sends x x') :
      SendsAction r (.stringValue x) (.stringValue x')
  | className {x x' : Word} (hx : r.Sends x x') :
      SendsAction r (.className x) (.className x')

/-- Related answers to an action and to its counterpart. -/
def Answers (a a' : Action Word) (r : Renaming) (x : a.Answer) (y : a'.Answer) : Prop :=
  r.SendsAnswer (.ofAction a x) (.ofAction a' y)

theorem sends_constant (k : Constant) :
    r.Sends (constantWord k) (constantWord k) := by
  refine sends_of_plain ?_
  cases k <;> decide

theorem sendsAnswer_ofOption (s : Option String) :
    r.SendsAnswer (s.elim .nothing .text) (s.elim .nothing .text) := by
  cases s with
  | none => exact .nothing
  | some s => exact .text s

/-- Related readings of a car or a cdr, or two faults about the same word. -/
theorem sendsResult_answerOr {access : PairAccess} {s s' : Option Word} (hx : r.Sends x x')
    (hs : Option.Rel r.Sends s s') :
    r.SendsResult (fun v w => r.SendsAnswer (.word v) (.word w))
      (h.answerOr (.nonPair access x) s).result (g.answerOr (.nonPair access x') s').result := by
  cases hs with
  | none => exact .error (.nonPair access hx)
  | some hv => exact .ok (.word hv)

/-- A test of a word against a constant. -/
theorem Sends.beq_eq {k : Word} (hx : r.Sends x x') (hk : k.cellIndex? = none) :
    (x == k) = (x' == k) := by
  rw [Bool.eq_iff_iff, beq_iff_eq, beq_iff_eq]
  exact hx.eq_iff (sends_of_plain hk)

/-- A primitive of one value. -/
theorem lockstep_unary (hm : Mirrors r h g) (p : Unary) (hx : r.Sends x x') :
    Lockstep (Answers (.primitive (.unary p x)) (.primitive (.unary p x'))) r g
      (h.performUnary x p).result h (g.performUnary x' p).result g := by
  refine hm.lockstep ?_
  have htruth : ∀ {b b' : Bool}, b = b' → r.SendsAnswer (.truth b) (.truth b') := by
    rintro b _ rfl
    exact .truth b
  cases p with
  | unpack => exact .ok (.bits hx)
  | isFalse => exact .ok (htruth (hx.beq_eq (by decide)))
  | isTrue =>
    refine .ok (htruth ?_)
    rw [bne, bne, hx.beq_eq (by decide)]
  | isBool =>
    refine .ok (htruth ?_)
    rw [hx.beq_eq (by decide), hx.beq_eq (k := .boolT) (by decide)]
  | isNull => exact .ok (htruth (hx.beq_eq (by decide)))
  | isPair =>
    refine .ok (htruth ?_)
    have hpair := hm.pair? hx
    generalize h.pair? x = p at hpair
    generalize g.pair? x' = q at hpair
    cases hpair <;> rfl
  | isSymbol =>
    refine .ok (htruth ?_)
    rw [hm.symbolName? hx]
  | isString =>
    refine .ok (htruth ?_)
    rw [hm.stringValue? hx]
  | isUnbound => exact .ok (htruth (hx.beq_eq (by decide)))
  | car => exact sendsResult_answerOr hx (rel_map (hm.pair? hx) fun _ _ h => h.1)
  | cdr => exact sendsResult_answerOr hx (rel_map (hm.pair? hx) fun _ _ h => h.2)

/-- A new cell that is no symbol. -/
theorem lockstep_alloc {α β : Type} {R : Renaming → α → β → Prop} {c d : Cell}
    (hm : Mirrors r h g) (hcd : r.SendsCell c d) (hc : ∀ name, c ≠ .symbol name)
    (hsize : (g.push d).size ≤ Word.capacity) {a : α} {b : β}
    (hR : ∀ r' : Renaming, r'.Sends h.nextHandle g.nextHandle → R r' a b) :
    Lockstep R r g (.ok a) (h.push c) (.ok b) (g.push d) := by
  rw [size_push] at hsize
  have hd : ∀ name, d ≠ .symbol name := by
    rintro name rfl
    cases hcd
    exact hc name rfl
  have hlt : h.size < Word.capacity := Nat.lt_of_le_of_lt hm.size_le hsize
  have hcells : (h.push c).cells = h.cells.push c := rfl
  have hget : ∀ w, (g.push d).get? w = (g.push d).get? w := fun _ => rfl
  obtain ⟨r', hle, hm', hkeeps, hsends⟩ :=
    hm.alloc hcells hget (hm.tabled.push hlt hc) (hm.tabled'.push hsize hd) hcd hsize
  exact ⟨r', hle, hm', hkeeps, .ok (hR r' hsends)⟩

/-- Relinking a pair, which is the client's own, or a fault about the same word. -/
theorem lockstep_setCdr (hm : Mirrors r h g) (hx : r.Sends x x') (hy : r.Sends y y') :
    Lockstep (Answers (.primitive (.binary .setCdr x y)) (.primitive (.binary .setCdr x' y'))) r g
      (h.performBinary x y .setCdr).result (h.performBinary x y .setCdr).heap
      (g.performBinary x' y' .setCdr).result (g.performBinary x' y' .setCdr).heap := by
  unfold performBinary
  have hpair := hm.pair? hx
  cases hp : h.pair? x with
  | none =>
    rw [hp] at hpair
    generalize g.pair? x' = q at hpair ⊢
    cases hpair
    exact hm.lockstep (.error (.nonPair .setCdr hx))
  | some p =>
    rw [hp] at hpair
    have hget := pair?_eq_some.1 hp
    generalize hq : g.pair? x' = q at hpair ⊢
    cases hpair with
    | @some _ q hpq =>
      have hget' := pair?_eq_some.1 hq
      refine ⟨r, le_refl r, hm.setCdr hx hy hget, ⟨?_, fun w hw => .inl hw⟩, .ok .nothing⟩
      intro w c hw hown
      show (g.setCdr x' y').get? w = some c
      rw [get?_setCdr_of_ne, hw]
      -- the relinked pair is known to the client, and it is no symbol
      rintro rfl
      rw [hget'] at hw
      obtain rfl := Option.some.inj hw
      have hmem : w ∈ r.handles := by
        rcases get?_eq_some.1 hget with ⟨i, hi, rfl, -⟩
        exact List.mem_of_getElem? ((sends_iff_of_cell (Word.cellIndex?_handle hi)).1 hx)
      rcases hown hmem with ⟨name, hname⟩
      cases hname

/-- A primitive of two values. -/
theorem lockstep_binary (hm : Mirrors r h g) (p : Binary) (hx : r.Sends x x')
    (hy : r.Sends y y') (hsize : (g.performBinary x' y' p).heap.size ≤ Word.capacity) :
    Lockstep (Answers (.primitive (.binary p x y)) (.primitive (.binary p x' y'))) r g
      (h.performBinary x y p).result (h.performBinary x y p).heap
      (g.performBinary x' y' p).result (g.performBinary x' y' p).heap := by
  cases p with
  | isEq =>
    refine hm.lockstep (.ok ?_)
    have heq : (x == y) = (x' == y') := by
      rw [Bool.eq_iff_iff, beq_iff_eq, beq_iff_eq]
      exact hx.eq_iff hy
    show r.SendsAnswer (.truth (x == y)) (.truth (x' == y'))
    rw [heq]
    exact .truth _
  | isA =>
    rcases hm.isA? hx hy with ⟨b, hb, hb'⟩
    refine hm.lockstep ?_
    show SendsResult r _ (h.answerOr .endless (h.isA? x y)).result
      (g.answerOr .endless (g.isA? x' y')).result
    rw [hb, hb']
    exact .ok (.truth b)
  | cons => exact lockstep_alloc hm (.pair hx hy) (by simp) hsize fun r' hr' => .word hr'
  | setCdr => exact lockstep_setCdr hm hx hy

/-- Every action of a client gives the same in its own heap and in the common one. -/
theorem SendsAction.lockstep (ha : r.SendsAction a a') (hm : Mirrors r h g)
    (hsize : (g.perform a').heap.size ≤ Word.capacity) :
    Lockstep (Answers a a') r g (h.perform a).result (h.perform a).heap
      (g.perform a').result (g.perform a').heap := by
  cases ha with
  | constant k => exact hm.lockstep (.ok (.word (sends_constant k)))
  | @unary p x x' hx =>
    have hheap : ∀ (h : Heap) (x : Word), (h.performUnary x p).heap = h := by
      intro h x
      cases p <;> rfl
    show Lockstep _ r g (h.performUnary x p).result (h.performUnary x p).heap
      (g.performUnary x' p).result (g.performUnary x' p).heap
    rw [hheap, hheap]
    exact lockstep_unary hm p hx
  | binary p hx hy => exact lockstep_binary hm p hx hy hsize
  | newString text =>
    exact lockstep_alloc hm (.string text) (by simp) hsize fun r' hr' => .word hr'
  | newClass name hparent =>
    exact lockstep_alloc hm (.classCell name hparent) (by simp) hsize fun r' hr' => .word hr'
  | newInstance hcls =>
    exact lockstep_alloc hm (.instanceCell hcls) (by simp) hsize fun r' hr' => .word hr'
  | symbolName hx =>
    refine hm.lockstep (.ok ?_)
    rw [hm.symbolName? hx]
    exact sendsAnswer_ofOption _
  | stringValue hx =>
    refine hm.lockstep (.ok ?_)
    rw [hm.stringValue? hx]
    exact sendsAnswer_ofOption _
  | className hx =>
    refine hm.lockstep (.ok ?_)
    rw [hm.className? hx]
    exact sendsAnswer_ofOption _

end Renaming

end ProxyForge
