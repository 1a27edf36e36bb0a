import ProxyForge.Proofs.Heap.Change
import ProxyForge.Proofs.Lists.Construction

/-!
# ProxyForge.Proofs.Lists.Protocol — what a builder does, call by call

Between two calls of a builder other clients may do anything, so the list must be
right after each single call. `Program.Builds` is the order of calls that keeps it
right: a pair is made with the next given value, and before another one is made it
is linked behind the last pair. The builder's operations keep to this order
(`push_builds`, `extend_builds`, `extendUntilEnd_builds`), and a call that keeps to
it succeeds and touches the builder's own pairs alone (`Builds.turn`).
-/

namespace ProxyForge

/-! ## The order of calls -/

/-- A program that puts the values `given` into pairs, has put the first of them into the
pairs `ps` and possibly one more into the pair `loose`, which is not linked yet, and ends
with an answer that fits `post`. -/
inductive Program.Builds {α : Type} (given : List Word) (post : α → List Word → Prop) :
    List Word → Option Word → Program α → Prop where
  | done {a : α} {ps : List Word} (ha : post a ps) : Builds given post ps none (.done a)
  | emit {e : Event} {next : Program α} {ps : List Word}
      (hnext : Builds given post ps none next) : Builds given post ps none (.emit e next)
  | constant {c : Constant} {next : Word → Program α} {ps : List Word} {loose : Option Word}
      (hnext : Builds given post ps loose (next (Heap.constantWord c))) :
      Builds given post ps loose (.act (.primitive (.constant c)) next)
  | scan {x : Word} {next : Bool → Program α} {ps : List Word} {loose : Option Word}
      (hnext : Builds given post ps loose (next (x == .undefined))) :
      Builds given post ps loose (.act (.primitive (.unary .isUnbound x)) next)
  | first {v : Word} {next : Word → Program α} (hv : given[0]? = some v)
      (hnext : ∀ c, Builds given post [c] none (next c)) :
      Builds given post [] none (.act (.primitive (.binary .cons v .eol)) next)
  | further {v : Word} {next : Word → Program α} {ps : List Word} (hne : ps ≠ [])
      (hv : given[ps.length]? = some v) (hnext : ∀ c, Builds given post ps (some c) (next c)) :
      Builds given post ps none (.act (.primitive (.binary .cons v .eol)) next)
  | link {l c : Word} {next : Unit → Program α} {ps : List Word} (hl : ps.getLast? = some l)
      (hnext : Builds given post (ps ++ [c]) none (next ())) :
      Builds given post ps (some c) (.act (.primitive (.binary .setCdr l c)) next)

namespace Program.Builds

variable {α β : Type} {given ps : List Word} {loose : Option Word}

theorem bind {mid : α → List Word → Prop} {post : β → List Word → Prop} {p : Program α}
    {f : α → Program β} (hp : p.Builds given mid ps loose)
    (hf : ∀ a ps, mid a ps → (f a).Builds given post ps none) :
    (p >>= f).Builds given post ps loose := by
  induction hp with
  | done ha => exact hf _ _ ha
  | emit _ ih => exact .emit ih
  | constant _ ih => exact .constant ih
  | scan _ ih => exact .scan ih
  | first hv _ ih => exact .first hv ih
  | further hne hv _ ih => exact .further hne hv ih
  | link hl _ ih => exact .link hl ih

/-- What holds at the end may be weakened. -/
theorem mono {post post' : α → List Word → Prop} {p : Program α}
    (hp : p.Builds given post ps loose) (hpost : ∀ a ps, post a ps → post' a ps) :
    p.Builds given post' ps loose := by
  induction hp with
  | done ha => exact .done (hpost _ _ ha)
  | emit _ ih => exact .emit ih
  | constant _ ih => exact .constant ih
  | scan _ ih => exact .scan ih
  | first hv _ ih => exact .first hv ih
  | further hne hv _ ih => exact .further hne hv ih
  | link hl _ ih => exact .link hl ih

end Program.Builds

/-! ## The operations of a builder -/

namespace ListBuilder

variable {lb : ListBuilder} {given ps : List Word} {v : Word}

/-- The builder holds all the values given to it. -/
def Complete (given : List Word) (lb : ListBuilder) (ps : List Word) : Prop :=
  lb.Holds .eol ps ∧ ps.length = given.length

/-- A new builder holds no pair. -/
theorem new_builds {post : ListBuilder → List Word → Prop}
    (hpost : ∀ lb : ListBuilder, lb.Holds .eol [] → post lb []) :
    ListBuilder.new.Builds given post [] none :=
  .constant (.done (hpost _ ⟨rfl, rfl, rfl⟩))

/-- A push takes the next given value. -/
theorem push_builds (hb : lb.Holds .eol ps) (hv : given[ps.length]? = some v) :
    (lb.push v).Builds given
      (fun lb' ps' => lb'.Holds .eol ps' ∧ ps'.length = ps.length + 1) ps none := by
  refine .constant ?_
  cases hlast : ps.getLast? with
  | none =>
    obtain rfl := List.getLast?_eq_none_iff.1 hlast
    refine .first hv fun c => ?_
    rw [hb.last]
    exact .done ⟨hb.first, rfl⟩
  | some l =>
    have hne : ps ≠ [] := by
      rintro rfl
      cases hlast
    refine .further hne hv fun c => ?_
    rw [hb.last, hlast]
    exact .link hlast (.done ⟨hb.more hne, by simp⟩)

/-- Appending the rest of the given values completes the list. -/
theorem extend_builds (pre vs : List Word) (hb : lb.Holds .eol ps)
    (hlen : ps.length = pre.length) :
    (lb.extend vs).Builds (pre ++ vs) (Complete (pre ++ vs)) ps none := by
  induction vs generalizing lb ps pre with
  | nil =>
    rw [List.append_nil]
    exact .done ⟨hb, hlen⟩
  | cons v vs ih =>
    have hv : (pre ++ v :: vs)[ps.length]? = some v := by
      rw [hlen]
      simp
    refine (push_builds hb hv).bind fun lb' ps' h => ?_
    have hrest := ih (pre ++ [v]) h.1 (by simp [h.2, hlen])
    rwa [List.append_assoc, List.singleton_append] at hrest

/-- So does appending an array whose elements before its end are the rest. -/
theorem extendUntilEnd_builds (pre A : List Word) (hb : lb.Holds .eol ps)
    (hlen : ps.length = pre.length) :
    (lb.extendUntilEnd A).Builds (pre ++ A.takeWhile (· ≠ .undefined))
      (Complete (pre ++ A.takeWhile (· ≠ .undefined))) ps none := by
  induction A generalizing lb ps pre with
  | nil =>
    rw [List.takeWhile_nil, List.append_nil]
    exact .done ⟨hb, hlen⟩
  | cons v A ih =>
    refine .scan ?_
    by_cases hv : v = .undefined
    · subst hv
      rw [List.takeWhile_cons_of_neg (by simp), List.append_nil, beq_self_eq_true]
      exact .done ⟨hb, hlen⟩
    · rw [List.takeWhile_cons_of_pos (by simpa using hv), beq_eq_false_iff_ne.2 hv]
      have hnext : (pre ++ v :: A.takeWhile (· ≠ .undefined))[ps.length]? = some v := by
        rw [hlen]
        simp
      refine (push_builds hb hnext).bind fun lb' ps' h => ?_
      have hrest := ih (pre ++ [v]) h.1 (by simp [h.2, hlen])
      rwa [List.append_assoc, List.singleton_append] at hrest

/-- The list `w` is complete and starts at the first of its pairs. -/
def Finished (given : List Word) (w : Word) (ps : List Word) : Prop :=
  w = ps.headD .eol ∧ ps.length = given.length

theorem finish_builds (hb : Complete given lb ps) :
    lb.finish.Builds given (Finished given) ps none :=
  .emit (.done ⟨hb.1.head, hb.2⟩)

end ListBuilder

theorem listOfValues_builds (vs : List Word) :
    (listOfValues vs).Builds vs (ListBuilder.Finished vs) [] none := by
  have hnew : ListBuilder.new.Builds vs (fun lb ps => ps = [] ∧ lb.Holds .eol []) [] none :=
    ListBuilder.new_builds fun lb hb => ⟨rfl, hb⟩
  refine hnew.bind ?_
  rintro lb _ ⟨rfl, hb⟩
  exact (ListBuilder.extend_builds [] vs hb rfl).bind fun _ _ => ListBuilder.finish_builds

theorem listOfArguments_builds (A : List Word) :
    (listOfArguments A).Builds (A.takeWhile (· ≠ .undefined))
      (ListBuilder.Finished (A.takeWhile (· ≠ .undefined))) [] none := by
  have hnew : ListBuilder.new.Builds (A.takeWhile (· ≠ .undefined))
      (fun lb ps => ps = [] ∧ lb.Holds .eol []) [] none :=
    ListBuilder.new_builds fun lb hb => ⟨rfl, hb⟩
  refine hnew.bind ?_
  rintro lb _ ⟨rfl, hb⟩
  exact (ListBuilder.extendUntilEnd_builds [] A hb rfl).bind
    fun _ _ => ListBuilder.finish_builds

/-! ## The heap under a builder -/

/-- The linked pairs hold the values so far, and a loose pair holds the next one. -/
structure Heap.Laid (h : Heap) (given ps : List Word) (loose : Option Word) : Prop where
  segment : h.Segment (ps.headD .eol) ps (given.take ps.length) .eol
  nodup : (ps ++ loose.toList).Nodup
  loose_pair : ∀ c ∈ loose, ∃ v, given[ps.length]? = some v ∧ h.get? c = some (.pair v .eol)

namespace Heap.Laid

variable {h h' : Heap} {given ps : List Word} {loose : Option Word} {v : Word}

/-- Every pair of the builder is a cell. -/
theorem get?_of_mem (hl : h.Laid given ps loose) {w : Word} (hw : w ∈ ps ++ loose.toList) :
    ∃ car cdr, h.get? w = some (.pair car cdr) := by
  rcases List.mem_append.1 hw with hw | hw
  · exact hl.segment.get?_of_mem hw
  · rcases hl.loose_pair w (by simpa using hw) with ⟨v, -, hget⟩
    exact ⟨v, .eol, hget⟩

/-- What happens to other cells does not matter to the builder. -/
theorem of_get? (hl : h.Laid given ps loose)
    (hsame : ∀ w ∈ ps ++ loose.toList, h'.get? w = h.get? w) : h'.Laid given ps loose := by
  refine ⟨hl.segment.of_get? fun p hp => hsame p (List.mem_append_left _ hp), hl.nodup, ?_⟩
  intro c hc
  rcases hl.loose_pair c hc with ⟨v, hv, hget⟩
  refine ⟨v, hv, ?_⟩
  rw [hsame c (List.mem_append_right _ (by simpa using hc)), hget]

/-- What is given later is not in the pairs yet. -/
theorem given_append (hl : h.Laid given ps none) (hlen : ps.length = given.length)
    {vs : List Word} : h.Laid (given ++ vs) ps none := by
  refine ⟨?_, hl.nodup, by simp⟩
  rw [List.take_append_of_le_length (Nat.le_of_eq hlen)]
  exact hl.segment

/-- The first pair needs no link. -/
theorem push_first (hsize : h.size < Word.capacity) (hv : given[0]? = some v) :
    (h.push (.pair v .eol)).Laid given [h.nextHandle] none := by
  refine ⟨?_, by simp, by simp⟩
  have htake : given.take 1 = [v] := by
    rw [List.take_one, List.head?_eq_getElem?, hv]
    rfl
  rw [List.length_singleton, htake]
  exact .cons (get?_push_nextHandle hsize) (.nil _)

/-- A further pair is loose at first. -/
theorem push_further (hl : h.Laid given ps none) (hsize : h.size < Word.capacity)
    (hv : given[ps.length]? = some v) :
    (h.push (.pair v .eol)).Laid given ps (some h.nextHandle) := by
  refine ⟨hl.segment.push hsize _, ?_, ?_⟩
  · have hfresh : h.nextHandle ∉ ps := fun hp => hl.segment.ne_nextHandle hsize hp rfl
    have hnodup : ps.Nodup := by simpa using hl.nodup
    rw [Option.toList_some, ← List.concat_eq_append]
    exact hnodup.concat hfresh
  · intro c hc
    obtain rfl : h.nextHandle = c := by simpa using hc
    exact ⟨v, hv, get?_push_nextHandle hsize⟩

/-- Linking the last pair to the loose one makes that the last pair. -/
theorem link {l c : Word} (hl : h.Laid given ps (some c)) (hlast : ps.getLast? = some l) :
    (h.setCdr l c).Laid given (ps ++ [c]) none := by
  rcases hl.loose_pair c rfl with ⟨v, hv, hget⟩
  have hnodup : (ps ++ [c]).Nodup := hl.nodup
  have hfresh : c ∉ ps := by
    intro hc
    exact (List.nodup_append.1 hnodup).2.2 c hc c (List.mem_singleton_self c) rfl
  have hlink := hl.segment.link (List.nodup_append.1 hnodup).1 hlast hget hfresh
  refine ⟨?_, by simpa using hnodup, by simp⟩
  have htake : given.take (ps ++ [c]).length = given.take ps.length ++ [v] := by
    rw [List.length_append, List.length_singleton, List.take_add_one, hv]
    rfl
  have hhead : (ps ++ [c]).headD .eol = ps.headD .eol := by
    cases ps with
    | nil => cases hlast
    | cons p ps => rfl
  rw [htake, hhead]
  exact hlink

end Heap.Laid

/-! ## One turn -/

/-- What a turn of a builder leaves behind, when the pairs were `ps` and `loose` before: the
program goes on in order, its pairs are laid, new cells are its own, and every other word
reads as before. -/
structure Program.Turned {α : Type} (given : List Word) (post : α → List Word → Prop)
    (h : Heap) (cells : List Word) (e : Effect (Program α)) (p : Program α)
    (ps : List Word) (loose : Option Word) : Prop where
  result : e.result = .ok p
  builds : p.Builds given post ps loose
  laid : e.heap.Laid given ps loose
  cells_eq : ps ++ loose.toList = cells ++ h.nextHandles (e.heap.size - h.size)
  frame : ∀ w ∉ ps ++ loose.toList, e.heap.get? w = h.get? w

namespace Program.Builds

variable {α : Type} {given ps : List Word} {loose : Option Word} {h : Heap}
  {post : α → List Word → Prop}

/-- A turn that leaves the heap as it was. -/
theorem turned_of_heap_eq {p p' : Program α} (hp' : p'.Builds given post ps loose)
    (hl : h.Laid given ps loose) (hresult : (p.step {} h).result = .ok p')
    (hheap : (p.step {} h).heap = h) :
    Program.Turned given post h (ps ++ loose.toList) (p.step {} h) p' ps loose := by
  refine ⟨hresult, hp', ?_, ?_, ?_⟩
  · rw [hheap]
    exact hl
  · rw [hheap, Nat.sub_self]
    simp [Heap.nextHandles]
  · intro w _
    rw [hheap]

/-- A turn that makes a pair. -/
theorem turned_of_push {p p' : Program α} {cells ps' : List Word} {loose' : Option Word}
    {c : Cell} (hp' : p'.Builds given post ps' loose')
    (hl' : (h.push c).Laid given ps' loose') (hcells : ps' ++ loose'.toList = cells ++ [h.nextHandle])
    (hresult : (p.step {} h).result = .ok p') (hheap : (p.step {} h).heap = h.push c) :
    Program.Turned given post h cells (p.step {} h) p' ps' loose' := by
  refine ⟨hresult, hp', ?_, ?_, ?_⟩
  · rw [hheap]
    exact hl'
  · rw [hheap, Heap.size_push, Nat.add_sub_cancel_left, hcells]
    rfl
  · intro w hw
    rw [hheap]
    refine Heap.get?_push_of_ne ?_
    rintro rfl
    rw [hcells] at hw
    exact hw (by simp)

/-- A turn that links the last pair, which only the builder itself relinks. -/
theorem turned_of_link {l c : Word} {next : Unit → Program α} (hlast : ps.getLast? = some l)
    (hnext : (next ()).Builds given post (ps ++ [c]) none) (hl : h.Laid given ps (some c)) :
    Program.Turned given post h (ps ++ [c])
      ((Program.act (.primitive (.binary .setCdr l c)) next).step {} h)
      (next ()) (ps ++ [c]) none := by
  rcases hl.segment.get?_of_mem (List.mem_of_getLast? hlast) with ⟨car, cdr, hget⟩
  have hset := Heap.performBinary_setCdr (y := c) hget
  have hheap : ((Program.act (.primitive (.binary .setCdr l c)) next).step {} h).heap =
      h.setCdr l c := by
    show (h.performBinary l c .setCdr).heap = h.setCdr l c
    rw [hset]
  refine ⟨?_, hnext, ?_, ?_, ?_⟩
  · show (h.performBinary l c .setCdr).result.map next = .ok (next ())
    rw [hset]
    rfl
  · rw [hheap]
    exact hl.link hlast
  · rw [hheap, Heap.size_setCdr, Nat.sub_self]
    simp [Heap.nextHandles]
  · intro w hw
    rw [hheap]
    refine Heap.get?_setCdr_of_ne ?_
    rintro rfl
    exact hw (by simp [List.mem_of_getLast? hlast])

/-- Every turn of a builder succeeds, whatever the others did before it. -/
theorem turn {p : Program α} (hp : p.Builds given post ps loose) (hl : h.Laid given ps loose)
    (hsize : (p.step {} h).heap.size ≤ Word.capacity) :
    ∃ p' ps' loose',
      Program.Turned given post h (ps ++ loose.toList) (p.step {} h) p' ps' loose' := by
  cases hp with
  | done ha => exact ⟨_, _, _, turned_of_heap_eq (.done ha) hl rfl rfl⟩
  | emit hnext => exact ⟨_, _, _, turned_of_heap_eq hnext hl rfl rfl⟩
  | @constant k next _ _ hnext =>
    have hstep : (Program.act (.primitive (.constant k)) next).step {} h =
        h.answer (next (Heap.constantWord k)) := by
      simp only [Program.step, Backend.perform_default]
      rfl
    exact ⟨_, _, _, turned_of_heap_eq hnext hl (by rw [hstep]; rfl) (by rw [hstep]; rfl)⟩
  | scan hnext => exact ⟨_, _, _, turned_of_heap_eq hnext hl rfl rfl⟩
  | @first v next hv hnext =>
    have hsize' : (h.push (.pair v .eol)).size ≤ Word.capacity := hsize
    rw [Heap.size_push] at hsize'
    exact ⟨_, _, _, turned_of_push (hnext _) (Heap.Laid.push_first hsize' hv) (by simp) rfl rfl⟩
  | @further v next _ hne hv hnext =>
    have hsize' : (h.push (.pair v .eol)).size ≤ Word.capacity := hsize
    rw [Heap.size_push] at hsize'
    exact ⟨_, _, _, turned_of_push (hnext _) (hl.push_further hsize' hv) (by simp) rfl rfl⟩
  | link hlast hnext => exact ⟨_, _, _, turned_of_link hlast hnext hl⟩

end Program.Builds

end ProxyForge
