import ProxyForge.Proofs.Lifetime
import ProxyForge.Proofs.Lists.Endings
import ProxyForge.Proofs.Log.Allocations

/-!
# ProxyForge.Proofs.Log.Course — what a step comes to, with its events

`Step.Course` lists what a step can come to: it leaves the builders alone, or it opens, fills
or finishes one, or it builds a whole list, or finds no end of one. With each goes the
list of events that the step causes.

An unfinished builder keeps its list until it is finished, whatever the other steps do, as
long as no pair is of two builders (`Registers.Tended`) and no step is given such a pair to
relink (`Step.Course.tended`). A pair that is given to a step in any other way does not
matter.
-/

namespace ProxyForge

/-! ## Pairs of builders -/

namespace Heap

variable {h : Heap} {w e : Word} {ps vs : List Word}

/-- The pairs on the way from `w`, up to as many as `limit`. -/
def way (h : Heap) : (limit : Nat) → Word → List Word
  | 0, _ => []
  | limit + 1, w =>
    match h.pair? w with
    | none => []
    | some (_, cdr) => w :: h.way limit cdr

theorem Segment.way_eq (hs : h.Segment w ps vs e) (he : h.pair? e = none) {limit : Nat}
    (hlimit : ps.length ≤ limit) : h.way limit w = ps := by
  induction hs generalizing limit with
  | nil e =>
    cases limit with
    | zero => rfl
    | succ limit => rw [way, he]
  | cons hp _ ih =>
    cases limit with
    | zero => cases hlimit
    | succ limit =>
      rw [way, pair?_eq_some.2 hp]
      exact congrArg (_ :: ·) (ih he (Nat.le_of_succ_le_succ hlimit))

end Heap

namespace ListBuilder

variable {lb : ListBuilder} {h h' : Heap} {ps vs : List Word}

/-- The pairs of the list so far. -/
def pairs (lb : ListBuilder) (h : Heap) : List Word := h.way h.size lb.head

theorem Lists.pairs_eq (hb : lb.Lists h .eol ps vs) : lb.pairs h = ps := by
  have hend : h.pair? .eol = none := rfl
  have hlength := Nat.le_trans (hb.segment.length_le_pairs hend) h.length_pairs_le
  rw [pairs, hb.holds.head]
  exact hb.segment.way_eq hend hlength

theorem Lists.get?_ne_none (hb : lb.Lists h .eol ps vs) {w : Word} (hw : w ∈ ps) :
    h.get? w ≠ none := by
  rcases hb.segment.get?_of_mem hw with ⟨car, cdr, hget⟩
  rw [hget]
  nofun

/-- The list of a builder depends on its own pairs alone. -/
theorem Lists.of_kept (hb : lb.Lists h .eol ps vs)
    (hkept : ∀ w ∈ ps, ∀ c, h.get? w = some c → h'.get? w = some c) : lb.Lists h' .eol ps vs := by
  refine ⟨hb.holds, hb.segment.of_get? fun w hw => ?_, hb.nodup⟩
  rcases hb.segment.get?_of_mem hw with ⟨car, cdr, hget⟩
  rw [hget, hkept w hw _ hget]

end ListBuilder

namespace Registers

variable {r r' : Registers} {h h' : Heap} {k : Nat} {lb lb' : ListBuilder} {ps vs vs' : List Word}

/-- Every unfinished builder has a list of its own: a pair is of one builder at most. -/
def Tended (r : Registers) (h : Heap) : Prop :=
  ∃ owner : Word → Option Nat, ∀ k lb, (r.builders[k]?).join = some lb →
    ∃ ps vs, lb.Lists h .eol ps vs ∧ ∀ p ∈ ps, owner p = some k

theorem Tended.lists (ht : r.Tended h) (hk : (r.builders[k]?).join = some lb) :
    ∃ ps vs, lb.Lists h .eol ps vs := by
  rcases ht with ⟨owner, howner⟩
  rcases howner k lb hk with ⟨ps, vs, hb, -⟩
  exact ⟨ps, vs, hb⟩

/-- No more builders on a heap that keeps their pairs. -/
theorem Tended.of_kept (ht : r.Tended h)
    (hbuilders : ∀ (k : Nat) lb, (r'.builders[k]?).join = some lb → (r.builders[k]?).join = some lb)
    (hkept : ∀ (k : Nat) lb, (r.builders[k]?).join = some lb →
      ∀ w ∈ lb.pairs h, ∀ c, h.get? w = some c → h'.get? w = some c) : r'.Tended h' := by
  rcases ht with ⟨owner, howner⟩
  refine ⟨owner, fun k lb hk => ?_⟩
  rcases howner k lb (hbuilders k lb hk) with ⟨ps, vs, hb, hmine⟩
  have hpairs := hkept k lb (hbuilders k lb hk)
  rw [hb.pairs_eq] at hpairs
  exact ⟨ps, vs, hb.of_kept hpairs, hmine⟩

/-- A new builder has no pairs yet. -/
theorem Tended.open (ht : r.Tended h) (hb : lb.Lists h .eol [] []) :
    Tended { r with builders := r.builders.push (some lb) } h := by
  rcases ht with ⟨owner, howner⟩
  refine ⟨owner, fun k lb' hk => ?_⟩
  simp only [Array.getElem?_push] at hk
  split at hk
  · obtain rfl : lb = lb' := Option.some.inj hk
    exact ⟨[], [], hb, nofun⟩
  · exact howner k lb' hk

/-- A builder that is filled takes the new cells, and links its own last pair to them. -/
theorem Tended.fill (ht : r.Tended h) (hk : (r.builders[k]?).join = some lb)
    (hb : lb.Lists h .eol ps vs) (hgrown : h.size ≤ h'.size) (hsize : h'.size ≤ Word.capacity)
    (hb' : lb'.Lists h' .eol (ps ++ h.nextHandles (h'.size - h.size)) vs')
    (hkept : ∀ w c, h.get? w = some c → lb.last ≠ some w → h'.get? w = some c) :
    Tended { r with builders := r.builders.setIfInBounds k (some lb') } h' := by
  rcases ht with ⟨owner, howner⟩
  have hmine : ∀ w ∈ ps, owner w = some k := by
    rcases howner k lb hk with ⟨ps₀, vs₀, hb₀, hmine⟩
    rwa [← hb₀.pairs_eq, hb.pairs_eq] at hmine
  -- the new cells are the builder's, and every other pair is of whom it was
  refine ⟨fun w => if h.get? w = none then some k else owner w, fun j lb₂ hj => ?_⟩
  simp only [Array.getElem?_setIfInBounds] at hj
  split at hj
  · -- the builder itself
    next hkj =>
    split at hj
    · obtain rfl : lb' = lb₂ := Option.some.inj hj
      subst hkj
      refine ⟨_, vs', hb', fun w hw => ?_⟩
      rcases List.mem_append.1 hw with hold | hnew
      · exact (if_neg (hb.get?_ne_none hold)).trans (hmine w hold)
      · have hnone : h.get? w = none := by
          rw [Option.eq_none_iff_forall_ne_some]
          intro c hc
          exact (Heap.issued_of_get? hc).not_mem_nextHandles (by omega) hnew
        exact if_pos hnone
    · cases hj
  · -- another one
    next hkj =>
    rcases howner j lb₂ hj with ⟨ps₂, vs₂, hb₂, hmine₂⟩
    refine ⟨ps₂, vs₂, hb₂.of_kept fun w hw c hc => hkept w c hc fun hlast => ?_, fun w hw => ?_⟩
    · -- a relinked pair would be of both builders
      rw [hb.holds.last] at hlast
      have hk' := hmine w (List.mem_of_getLast? hlast)
      rw [hmine₂ w hw] at hk'
      exact hkj (Option.some.inj hk').symm
    · exact (if_neg (hb₂.get?_ne_none hw)).trans (hmine₂ w hw)

end Registers

/-! ## Single steps -/

/-- Whether a step ends with a whole list, if it ends well. -/
def Step.finishes {α : Type} : Step α → Bool
  | .proxy (.list _) | .listOfArguments _ | .listOfTerminated _ | .listOfValues _
  | .finish _ => true
  | _ => false

/-- The pair that a step is given to relink. -/
def Step.relinked? (st : Step Word) : Option Word := st.action?.bind Action.target?

/-- The list that a step has finished. -/
def Step.list? (st : Step Word) (result : Except Fault Answer) : Option Word :=
  if st.finishes then result.toOption.bind Answer.word? else none

namespace Step

variable {h h' : Heap} {r r' : Registers} {st : Step Word} {p : Program (Answer × Registers)}
  {result : Except Fault (Answer × Registers)} {es : List Event}

/-- What a step can come to: its result, the heap that it leaves, and its events. -/
inductive Course (h : Heap) (r : Registers) : Step Word → Except Fault (Answer × Registers) →
    Heap → List Event → Prop where
  /-- The step leaves the builders alone, and relinks no pair but the one it is given. -/
  | aside {st : Step Word} {result : Except Fault (Answer × Registers)} {h' : Heap}
      (hst : st.finishes = false) (htarget : st.target? r = st.relinked?)
      (hbuilders : ∀ a r', result = .ok (a, r') → r'.builders = r.builders)
      (hfault : ∀ f, result = .error f → h'.size = h.size) :
      Course h r st result h' (h.allocations h')
  | opened {lb : ListBuilder} (hb : lb.Lists h .eol [] []) :
      Course h r .newBuilder
        (.ok (.number r.builders.size, { r with builders := r.builders.push (some lb) })) h []
  /-- The step relinks the last pair of a builder, which gets the new cells. -/
  | filled {st : Step Word} {k : Nat} {lb lb' : ListBuilder} {h' : Heap} {ps vs vs' : List Word}
      (hst : st.finishes = false) (htarget : st.target? r = lb.last)
      (hk : (r.builders[k]?).join = some lb) (hb : lb.Lists h .eol ps vs)
      (hgrown : h.size ≤ h'.size)
      (hb' : lb'.Lists h' .eol (ps ++ h.nextHandles (h'.size - h.size)) vs') :
      Course h r st
        (.ok (.nothing, { r with builders := r.builders.setIfInBounds k (some lb') }))
        h' (h.allocations h')
  | finished {k : Nat} {lb : ListBuilder} {ps vs : List Word}
      (hk : (r.builders[k]?).join = some lb) (hlist : h.Segment lb.head ps vs .eol) :
      Course h r (.finish k)
        (.ok (.word lb.head, { r with builders := r.builders.setIfInBounds k none }))
        h [.listBuilt ps.length]
  | built {st : Step Word} {list : Word} {h' : Heap} {ps vs : List Word}
      (hst : st.finishes = true) (htarget : st.target? r = none)
      (hlist : h'.Segment list ps vs .eol) :
      Course h r st (.ok (.word list, r)) h' (h.allocations h' ++ [.listBuilt ps.length])
  /-- The elements have no end. -/
  | missing {A : List Word} (hA : .undefined ∉ A) :
      Course h r (.listOfTerminated A) (.ok (.nothing, r)) h []

theorem Course.of_runs {a : Answer} {cs : List (Call Word)}
    (hruns : Program.Runs {} p h (a, r') h' cs es) (hc : Course h r st (.ok (a, r')) h' es) :
    Course h r st (p.run h).result (p.run h).heap (p.run h).events.toList := by
  rw [hruns.run_eq]
  exact hc

/-- A silent program whose answer is only filed, and that makes no cell when it faults. -/
theorem Course.of_silent {α : Type} {q : Program α} {f : α → Answer × Registers} (hq : q.Silent)
    (hf : ∀ x, (f x).2.builders = r.builders)
    (hfault : ∀ e, (q.run h).result = .error e → (q.run h).heap.size = h.size)
    (hst : st.finishes = false) (htarget : st.target? r = st.relinked?)
    (hp : p = (q >>= fun x => pure (f x))) :
    Course h r st (p.run h).result (p.run h).heap (p.run h).events.toList := by
  rw [hp, Program.run_map]
  dsimp only
  rw [hq.events_run]
  refine .aside hst htarget ?_ ?_
  · intro a r' hresult
    cases hq' : (q.run h).result with
    | error e =>
      rw [hq'] at hresult
      cases hresult
    | ok x =>
      rw [hq'] at hresult
      have hx : f x = (a, r') := Except.ok.inj hresult
      rw [← hf x, hx]
  · intro e hresult
    cases hq' : (q.run h).result with
    | error e' => exact hfault e' hq'
    | ok x =>
      rw [hq'] at hresult
      cases hresult

/-- The same for a program that reads. -/
theorem Course.of_looks {α : Type} {q : Program α} {f : α → Answer × Registers} (hq : q.Looks)
    (hf : ∀ x, (f x).2.builders = r.builders) (hst : st.finishes = false)
    (htarget : st.target? r = st.relinked?) (hp : p = (q >>= fun x => pure (f x))) :
    Course h r st (p.run h).result (p.run h).heap (p.run h).events.toList := by
  -- it makes no cell at all, whether it faults or not
  refine .of_silent hq.silent hf (fun e _ => ?_) hst htarget hp
  rw [Program.run, hq.reads.heap_runAfter]

theorem Course.of_done {x : Answer × Registers} (hx : x.2.builders = r.builders)
    (hst : st.finishes = false) (htarget : st.target? r = st.relinked?) (hp : p = .done x) :
    Course h r st (p.run h).result (p.run h).heap (p.run h).events.toList :=
  .of_looks (q := .done ()) (f := fun _ => x) .done (fun _ => hx) hst htarget hp

/-- A single action. -/
theorem Course.of_action {a : Action Word} (ha : st.action? = some a) (hst : st.finishes = false)
    (hp : p = (Program.perform a >>= fun x => pure (.ofAction a x, r))) :
    Course h r st (p.run h).result (p.run h).heap (p.run h).events.toList := by
  have htarget : st.target? r = st.relinked? := by
    rw [target?_of_action? ha, relinked?, ha]
    rfl
  refine .of_silent .perform (fun _ => rfl) ?_ hst htarget hp
  intro e he
  rw [Program.run, Program.perform, Program.runAfter_act_eq] at he ⊢
  cases hresult : (h.perform a).result with
  | ok x =>
    rw [hresult] at he
    cases he
  | error f => exact Heap.size_perform_of_fault hresult

/-- A builder that is filled. -/
theorem Course.of_builder {q : Program ListBuilder} {k : Nat} {lb : ListBuilder}
    {ps vs more : List Word} (hst : st.finishes = false) (htarget : st.target? r = lb.last)
    (hk : (r.builders[k]?).join = some lb) (hb : lb.Lists h .eol ps vs) (hsilent : q.Silent)
    (hq : q.Builds (vs ++ more) (ListBuilder.Complete (vs ++ more)) ps none)
    (hp : p = (q >>= fun b => pure
      (.nothing, { r with builders := r.builders.setIfInBounds k (some b) })))
    (hsize : (p.run h).heap.size ≤ Word.capacity) :
    Course h r st (p.run h).result (p.run h).heap (p.run h).events.toList := by
  subst hp
  have hlaid : h.Laid (vs ++ more) ps none := hb.laid.given_append hb.segment.length_eq
  have hfits := Nat.le_trans (Program.size_runAfter_le_bind q _ h #[] #[]) hsize
  rcases hq.runs hlaid hfits with ⟨lb', h', cs, es, ps', hruns, hcomplete, hlaid', hgrown, hpairs⟩
  have hevents := hsilent.events_of_runs hruns
  subst hevents
  have hb' := hcomplete.lists hlaid'
  rw [hpairs, Option.toList_none, List.append_nil] at hb'
  exact .of_runs (hruns.map _) (.filled hst htarget hk hb hgrown hb')

/-- Every step takes one of the courses, as long as its cells fit. -/
theorem course (ht : r.Tended h) (hp : st.program r = some p)
    (hsize : (p.run h).heap.size ≤ Word.capacity) :
    Course h r st (p.run h).result (p.run h).heap (p.run h).events.toList := by
  cases st with
  | action a => exact .of_action rfl rfl (Option.some.inj hp).symm
  | symbol name =>
    refine .of_silent (Program.symbol_silent name) (fun _ => rfl) ?_ rfl rfl
      (Option.some.inj hp).symm
    -- a symbol is there or it is made
    intro e he
    cases hname : h.symbol? name with
    | some sym =>
      rw [(Program.symbol_runs_known hname).run_eq] at he
      cases he
    | none =>
      rw [(Program.symbol_runs_new hname).run_eq] at he
      cases he
  | proxy q =>
    cases q with
    | primitive call => exact .of_action rfl rfl (Option.some.inj hp).symm
    | list A =>
      obtain rfl := Option.some.inj hp
      have hfits := Nat.le_trans
        (Program.size_runAfter_le_bind (ProxyForge.listOfArguments A) _ h #[] #[]) hsize
      rcases listOfArguments_runs A hfits with ⟨list, h', cs, ps, hruns, hlist⟩
      exact .of_runs (hruns.map _) (.built rfl rfl hlist)
    | diagnostic => exact .of_done rfl rfl rfl (Option.some.inj hp).symm
  | listOfArguments A =>
    obtain rfl := Option.some.inj hp
    have harray := argumentArray_runs A h
    rcases harray.rest_fits hsize with ⟨calls, events, hrest⟩
    have hfits := Nat.le_trans (Program.size_runAfter_le_bind
      (ProxyForge.listOfArguments (A ++ [Word.undefined])) _ h calls events) hrest
    rcases listOfArguments_runs (A ++ [Word.undefined]) hfits with ⟨list, h', cs, ps, hruns, hlist⟩
    exact .of_runs (harray.bind (hruns.map _)) (.built rfl rfl hlist)
  | listOfTerminated A =>
    obtain rfl := Option.some.inj hp
    have hfits := Nat.le_trans
      (Program.size_runAfter_le_bind (listOfTerminated? A) _ h #[] #[]) hsize
    by_cases hA : Word.undefined ∈ A
    · rcases listOfTerminated?_runs_of_mem hA hfits with ⟨list, h', cs, ps, vs, hruns, hlist⟩
      exact .of_runs (hruns.map _) (.built rfl rfl hlist)
    · have hnone : Program.Runs {} (listOfTerminated? A) h none h _ _ :=
        (endOfArguments?_runs_none (b := {}) A hA 0).bind_done rfl
      exact .of_runs (hnone.map _) (.missing hA)
  | listOfValues values =>
    obtain rfl := Option.some.inj hp
    have hfits := Nat.le_trans
      (Program.size_runAfter_le_bind (ProxyForge.listOfValues values) _ h #[] #[]) hsize
    rcases listOfValues_runs values hfits with ⟨list, h', cs, ps, hruns, hlist⟩
    exact .of_runs (hruns.map _) (.built rfl rfl hlist)
  | listLength list =>
    exact .of_looks (listLength_looks list) (fun _ => rfl) rfl rfl (Option.some.inj hp).symm
  | listTake list limit =>
    exact .of_looks (listTake_looks list limit) (fun _ => rfl) rfl rfl (Option.some.inj hp).symm
  | newBuilder =>
    obtain rfl := Option.some.inj hp
    rcases ListBuilder.new_runs {} h with ⟨lb, hruns, hb⟩
    exact .of_runs (hruns.map _) (.opened hb)
  | push k v =>
    rcases exists_builder hp with ⟨lb, hk, hp⟩
    rcases ht.lists hk with ⟨ps, vs, hb⟩
    have hv : (vs ++ [v])[ps.length]? = some v := by simp [hb.segment.length_eq]
    have hq : (lb.push v).Builds (vs ++ [v]) (ListBuilder.Complete (vs ++ [v])) ps none := by
      refine (ListBuilder.push_builds hb.holds hv).mono ?_
      rintro lb' ps' ⟨hholds, hlength⟩
      exact ⟨hholds, by simp [hlength, hb.segment.length_eq]⟩
    have htarget : (Step.push k v).target? r = lb.last := by simp [target?, hk]
    exact .of_builder rfl htarget hk hb (lb.push_silent v) hq hp hsize
  | extend k values =>
    rcases exists_builder hp with ⟨lb, hk, hp⟩
    rcases ht.lists hk with ⟨ps, vs, hb⟩
    have htarget : (Step.extend k values).target? r = lb.last := by simp [target?, hk]
    exact .of_builder rfl htarget hk hb (lb.extend_silent values)
      (ListBuilder.extend_builds vs values hb.holds hb.segment.length_eq) hp hsize
  | builderLength k =>
    rcases exists_builder hp with ⟨lb, -, hp⟩
    exact .of_done rfl rfl rfl hp
  | builderIsEmpty k =>
    rcases exists_builder hp with ⟨lb, -, hp⟩
    exact .of_done rfl rfl rfl hp
  | finish k =>
    rcases exists_builder hp with ⟨lb, hk, rfl⟩
    rcases ht.lists hk with ⟨ps, vs, hb⟩
    rcases ListBuilder.finish_runs hb with ⟨hruns, hlist⟩
    exact .of_runs (hruns.map _) (.finished hk hlist)
  | newIter list => exact .of_done rfl rfl rfl (Option.some.inj hp).symm
  | iterNext i =>
    rcases Option.bind_eq_some_iff.1 hp with ⟨it, -, hp⟩
    exact .of_looks it.next_looks (fun _ => rfl) rfl rfl (Option.some.inj hp).symm
  | newCursor A =>
    exact .of_looks (argumentArray_looks A) (fun _ => rfl) rfl rfl (Option.some.inj hp).symm
  | cursorNext i =>
    rcases Option.bind_eq_some_iff.1 hp with ⟨c, -, hp⟩
    exact .of_looks c.next_looks (fun _ => rfl) rfl rfl (Option.some.inj hp).symm
  | describe x => exact .of_done rfl rfl rfl (Option.some.inj hp).symm

/-! ### Builders at work -/

/-- A step leaves every unfinished builder a list of its own, unless it is given one of the
pairs to relink. -/
theorem Course.tended (hc : Course h r st result h' es) (ht : r.Tended h)
    (hspared : ∀ w (k : Nat) lb, st.relinked? = some w → (r.builders[k]?).join = some lb →
      w ∉ lb.pairs h)
    (hkept : ∀ w c, h.get? w = some c → st.target? r ≠ some w → h'.get? w = some c)
    (hsize : h'.size ≤ Word.capacity) :
    (∀ a r', result = .ok (a, r') → r'.Tended h') ∧ (∀ f, result = .error f → r.Tended h') := by
  cases hc with
  | aside hst htarget hbuilders hfault =>
    have hothers : ∀ r' : Registers, r'.builders = r.builders → r'.Tended h' := by
      intro r' hsame
      refine ht.of_kept (fun k lb hk => by rwa [hsame] at hk) fun k lb hk w hw c hc => ?_
      refine hkept w c hc fun htw => ?_
      rw [htarget] at htw
      exact hspared w k lb htw hk hw
    exact ⟨fun a r' hresult => hothers r' (hbuilders a r' hresult), fun _ _ => hothers r rfl⟩
  | opened hb =>
    refine ⟨?_, nofun⟩
    rintro _ _ ⟨⟩
    exact ht.open hb
  | filled hst htarget hk hb hgrown hb' =>
    refine ⟨?_, nofun⟩
    rintro _ _ ⟨⟩
    rw [htarget] at hkept
    exact ht.fill hk hb hgrown hsize hb' hkept
  | @finished k lb ps vs hk hlist =>
    refine ⟨?_, nofun⟩
    rintro _ _ ⟨⟩
    refine ht.of_kept (fun j lb' hj => ?_) fun _ _ _ _ _ _ hc => hc
    simp only [Array.getElem?_setIfInBounds] at hj
    split at hj
    · split at hj <;> cases hj
    · exact hj
  | built hst htarget hlist =>
    refine ⟨?_, nofun⟩
    rintro _ _ ⟨⟩
    refine ht.of_kept (fun _ _ hk => hk) fun k lb hk w hw c hc => hkept w c hc ?_
    rw [htarget]
    nofun
  | missing hA =>
    refine ⟨?_, nofun⟩
    rintro _ _ ⟨⟩
    exact ht

/-! ### Events of a step -/

theorem list?_of_not_finishes (hst : st.finishes = false) (answered : Except Fault Answer) :
    st.list? answered = none := by
  simp [list?, hst]

theorem list?_of_word (hst : st.finishes = true) (list : Word) :
    st.list? (.ok (.word list)) = some list := by
  simp [list?, hst, Except.toOption, Answer.word?]

/-- A step that has finished no list reports the cells that it has made. -/
theorem Course.events_of_unlisted (hc : Course h r st result h' es)
    (hnone : st.list? (result.map Prod.fst) = none) : es = h.allocations h' := by
  cases hc with
  | aside => rfl
  | opened => exact (Heap.allocations_of_size_eq rfl).symm
  | filled => rfl
  | finished => exact absurd hnone (by rw [Except.map, list?_of_word rfl]; nofun)
  | built hst => exact absurd hnone (by rw [Except.map, list?_of_word hst]; nofun)
  | missing => exact (Heap.allocations_of_size_eq rfl).symm

/-- A step that has finished a list reports it behind the cells that it has made. -/
theorem Course.events_of_listed {list : Word} (hc : Course h r st result h' es)
    (hlist : st.list? (result.map Prod.fst) = some list) : ∃ ps vs,
      h'.Segment list ps vs .eol ∧ es = h.allocations h' ++ [.listBuilt ps.length] := by
  cases hc with
  | aside hst =>
    rw [list?_of_not_finishes hst] at hlist
    cases hlist
  | opened => cases hlist
  | filled hst =>
    rw [list?_of_not_finishes hst] at hlist
    cases hlist
  | @finished k lb ps vs hk hsegment =>
    rw [Except.map, list?_of_word rfl] at hlist
    cases hlist
    refine ⟨ps, vs, hsegment, ?_⟩
    rw [Heap.allocations_of_size_eq rfl, List.nil_append]
  | built hst htarget hsegment =>
    rw [Except.map, list?_of_word hst] at hlist
    cases hlist
    exact ⟨_, _, hsegment, rfl⟩
  | missing => cases hlist

/-- A step that asks for a list ends with one, unless the elements have no end. -/
theorem Course.list_or_none (hc : Course h r st result h' es) (hst : st.finishes = true) :
    (∃ list, st.list? (result.map Prod.fst) = some list) ∨
      (result.map Prod.fst = .ok .nothing ∧ ∃ A, st = .listOfTerminated A ∧ .undefined ∉ A) := by
  cases hc with
  | aside hst' =>
    exact absurd (hst'.symm.trans hst) Bool.false_ne_true
  | opened => cases hst
  | filled hst' =>
    exact absurd (hst'.symm.trans hst) Bool.false_ne_true
  | finished => exact .inl ⟨_, list?_of_word rfl _⟩
  | built => exact .inl ⟨_, list?_of_word hst _⟩
  | missing hA => exact .inr ⟨rfl, _, rfl, hA⟩

/-- Whether nothing is to be heard of a step: it only looks at the heap, or it faults, or it
answers that there is no list. -/
def Quiet (h : Heap) (st : Step Word) (answered : Except Fault Answer) : Prop :=
  (st.reads h = true ∧ st.finishes = false) ∨ (∃ f, answered = .error f) ∨
    (st.finishes = true ∧ answered = .ok .nothing)

theorem Course.events_of_quiet (hc : Course h r st result h' es)
    (hreads : st.reads h = true → h' = h) (hquiet : st.Quiet h (result.map Prod.fst)) :
    es = [] := by
  have hsame : st.reads h = true → h.allocations h' = [] := by
    intro hst
    rw [hreads hst]
    exact Heap.allocations_of_size_eq rfl
  cases hc with
  | aside hst htarget hbuilders hfault =>
    rcases hquiet with ⟨hst', -⟩ | ⟨f, hf⟩ | ⟨hst', -⟩
    · exact hsame hst'
    · cases result with
      | ok x => cases hf
      | error f' => exact Heap.allocations_of_size_eq (hfault f' rfl)
    · exact absurd (hst.symm.trans hst') Bool.false_ne_true
  | opened => rfl
  | filled hst =>
    rcases hquiet with ⟨hst', -⟩ | ⟨f, hf⟩ | ⟨hst', -⟩
    · exact hsame hst'
    · cases hf
    · exact absurd (hst.symm.trans hst') Bool.false_ne_true
  | finished =>
    rcases hquiet with ⟨-, hst⟩ | ⟨f, hf⟩ | ⟨-, hf⟩
    · cases hst
    · cases hf
    · cases hf
  | built hst =>
    rcases hquiet with ⟨-, hst'⟩ | ⟨f, hf⟩ | ⟨-, hf⟩
    · exact absurd (hst'.symm.trans hst) Bool.false_ne_true
    · cases hf
    · cases hf
  | missing => rfl

end Step

end ProxyForge
