import ProxyForge.Proofs.Log.Course

/-!
# ProxyForge.Proofs.Log.Chronicle — the event log beside the heap

The events of a script are a second record of what has become of its heap. A script keeps the
two in step (`Session.Kept`): the positions that the events report are those of all cells,
in order, and every unfinished builder has a list of its own. From that it follows for each
single step what its events tell (`Session.Recorded`).
-/

namespace ProxyForge

/-! ## Steps of a script -/

/-- The position in an event of an allocation. -/
def Event.position? : Event → Option Nat
  | .cellAllocated index => some index
  | _ => none

/-- The positions of the cells that the events report, in order. -/
def positions (es : List Event) : List Nat := es.filterMap Event.position?

theorem positions_append (es es' : List Event) :
    positions (es ++ es') = positions es ++ positions es' := List.filterMap_append

theorem mem_positions {es : List Event} {i : Nat} : i ∈ positions es ↔ .cellAllocated i ∈ es := by
  rw [positions, List.mem_filterMap]
  constructor
  · rintro ⟨e, he, hi⟩
    cases e <;> cases hi
    exact he
  · intro he
    exact ⟨_, he, rfl⟩

theorem positions_allocations (h h' : Heap) :
    positions (h.allocations h') = List.range' h.size (h'.size - h.size) := by
  have hsome : (Event.position? ∘ Event.cellAllocated) = some := rfl
  rw [positions, Heap.allocations, List.filterMap_map, hsome, List.filterMap_some]

namespace Session

/-- All events of a script, in order. -/
def eventsOf (outcomes : Array Outcome) : List Event :=
  outcomes.toList.flatMap fun o => o.events.toList

/-- The pairs of the lists that are not finished. -/
def unfinished (s : Session) : List Word :=
  s.registers.builders.toList.flatMap fun o => o.elim [] fun lb => lb.pairs s.heap

/-- Whether a step is not given a pair of an unfinished list to relink. -/
def spares (s : Session) (st : Step Ref) : Bool :=
  ((st.resolve s.resolve).bind Step.relinked?).all fun w => !s.unfinished.contains w

/-- Whether no step of a script is. -/
def undisturbed (s : Session) : List (Step Ref) → Bool
  | [] => true
  | st :: rest =>
    s.spares st &&
      match s.step {} st with
      | some (_, s') => s'.undisturbed rest
      | none => true

/-- What the events tell of a step, after the events `past` of the steps before it. -/
structure Recorded (past : List Event) (s : Session) (st : Step Word) (o : Outcome)
    (s' : Session) : Prop where
  /-- Without a list the events are those of the new cells. -/
  unlisted : st.list? o.result = none → o.events.toList = s.heap.allocations s'.heap
  /-- A list is reported once, behind the allocations of all its pairs, and with the length
  that it has. -/
  listed : ∀ list, st.list? o.result = some list → ∃ ps vs,
    s'.heap.Segment list ps vs .eol ∧ ((listLength list).run s'.heap).result = .ok ps.length ∧
    o.events.toList = s.heap.allocations s'.heap ++ [.listBuilt ps.length] ∧
    ∀ p ∈ ps, ∃ i, p = Word.handle i ∧ .cellAllocated i ∈ past ++ s.heap.allocations s'.heap
  /-- Whoever asks for a list gets one, unless the elements have no end. -/
  finishes : st.finishes = true → (∃ list, st.list? o.result = some list) ∨
    (o.result = .ok .nothing ∧ ∃ A, st = .listOfTerminated A ∧ .undefined ∉ A)
  /-- A cell is reported in the step that has made it. -/
  created : ∀ i, .cellAllocated i ∈ o.events.toList →
    s.heap.get? (.handle i) = none ∧ (∃ c, s'.heap.get? (.handle i) = some c) ∧
      (Word.handle i).bits.toNat = (i + 1) * 8
  silent : st.Quiet s.heap o.result → o.events = #[]

variable {s s' : Session} {st : Step Ref} {o : Outcome}

theorem size_le_step (hs : s.step {} st = some (o, s')) : s.heap.size ≤ s'.heap.size := by
  rcases step_eq_some hs with ⟨word, p, -, -, hheap, -⟩
  rw [hheap]
  exact p.size_le_runAfter s.heap #[] #[]

/-- A step that spares the unfinished lists is given no pair of any builder to relink. -/
theorem notMem_pairs_of_spares {word : Step Word} (hspares : s.spares st = true)
    (hword : st.resolve s.resolve = some word) {w : Word} (hw : word.relinked? = some w) {k : Nat}
    {lb : ListBuilder} (hk : (s.registers.builders[k]?).join = some lb) : w ∉ lb.pairs s.heap := by
  have hfree : w ∉ s.unfinished := by simpa [spares, hword, hw] using hspares
  intro hmem
  refine hfree (List.mem_flatMap.2 ⟨some lb, ?_, hmem⟩)
  rw [Option.join_eq_some_iff] at hk
  exact Array.mem_toList_iff.2 (Array.mem_of_getElem? hk)

/-- The heap, its builders and the events so far go together. -/
structure Kept (s : Session) (past : List Event) : Prop where
  tended : s.registers.Tended s.heap
  positions_eq : positions past = List.range s.heap.size

theorem init_kept : Kept {} [] := by
  refine ⟨⟨fun _ => none, ?_⟩, rfl⟩
  rintro k lb ⟨⟩

variable {past : List Event}

/-- A step takes one of the courses, and leaves every unfinished builder a list of its own. -/
theorem step_course (ht : s.registers.Tended s.heap) (hspares : s.spares st = true)
    (hs : s.step {} st = some (o, s')) (hsize : s'.heap.size ≤ Word.capacity) :
    ∃ word result, st.resolve s.resolve = some word ∧
      Step.Course s.heap s.registers word result s'.heap o.events.toList ∧
      o.result = result.map Prod.fst ∧ s'.registers.Tended s'.heap ∧
      (word.reads s.heap = true → s'.heap = s.heap) := by
  rcases step_eq_some hs with ⟨word, p, hword, hp, hheap, -, hevents, hresult, hok, herror⟩
  have hfits : (p.run s.heap).heap.size ≤ Word.capacity := by rwa [← hheap]
  have hcourse := Step.course ht hp hfits
  have htended := hcourse.tended ht
    (fun w k lb hw hk => notMem_pairs_of_spares hspares hword hw hk)
    (fun w c hw htarget => Step.get?_of_ne_target hp hw htarget hfits) hfits
  rw [← hheap, ← hevents] at hcourse
  refine ⟨word, _, hword, hcourse, hresult, ?_, ?_⟩
  · rw [hheap]
    cases hrun : (p.run s.heap).result with
    | ok answered =>
      rw [hok _ _ hrun]
      exact htended.1 _ _ hrun
    | error f =>
      rw [herror f hrun]
      exact htended.2 f hrun
  · intro hreads
    rw [hheap, Step.heap_of_reads hp hreads]

/-- Whether it has finished a list or not, a step reports exactly the cells that it makes. -/
theorem positions_of_course {h h' : Heap} {r : Registers} {word : Step Word}
    {result : Except Fault (Answer × Registers)} {es : List Event}
    (hc : Step.Course h r word result h' es) :
    positions es = List.range' h.size (h'.size - h.size) := by
  cases hlist : word.list? (result.map Prod.fst) with
  | none => rw [hc.events_of_unlisted hlist, positions_allocations]
  | some list =>
    rcases hc.events_of_listed hlist with ⟨ps, vs, -, hes⟩
    rw [hes, positions_append, positions_allocations]
    exact List.append_nil _

theorem recorded_of_course {word : Step Word} {result : Except Fault (Answer × Registers)}
    (hc : Step.Course s.heap s.registers word result s'.heap o.events.toList)
    (hresult : o.result = result.map Prod.fst)
    (hreads : word.reads s.heap = true → s'.heap = s.heap)
    (hpast : positions past = List.range s.heap.size) (hgrown : s.heap.size ≤ s'.heap.size)
    (hsize : s'.heap.size ≤ Word.capacity) : Recorded past s word o s' := by
  have hpositions := positions_of_course hc
  constructor
  · intro hnone
    rw [hresult] at hnone
    exact hc.events_of_unlisted hnone
  · intro list hlist
    rw [hresult] at hlist
    rcases hc.events_of_listed hlist with ⟨ps, vs, hsegment, hes⟩
    rcases listLength_runs hsegment rfl with ⟨cs, hlength⟩
    refine ⟨ps, vs, hsegment, by rw [hlength.run_eq], hes, ?_⟩
    -- a pair has its cell by now, and all cells by now are reported
    intro p hp
    rcases hsegment.get?_of_mem hp with ⟨car, cdr, hget⟩
    rcases Heap.lt_size_of_get? hget with ⟨i, hi, -, rfl⟩
    refine ⟨i, rfl, ?_⟩
    rw [List.mem_append, ← mem_positions, hpast, List.mem_range, Heap.mem_allocations]
    omega
  · intro hst
    rw [hresult]
    exact hc.list_or_none hst
  · intro i hi
    rw [← mem_positions, hpositions, List.mem_range'_1] at hi
    have hfits : i < Word.capacity := by omega
    refine ⟨?_, ?_, Word.toNat_handle hfits⟩
    · rw [Heap.get?_handle hfits]
      exact Array.getElem?_eq_none (by simpa [Heap.size] using hi.1)
    · rw [Heap.get?_handle hfits]
      have hlt : i < s'.heap.size := by omega
      exact ⟨_, Array.getElem?_eq_getElem hlt⟩
  · intro hquiet
    rw [hresult] at hquiet
    exact Array.toList_eq_nil_iff.1 (hc.events_of_quiet hreads hquiet)

theorem Kept.step (hkept : s.Kept past) (hspares : s.spares st = true)
    (hs : s.step {} st = some (o, s')) (hsize : s'.heap.size ≤ Word.capacity) :
    s'.Kept (past ++ o.events.toList) ∧
      ∃ word, st.resolve s.resolve = some word ∧ Recorded past s word o s' := by
  rcases step_course hkept.tended hspares hs hsize with
    ⟨word, result, hword, hcourse, hresult, htended, hreads⟩
  have hgrown : s.heap.size ≤ s'.heap.size := size_le_step hs
  refine ⟨⟨htended, ?_⟩, word, hword,
    recorded_of_course hcourse hresult hreads hkept.positions_eq hgrown hsize⟩
  have hrange := Heap.range'_append_of_le (Nat.zero_le s.heap.size) hgrown
  rw [positions_append, hkept.positions_eq, positions_of_course hcourse, List.range_eq_range',
    List.range_eq_range']
  exact hrange

/-! ## Scripts -/

variable {outcomes outcomes' : Array Outcome} {script before later : List (Step Ref)}

theorem eventsOf_push (outcomes : Array Outcome) (o : Outcome) :
    eventsOf (outcomes.push o) = eventsOf outcomes ++ o.events.toList := by
  simp [eventsOf]

theorem size_le_runAfter (hs : s.runAfter {} outcomes script = some (outcomes', s')) :
    s.heap.size ≤ s'.heap.size := by
  rcases exists_actions hs with ⟨actions, hheap, -⟩
  rw [hheap]
  exact Heap.size_le_after s.heap actions

/-- A script as its first step and the rest. -/
theorem runAfter_cons (hs : s.runAfter {} outcomes (st :: script) = some (outcomes', s')) :
    ∃ o s₁, s.step {} st = some (o, s₁) ∧
      s₁.runAfter {} (outcomes.push o) script = some (outcomes', s') := by
  rcases Option.bind_eq_some_iff.1 hs with ⟨⟨o, s₁⟩, hstep, hrest⟩
  exact ⟨o, s₁, hstep, hrest⟩

theorem undisturbed_cons {s₁ : Session} (hfree : s.undisturbed (st :: script) = true)
    (hs : s.step {} st = some (o, s₁)) : s.spares st = true ∧ s₁.undisturbed script = true := by
  simpa [undisturbed, hs] using hfree

/-- Up to any of its steps a script keeps the heap, its builders and the events together, and
goes on from there. -/
theorem Kept.run (hkept : s.Kept (eventsOf outcomes))
    (hfree : s.undisturbed (before ++ later) = true)
    (hs : s.runAfter {} outcomes (before ++ later) = some (outcomes', s'))
    (hsize : s'.heap.size ≤ Word.capacity) :
    ∃ past s₁, s.runAfter {} outcomes before = some (past, s₁) ∧ s₁.Kept (eventsOf past) ∧
      past.size = outcomes.size + before.length ∧ s₁.undisturbed later = true ∧
      s₁.runAfter {} past later = some (outcomes', s') := by
  -- over the steps before it, from any session that is kept with the answers so far
  induction before generalizing s outcomes with
  | nil => exact ⟨outcomes, s, rfl, hkept, rfl, hfree, hs⟩
  | cons st before ih =>
    rcases runAfter_cons hs with ⟨o, s₁, hstep, hrest⟩
    rcases undisturbed_cons hfree hstep with ⟨hspares, hfree'⟩
    have hfits := Nat.le_trans (size_le_runAfter hrest) hsize
    have hkept' := (hkept.step hspares hstep hfits).1
    rw [← eventsOf_push] at hkept'
    rcases ih hkept' hfree' hrest with ⟨past, s₂, hbefore, hkept₂, hlength, hfree₂, hlater⟩
    refine ⟨past, s₂, ?_, hkept₂, ?_, hfree₂, hlater⟩
    · rw [runAfter, hstep]
      exact hbefore
    · rw [hlength, Array.size_push, List.length_cons]
      omega

/-- What was answered stays at its place. -/
theorem getElem?_runAfter (hs : s.runAfter {} outcomes script = some (outcomes', s')) {i : Nat}
    (hi : i < outcomes.size) : outcomes'[i]? = outcomes[i]? := by
  induction script generalizing s outcomes with
  | nil =>
    cases hs
    rfl
  | cons st script ih =>
    rcases runAfter_cons hs with ⟨o, s₁, -, hrest⟩
    rw [ih hrest (by simp; omega), Array.getElem?_push, if_neg (by omega)]

/-- Over a script on a fresh heap in which no step is given a pair of an unfinished list to
relink, and as long as the cells fit, the event log tells what has become of the heap. Its
allocations are those of all cells, in order, and at every step its events are those of
the cells that the step has made and, if it has finished a list, one more for the list,
behind the allocations of its pairs and with the length that the list then has. A step that
only looks, that faults, that interns a known symbol or that answers that there is no list
is not heard of. -/
theorem log_tells_history (script : List (Step Ref)) (outcomes : Array Outcome) (s : Session)
    (hrun : run script = some (outcomes, s)) (hfree : ({} : Session).undisturbed script = true)
    (hsize : s.heap.size ≤ Word.capacity) :
    (∃ n, (s.heap.perform .allocated).result = .ok n ∧
      positions (eventsOf outcomes) = List.range n) ∧
    ∀ before st later, script = before ++ st :: later →
      ∃ past s₁ word o s₂, run before = some (past, s₁) ∧
        st.resolve s₁.resolve = some word ∧ s₁.step {} st = some (o, s₂) ∧
        outcomes[before.length]? = some o ∧ Recorded (eventsOf past) s₁ word o s₂ := by
  have hinit : Kept {} (eventsOf #[]) := init_kept
  constructor
  · -- the whole script lies before its end
    have hwhole : runAfter {} {} #[] (script ++ []) = some (outcomes, s) := by
      rw [List.append_nil]
      exact hrun
    rcases hinit.run (by rwa [List.append_nil]) hwhole hsize with ⟨past, s₁, -, hkept, -, -, hend⟩
    cases hend
    exact ⟨s.heap.size, rfl, hkept.positions_eq⟩
  · rintro before st later rfl
    rcases hinit.run hfree hrun hsize with ⟨past, s₁, hbefore, hkept, hlength, hfree₁, hlater⟩
    rcases runAfter_cons hlater with ⟨o, s₂, hstep, hrest⟩
    rcases undisturbed_cons hfree₁ hstep with ⟨hspares, -⟩
    have hfits := Nat.le_trans (size_le_runAfter hrest) hsize
    rcases (hkept.step hspares hstep hfits).2 with ⟨word, hword, hrecorded⟩
    refine ⟨past, s₁, word, o, s₂, hbefore, hword, hstep, ?_, hrecorded⟩
    have hplace : before.length = past.size := by simpa using hlength.symm
    rw [getElem?_runAfter hrest (by rw [Array.size_push]; omega), hplace]
    exact Array.getElem?_push_size

/-- Two builders at work in turns, a symbol that is interned twice, a call that faults, an
array with an end and one without, and a finished list that is relinked while the other one
is still being built. -/
def interleaved : List (Step Ref) :=
  [.newBuilder, .newBuilder, .push 0 (.word .boolT), .symbol "key", .push 1 (.answerOf 3),
    .extend 0 [.word .undefined, .answerOf 3], .symbol "key",
    .action (.primitive (.unary .car (.word .eol))), .listOfTerminated [.word .boolF],
    .listOfTerminated [.word .boolT, .word .undefined, .word .boolF], .finish 1,
    .action (.primitive (.binary .setCdr (.answerOf 10) (.answerOf 9))),
    .listOfArguments [.answerOf 3, .answerOf 10], .finish 0]

theorem log_tells_history_when_interleaved :
    ({} : Session).undisturbed interleaved = true ∧
    ∃ outcomes s, run interleaved = some (outcomes, s) ∧ s.heap.size ≤ Word.capacity ∧
      positions (eventsOf outcomes) = [0, 1, 2, 3, 4, 5, 6, 7] ∧
      (∃ o, outcomes[8]? = some o ∧ o.events = #[]) ∧
      ∃ (s₁ : Session) (o : Outcome) (s₂ : Session),
        s₁.step {} (.finish 0) = some (o, s₂) ∧ outcomes[13]? = some o ∧
        o.events = #[.listBuilt 3] ∧ ((listLength (.handle 0)).run s₂.heap).result = .ok 3 := by
  have hfree : ({} : Session).undisturbed interleaved = true := by decide
  obtain ⟨outcomes, s, hrun, hcells, hmissing, hlast, hreport⟩ : ∃ outcomes s,
      run interleaved = some (outcomes, s) ∧ s.heap.size = 8 ∧
      (outcomes[8]?).map Outcome.result = some (.ok .nothing) ∧
      (outcomes[13]?).map Outcome.result = some (.ok (.word (.handle 0))) ∧
      (outcomes[13]?).map Outcome.events = some #[.listBuilt 3] := ⟨_, _, rfl, rfl, rfl, rfl, rfl⟩
  have hsize : s.heap.size ≤ Word.capacity := by
    rw [hcells]
    decide
  rcases log_tells_history interleaved outcomes s hrun hfree hsize with ⟨⟨n, hn, hlog⟩, hsteps⟩
  refine ⟨hfree, outcomes, s, hrun, hsize, ?_, ?_, ?_⟩
  · obtain rfl : s.heap.size = n := Except.ok.inj hn
    rw [hlog, hcells]
    rfl
  · rcases hsteps (interleaved.take 8) _ _ rfl with ⟨_, s₁, word, o, s₂, -, hword, -, ho, hrecorded⟩
    obtain rfl := Option.some.inj hword
    have ho' : outcomes[8]? = some o := ho
    rw [ho'] at hmissing
    exact ⟨o, ho, hrecorded.silent (.inr (.inr ⟨rfl, Option.some.inj hmissing⟩))⟩
  · rcases hsteps (interleaved.take 13) _ _ rfl with
      ⟨_, s₁, word, o, s₂, -, hword, hstep, ho, hrecorded⟩
    obtain rfl := Option.some.inj hword
    have ho' : outcomes[13]? = some o := ho
    rw [ho'] at hlast hreport
    have hresult : o.result = .ok (.word (.handle 0)) := Option.some.inj hlast
    have hevents : o.events = #[.listBuilt 3] := Option.some.inj hreport
    refine ⟨s₁, o, s₂, hstep, ho', hevents, ?_⟩
    rcases hrecorded.listed (.handle 0) (by rw [hresult]; rfl) with ⟨ps, vs, -, hlength, hes, -⟩
    rw [hevents] at hes
    have hthree : some (Event.listBuilt 3) = some (.listBuilt ps.length) := by
      have hend := congrArg List.getLast? hes
      rwa [List.getLast?_concat] at hend
    have hpairs : 3 = ps.length := Event.listBuilt.inj (Option.some.inj hthree)
    rw [hlength, ← hpairs]

end Session

end ProxyForge
