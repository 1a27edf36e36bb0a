import ProxyForge.Proofs.Heap.Growth
import ProxyForge.Proofs.Lists.Appending
import ProxyForge.Proofs.Lists.Protocol

/-!
# ProxyForge.Proofs.Log.Allocations — what programs report of the cells they make

An action reports the cells that it makes and nothing else (`Heap.perform_events`). So a
program that reports nothing of its own (`Program.Silent`) reports exactly the positions
by which the heap has grown, in order, whatever it does and however it ends.

The list functions report one thing more, the list that they have finished. A program that
keeps to the protocol of builders ends with its pairs in place (`Program.Builds.runs`), so
that the report comes last and gives the number of pairs that are then in the heap
(`ListBuilder.build_runs`).
-/

namespace ProxyForge

namespace Heap

variable {h h' h'' : Heap} {a : Action Word} {i : Nat}

/-! ## Events of allocations -/

/-- The events by which the heap `h` has grown to `h'`. -/
def allocations (h h' : Heap) : List Event :=
  (List.range' h.size (h'.size - h.size)).map .cellAllocated

theorem allocations_of_size_eq (hsize : h'.size = h.size) : h.allocations h' = [] := by
  simp [allocations, hsize]

/-- The positions up to a size between two others, and from there on. -/
theorem range'_append_of_le {a b c : Nat} (hab : a ≤ b) (hbc : b ≤ c) :
    List.range' a (b - a) ++ List.range' b (c - b) = List.range' a (c - a) := by
  have hrange := @List.range'_append a (b - a) (c - b) 1
  have hstart : a + 1 * (b - a) = b := by omega
  have hcount : b - a + (c - b) = c - a := by omega
  rwa [hstart, hcount] at hrange

theorem allocations_append (hle : h.size ≤ h'.size) (hle' : h'.size ≤ h''.size) :
    h.allocations h' ++ h'.allocations h'' = h.allocations h'' := by
  rw [allocations, allocations, allocations, ← List.map_append, range'_append_of_le hle hle']

theorem nextHandles_append (hle : h.size ≤ h'.size) (hle' : h'.size ≤ h''.size) :
    h.nextHandles (h'.size - h.size) ++ h'.nextHandles (h''.size - h'.size) =
      h.nextHandles (h''.size - h.size) := by
  rw [nextHandles, nextHandles, nextHandles, ← List.map_append, range'_append_of_le hle hle']

theorem mem_allocations : .cellAllocated i ∈ h.allocations h' ↔ h.size ≤ i ∧ i < h'.size := by
  simp only [allocations, List.mem_map, List.mem_range'_1, Event.cellAllocated.injEq,
    exists_eq_right]
  omega

/-- An action reports the cells that it makes. -/
theorem perform_events (h : Heap) (a : Action Word) :
    (h.perform a).events = h.allocations (h.perform a).heap := by
  rcases perform_growth h a with ⟨hsize, hevents⟩ | ⟨hsize, -, hevents⟩
  · rw [hevents, allocations_of_size_eq hsize]
  · have hone : (h.perform a).heap.size - h.size = 1 := by omega
    rw [hevents, allocations, hone]
    rfl

/-- An action that faults makes no cell. -/
theorem size_perform_of_fault {f : Fault} (hf : (h.perform a).result = .error f) :
    (h.perform a).heap.size = h.size := by
  rcases perform_growth h a with ⟨hsize, -⟩ | ⟨-, hanswer, -⟩
  · exact hsize
  · rw [hf] at hanswer
    cases hanswer

end Heap

/-! ## Silent programs -/

/-- A program that reports nothing of its own. -/
inductive Program.Silent {α : Type} : Program α → Prop where
  | done {a : α} : Silent (.done a)
  | fail {f : Fault} : Silent (.fail f)
  | act {a : Action Word} {next : a.Answer → Program α} (hnext : ∀ x, Silent (next x)) :
      Silent (.act a next)

namespace Program

variable {α β : Type} {p : Program α} {f : α → Program β} {h h' : Heap} {a : α}
  {cs : List (Call Word)} {es : List Event}

namespace Silent

theorem bind (hp : p.Silent) (hf : ∀ a, (f a).Silent) : (p >>= f).Silent := by
  induction hp with
  | done => exact hf _
  | fail => exact .fail
  | act _ ih => exact .act ih

theorem perform {a : Action Word} : (Program.perform a).Silent := .act fun _ => .done

/-- A silent program reports the cells that it makes, also when it faults. -/
theorem events_runAfter (hp : p.Silent) (h : Heap) (calls : Array (Call Word))
    (events : Array Event) :
    (p.runAfter {} h calls events).events.toList =
      events.toList ++ h.allocations (p.runAfter {} h calls events).heap := by
  induction hp generalizing h calls events with
  | done => simp [runAfter, Heap.allocations_of_size_eq]
  | fail => simp [runAfter, Heap.allocations_of_size_eq]
  | @act a next _ ih =>
    have hgrown : h.size ≤ (h.perform a).heap.size := (Heap.perform_change h a).size_le
    have hfirst : (events.appendList (h.perform a).events).toList =
        events.toList ++ h.allocations (h.perform a).heap := by
      rw [← Heap.perform_events]
      exact Array.toList_appendList
    rw [runAfter_act_eq]
    cases (h.perform a).result with
    | ok x =>
      -- the rest reports what comes behind the cells of the action
      have hmore := size_le_runAfter (next x) (h.perform a).heap
        (a.call?.elim calls calls.push) (events.appendList (h.perform a).events)
      dsimp only
      rw [ih x, hfirst, List.append_assoc, Heap.allocations_append hgrown hmore]
    | error f => exact hfirst

theorem events_run (hp : p.Silent) (h : Heap) :
    (p.run h).events.toList = h.allocations (p.run h).heap :=
  hp.events_runAfter h #[] #[]

theorem events_of_runs (hp : p.Silent) (hruns : Runs {} p h a h' cs es) :
    es = h.allocations h' := by
  have hevents := hp.events_run h
  rwa [hruns.run_eq] at hevents

end Silent

theorem Looks.silent (hp : p.Looks) : p.Silent := by
  induction hp with
  | done => exact .done
  | fail => exact .fail
  | act _ _ ih => exact .act ih

/-- There are no fewer cells at the end of a program than at the end of its first part. -/
theorem size_runAfter_le_bind (p : Program α) (f : α → Program β) (h : Heap)
    (calls : Array (Call Word)) (events : Array Event) :
    (p.runAfter {} h calls events).heap.size ≤
      ((p >>= f).runAfter {} h calls events).heap.size := by
  rw [bind_eq, runAfter_bind]
  cases p.runAfter {} h calls events with
  | mk result heap calls events =>
    cases result with
    | ok a => exact size_le_runAfter (f a) heap calls events
    | error e => exact Nat.le_refl _

/-- Behind a first part that has ended, it is the cells of the rest that must fit. -/
theorem Runs.rest_fits (hruns : Runs {} p h a h' cs es) {calls : Array (Call Word)}
    {events : Array Event}
    (hsize : ((p >>= f).runAfter {} h calls events).heap.size ≤ Word.capacity) :
    ∃ calls' events', ((f a).runAfter {} h' calls' events').heap.size ≤ Word.capacity := by
  rw [bind_eq, runAfter_bind, hruns] at hsize
  exact ⟨_, _, hsize⟩

end Program

/-! ## Symbols and arrays -/

theorem Program.symbol_silent (name : String) : (Program.symbol name).Silent := by
  refine .act fun found => ?_
  cases found with
  | some sym => exact .done
  | none => exact .perform

theorem argumentArray_runs (A : List Word) (h : Heap) :
    Program.Runs {} (argumentArray A) h (A ++ [.undefined]) h [.constant .undefined] [] := by
  have hend : ({} : Backend).perform h (.primitive (.constant .undefined)) =
      h.answer Word.undefined := rfl
  exact Program.Runs.call_bind hend (.done _ h)

/-! ## Builders -/

namespace ListBuilder

variable {lb : ListBuilder} {h : Heap} {ps vs : List Word}

theorem new_silent : ListBuilder.new.Silent := .act fun _ => .done

theorem push_silent (lb : ListBuilder) (v : Word) : (lb.push v).Silent := by
  refine .act fun e => .act fun c => ?_
  cases lb.last with
  | none => exact .done
  | some last => exact .act fun _ => .done

theorem extend_silent (lb : ListBuilder) (P : List Word) : (lb.extend P).Silent := by
  induction P generalizing lb with
  | nil => exact .done
  | cons v P ih => exact (lb.push_silent v).bind ih

theorem extendUntilEnd_silent (lb : ListBuilder) (A : List Word) :
    (lb.extendUntilEnd A).Silent := by
  induction A generalizing lb with
  | nil => exact .done
  | cons v A ih =>
    refine .act fun b => ?_
    cases b with
    | true => exact .done
    | false => exact (lb.push_silent v).bind ih

end ListBuilder

/-! ## Whole lists -/

namespace Program.Builds

variable {α : Type} {given ps : List Word} {loose : Option Word} {h : Heap}
  {post : α → List Word → Prop} {p : Program α}

/-- A program that keeps to the protocol of builders ends with an answer, as long as the
cells fit. Its pairs are laid then, and they are those that it had and the new cells. -/
theorem runs (hp : p.Builds given post ps loose) (hl : h.Laid given ps loose)
    {calls : Array (Call Word)} {events : Array Event}
    (hsize : (p.runAfter {} h calls events).heap.size ≤ Word.capacity) :
    ∃ a h' cs es ps', Runs {} p h a h' cs es ∧ post a ps' ∧ h'.Laid given ps' none ∧
      h.size ≤ h'.size ∧ ps' = ps ++ loose.toList ++ h.nextHandles (h'.size - h.size) := by
  -- over the program, with any pairs laid by now and any cells made
  induction p generalizing h calls events ps loose with
  | done a =>
    cases hp with
    | done ha =>
      refine ⟨a, h, [], [], ps, .done a h, ha, hl, Nat.le_refl _, ?_⟩
      simp [Heap.nextHandles]
  | fail f => cases hp
  | emit e next ih =>
    cases hp with
    | emit hnext =>
      rcases ih hnext hl hsize with ⟨a, h', cs, es, ps', hruns, hrest⟩
      exact ⟨a, h', cs, e :: es, ps', hruns.emit, hrest⟩
  | act a next ih =>
    have hgrown : h.size ≤ (h.perform a).heap.size := (Heap.perform_change h a).size_le
    rw [runAfter_act_eq] at hsize
    cases hperform : h.perform a with
    | mk result h₁ new =>
      rw [hperform] at hgrown hsize
      have hstep : (act a next).step {} h =
          { result := result.map next, heap := h₁, events := new } := by
        simp only [step, Backend.perform_default, hperform]
      have hfits : h₁.size ≤ Word.capacity := by
        cases result with
        | ok x => exact Nat.le_trans (size_le_runAfter (next x) h₁ _ _) hsize
        | error f => exact hsize
      rcases hp.turn hl (by rw [hstep]; exact hfits) with
        ⟨p', ps₁, loose₁, hresult, hbuilds, hlaid, hcells, -⟩
      rw [hstep] at hresult hlaid hcells
      cases result with
      | error f => cases hresult
      | ok x =>
        obtain rfl : next x = p' := Except.ok.inj hresult
        -- the rest goes on from the pairs that the turn has left
        rcases ih x hbuilds hlaid hsize with
          ⟨b, h', cs, es, ps', hruns, hpost, hlaid', hmore, hpairs⟩
        have hact : ({} : Backend).perform h a =
            { result := .ok x, heap := h₁, events := new } := by
          rw [Backend.perform_default, hperform]
        refine ⟨b, h', _, _, ps', Runs.act hact hruns, hpost, hlaid', Nat.le_trans hgrown hmore, ?_⟩
        rw [hpairs, hcells, List.append_assoc, Heap.nextHandles_append hgrown hmore]

end Program.Builds

namespace ListBuilder

variable {lb : ListBuilder} {h : Heap} {given ps vs : List Word}

/-- A complete builder has the list of what was given to it. -/
theorem Complete.lists (hb : Complete given lb ps) (hl : h.Laid given ps none) :
    lb.Lists h .eol ps given := by
  have hsegment := hl.segment
  rw [hb.2, List.take_length] at hsegment
  exact ⟨hb.1, hsegment, by simpa using hl.nodup⟩

theorem Lists.laid (hb : lb.Lists h .eol ps vs) : h.Laid vs ps none := by
  refine ⟨?_, by simpa using hb.nodup, nofun⟩
  rw [hb.segment.length_eq, List.take_length]
  exact hb.segment

/-- Handing over the list of a builder reports its pairs. -/
theorem finish_runs (hb : lb.Lists h .eol ps vs) :
    Program.Runs {} lb.finish h lb.head h [] [.listBuilt ps.length] ∧
      h.Segment lb.head ps vs .eol := by
  constructor
  · rw [← hb.holds.length]
    exact .emit (.done lb.head h)
  · rw [hb.holds.head]
    exact hb.segment

end ListBuilder

/-- A list that a new builder is silently filled with is reported last, with the number of
its pairs. -/
theorem ListBuilder.build_runs {fill : ListBuilder → Program ListBuilder} {given : List Word}
    (hfill : ∀ lb, lb.Holds .eol [] → (fill lb).Builds given (Complete given) [] none)
    (hsilent : ∀ lb, (fill lb).Silent) {h : Heap} {calls : Array (Call Word)}
    {events : Array Event} (hsize : (((ListBuilder.new >>= fill) >>= finish).runAfter {} h calls
      events).heap.size ≤ Word.capacity) :
    ∃ list h' cs ps, Program.Runs {} ((ListBuilder.new >>= fill) >>= finish) h list h' cs
        (h.allocations h' ++ [.listBuilt ps.length]) ∧ h'.Segment list ps given .eol := by
  have hnew : ListBuilder.new.Builds given (fun lb ps => ps = [] ∧ lb.Holds .eol []) [] none :=
    new_builds fun lb hb => ⟨rfl, hb⟩
  have hfilled : (ListBuilder.new >>= fill).Builds given (Complete given) [] none := by
    refine hnew.bind ?_
    rintro lb _ ⟨rfl, hb⟩
    exact hfill lb hb
  have hnone : h.Laid given [] none := ⟨.nil _, List.nodup_nil, nofun⟩
  -- the report comes behind the filling, which is silent
  have hfits := Nat.le_trans
    (Program.size_runAfter_le_bind (ListBuilder.new >>= fill) finish h calls events) hsize
  rcases hfilled.runs hnone hfits with ⟨lb, h', cs, es, ps, hruns, hcomplete, hlaid, -, -⟩
  rcases finish_runs (hcomplete.lists hlaid) with ⟨hfinish, hsegment⟩
  have hevents := (new_silent.bind hsilent).events_of_runs hruns
  subst hevents
  exact ⟨lb.head, h', _, ps, hruns.bind hfinish, hsegment⟩

theorem listOfValues_runs (values : List Word) {h : Heap} {calls : Array (Call Word)}
    {events : Array Event}
    (hsize : ((listOfValues values).runAfter {} h calls events).heap.size ≤ Word.capacity) :
    ∃ list h' cs ps, Program.Runs {} (listOfValues values) h list h' cs
        (h.allocations h' ++ [.listBuilt ps.length]) ∧ h'.Segment list ps values .eol :=
  ListBuilder.build_runs (fun _ hb => ListBuilder.extend_builds [] values hb rfl)
    (fun lb => lb.extend_silent values) hsize

theorem listOfArguments_runs (A : List Word) {h : Heap} {calls : Array (Call Word)}
    {events : Array Event}
    (hsize : ((listOfArguments A).runAfter {} h calls events).heap.size ≤ Word.capacity) :
    ∃ list h' cs ps, Program.Runs {} (listOfArguments A) h list h' cs
        (h.allocations h' ++ [.listBuilt ps.length]) ∧
      h'.Segment list ps (A.takeWhile (· ≠ .undefined)) .eol :=
  ListBuilder.build_runs (fun _ hb => ListBuilder.extendUntilEnd_builds [] A hb rfl)
    (fun lb => lb.extendUntilEnd_silent A) hsize

/-- An array that holds an end is built up to it. -/
theorem listOfTerminated?_runs_of_mem {A : List Word} (hA : .undefined ∈ A) {h : Heap}
    {calls : Array (Call Word)} {events : Array Event}
    (hsize : ((listOfTerminated? A).runAfter {} h calls events).heap.size ≤ Word.capacity) :
    ∃ list h' cs ps vs, Program.Runs {} (listOfTerminated? A) h (some list) h' cs
        (h.allocations h' ++ [.listBuilt ps.length]) ∧ h'.Segment list ps vs .eol := by
  rcases exists_eq_before_append hA with ⟨rest, hA', hP⟩
  generalize A.takeWhile (· ≠ .undefined) = P at hA' hP
  subst hA'
  have hscan := endOfArguments?_runs (b := {}) (h := h) P rest hP 0
  have htake : (P ++ Word.undefined :: rest).take (0 + P.length) = P := by simp
  -- looking for the end makes no cell, so it is the cells of the list that must fit
  rcases hscan.rest_fits hsize with ⟨calls', events', hrest⟩
  dsimp only at hrest
  rw [htake] at hrest
  have hfits := Nat.le_trans
    (Program.size_runAfter_le_bind (listOfValues P) _ h calls' events') hrest
  rcases listOfValues_runs P hfits with ⟨list, h', cs, ps, hruns, hlist⟩
  exact ⟨list, h', _, ps, P, listOfTerminated?_runs P rest hP hruns, hlist⟩

end ProxyForge
