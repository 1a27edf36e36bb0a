import ProxyForge.Proofs.Heap.Lasting
import ProxyForge.Proofs.Programs
import ProxyForge.Session

/-!
# ProxyForge.Proofs.Lists.Appending — programs that relink their own last pair only

The functions that look at lists only read (`Program.Looks`). `Program.Appends` is the
order of calls that every list function keeps to, whatever values it is given: it reads,
it makes pairs that end in the empty list, and it links the last pair that it has made to
the next one. `Heap.Extension` says what one turn of such a program can do to a heap
(`Appends.turn`), so that no later proof has to look at the list functions again.

A run of such a program leaves every cell alone that was there before, with the one
exception of the pair at which it goes on (`Appends.get?_runAfter`).
-/

namespace ProxyForge

/-! ## Reading -/

/-- A program all of whose actions read. -/
inductive Program.Reads {α : Type} : Program α → Prop where
  | done {a : α} : Reads (.done a)
  | fail {f : Fault} : Reads (.fail f)
  | emit {e : Event} {next : Program α} (hnext : Reads next) : Reads (.emit e next)
  | act {a : Action Word} {next : a.Answer → Program α} (ha : a.reads = true)
      (hnext : ∀ x, Reads (next x)) : Reads (.act a next)

namespace Program.Reads

variable {α β : Type} {p : Program α}

theorem bind {f : α → Program β} (hp : p.Reads) (hf : ∀ a, (f a).Reads) : (p >>= f).Reads := by
  induction hp with
  | done => exact hf _
  | fail => exact .fail
  | emit _ ih => exact .emit ih
  | act ha _ ih => exact .act ha ih

/-- A program that reads leaves the heap exactly as it was, also when it faults. -/
theorem heap_runAfter (hp : p.Reads) (h : Heap) (calls : Array (Call Word))
    (events : Array Event) : (p.runAfter {} h calls events).heap = h := by
  induction hp generalizing calls events with
  | done => rfl
  | fail => rfl
  | emit _ ih => exact ih _ _
  | @act a next ha _ ih =>
    rcases runAfter_act a next h calls events with ⟨calls', events', hrun⟩
    rw [hrun, Heap.perform_heap_of_reads ha]
    cases (h.perform a).result with
    | ok x => exact ih x calls' events'
    | error f => rfl

end Program.Reads

/-- A program that reads, and reports nothing. -/
inductive Program.Looks {α : Type} : Program α → Prop where
  | done {a : α} : Looks (.done a)
  | fail {f : Fault} : Looks (.fail f)
  | act {a : Action Word} {next : a.Answer → Program α} (ha : a.reads = true)
      (hnext : ∀ x, Looks (next x)) : Looks (.act a next)

namespace Program.Looks

variable {α β : Type} {p : Program α}

theorem bind {f : α → Program β} (hp : p.Looks) (hf : ∀ a, (f a).Looks) : (p >>= f).Looks := by
  induction hp with
  | done => exact hf _
  | fail => exact .fail
  | act ha _ ih => exact .act ha ih

/-- A single reading call. -/
theorem perform {a : Action Word} (ha : a.reads = true) : (Program.perform a).Looks :=
  .act ha fun _ => .done

theorem reads (hp : p.Looks) : p.Reads := by
  induction hp with
  | done => exact .done
  | fail => exact .fail
  | act ha _ ih => exact .act ha ih

end Program.Looks

namespace ListIter

theorem next_looks (it : ListIter) : it.next.Looks := by
  refine .act rfl fun b => ?_
  cases b with
  | true => exact .act rfl fun head => .act rfl fun rest => .done
  | false => exact .done

theorem collect_looks (it : ListIter) (seen : Array Word) (limit : Nat) :
    (it.collect seen limit).Looks := by
  induction limit generalizing it seen with
  | zero => exact .done
  | succ limit ih =>
    refine it.next_looks.bind fun found => ?_
    rcases found with ⟨_ | v, it'⟩
    · exact .done
    · exact ih it' (seen.push v)

theorem count_looks (it : ListIter) (seen limit : Nat) : (it.count seen limit).Looks := by
  induction limit generalizing it seen with
  | zero => exact .fail
  | succ limit ih =>
    refine it.next_looks.bind fun found => ?_
    rcases found with ⟨_ | v, it'⟩
    · exact .done
    · exact ih it' (seen + 1)

end ListIter

theorem listTake_looks (list : Word) (limit : Nat) : (listTake list limit).Looks :=
  ListIter.collect_looks ⟨list⟩ #[] limit

theorem listLength_looks (list : Word) : (listLength list).Looks :=
  (Program.Looks.perform rfl).bind fun cells => ListIter.count_looks ⟨list⟩ 0 (cells + 1)

theorem endOfArguments?_looks (start : Nat) (A : List Word) : (endOfArguments? start A).Looks := by
  induction A generalizing start with
  | nil => exact .done
  | cons v A ih =>
    refine .act rfl fun b => ?_
    cases b with
    | true => exact .done
    | false => exact ih (start + 1)

theorem argumentArray_looks (A : List Word) : (argumentArray A).Looks := .act rfl fun _ => .done

theorem ArgumentCursor.next_looks (c : ArgumentCursor) : c.next.Looks := by
  rcases c with ⟨_ | ⟨v, rest⟩, _ | _⟩
  · exact .done
  · exact .done
  · refine .act rfl fun b => ?_
    cases b <;> exact .done
  · exact .done

/-! ## The order of calls -/

/-- A program that goes on behind the pair `last`, has made one further pair `loose` that
is not linked yet, and ends with an answer and a last pair that fit `post`. -/
inductive Program.Appends {α : Type} (post : α → Option Word → Prop) :
    Option Word → Option Word → Program α → Prop where
  | done {a : α} {last : Option Word} (ha : post a last) : Appends post last none (.done a)
  | fail {f : Fault} {last loose : Option Word} : Appends post last loose (.fail f)
  | emit {e : Event} {next : Program α} {last loose : Option Word}
      (hnext : Appends post last loose next) : Appends post last loose (.emit e next)
  | read {a : Action Word} {next : a.Answer → Program α} {last loose : Option Word}
      (ha : a.reads = true)
      (hnext : ∀ (h : Heap) x, (h.perform a).result = .ok x → Appends post last loose (next x)) :
      Appends post last loose (.act a next)
  | first {v : Word} {next : Word → Program α} (hnext : ∀ c, Appends post (some c) none (next c)) :
      Appends post none none (.act (.primitive (.binary .cons v .eol)) next)
  | further {l v : Word} {next : Word → Program α}
      (hnext : ∀ c, Appends post (some l) (some c) (next c)) :
      Appends post (some l) none (.act (.primitive (.binary .cons v .eol)) next)
  | link {l c : Word} {next : Unit → Program α} (hnext : Appends post (some c) none (next ())) :
      Appends post (some l) (some c) (.act (.primitive (.binary .setCdr l c)) next)

namespace Program.Appends

variable {α β : Type} {last loose : Option Word} {post : α → Option Word → Prop}

theorem bind {mid : α → Option Word → Prop} {post : β → Option Word → Prop} {p : Program α}
    {f : α → Program β} (hp : p.Appends mid last loose)
    (hf : ∀ a last, mid a last → (f a).Appends post last none) :
    (p >>= f).Appends post last loose := by
  induction hp with
  | done ha => exact hf _ _ ha
  | fail => exact .fail
  | emit _ ih => exact .emit ih
  | read ha _ ih => exact .read ha ih
  | first _ ih => exact .first ih
  | further _ ih => exact .further ih
  | link _ ih => exact .link ih

/-- What only reads does not move the last pair. -/
theorem of_reads {p : Program α} (hp : p.Reads) (hpost : ∀ a, post a last) :
    p.Appends post last none := by
  induction hp with
  | done => exact .done (hpost _)
  | fail => exact .fail
  | emit _ ih => exact .emit ih
  | act ha _ ih => exact .read ha fun _ x _ => ih x

/-- What a program calls after its answer is rearranged does not matter. -/
theorem map {p : Program α} {f : α → β} {post' : β → Option Word → Prop}
    (hp : p.Appends post last loose) (hf : ∀ a last, post a last → post' (f a) last) :
    (p >>= fun a => (pure (f a) : Program β)).Appends post' last loose :=
  hp.bind fun a last ha => .done (hf a last ha)

end Program.Appends

/-! ## The list functions -/

/-- Whatever the answer is: used where the last pair is of no further interest. -/
def Anything {α : Type} (_ : α) (_ : Option Word) : Prop := True

theorem Program.Reads.appends_anything {α : Type} {p : Program α} (hp : p.Reads)
    (last : Option Word) : p.Appends Anything last none :=
  .of_reads hp fun _ => trivial

namespace ListBuilder

variable {lb : ListBuilder} {last : Option Word} {v : Word}

/-- The builder remembers the last pair. -/
def Remembers (lb : ListBuilder) (last : Option Word) : Prop := lb.last = last

theorem new_appends : ListBuilder.new.Appends Remembers none none :=
  .read rfl fun _ _ _ => .done rfl

theorem push_appends (lb : ListBuilder) (v : Word) :
    (lb.push v).Appends Remembers lb.last none := by
  refine .read rfl fun h e he => ?_
  -- the pair ends in what the heap answered, the empty list
  obtain rfl : Word.eol = e := Except.ok.inj he
  cases hlast : lb.last with
  | none =>
    exact .first fun c => .done rfl
  | some l =>
    exact .further fun c => .link (.done rfl)

theorem extend_appends (lb : ListBuilder) (vs : List Word) :
    (lb.extend vs).Appends Remembers lb.last none := by
  induction vs generalizing lb with
  | nil => exact .done rfl
  | cons v vs ih =>
    refine (push_appends lb v).bind fun lb' last hlast => ?_
    obtain rfl : lb'.last = last := hlast
    exact ih lb'

theorem extendUntilEnd_appends (lb : ListBuilder) (A : List Word) :
    (lb.extendUntilEnd A).Appends Remembers lb.last none := by
  induction A generalizing lb with
  | nil => exact .done rfl
  | cons v A ih =>
    refine .read rfl fun h b hb => ?_
    cases b with
    | true => exact .done rfl
    | false =>
      refine (push_appends lb v).bind fun lb' last hlast => ?_
      obtain rfl : lb'.last = last := hlast
      exact ih lb'

theorem finish_appends (lb : ListBuilder) (last : Option Word) :
    lb.finish.Appends Anything last none :=
  .emit (.done trivial)

end ListBuilder

theorem listOfValues_appends (vs : List Word) :
    (listOfValues vs).Appends Anything none none := by
  refine ListBuilder.new_appends.bind fun lb last hlast => ?_
  obtain rfl : lb.last = last := hlast
  exact (lb.extend_appends vs).bind fun lb' last _ => lb'.finish_appends last

theorem listOfArguments_appends (A : List Word) :
    (listOfArguments A).Appends Anything none none := by
  refine ListBuilder.new_appends.bind fun lb last hlast => ?_
  obtain rfl : lb.last = last := hlast
  exact (lb.extendUntilEnd_appends A).bind fun lb' last _ => lb'.finish_appends last

/-- The same with the end mark of the backend behind the elements. -/
theorem listOfArgumentArray_appends (A : List Word) :
    (argumentArray A >>= listOfArguments).Appends Anything none none := by
  have harray : (argumentArray A).Appends (fun _ last => last = none) none none :=
    .of_reads (argumentArray_looks A).reads fun _ => rfl
  refine harray.bind fun A' last hlast => ?_
  subst hlast
  exact listOfArguments_appends A'

theorem listOfTerminated?_appends (A : List Word) :
    (listOfTerminated? A).Appends Anything none none := by
  have hstop : (endOfArguments? 0 A).Appends (fun _ last => last = none) none none :=
    .of_reads (endOfArguments?_looks 0 A).reads fun _ => rfl
  refine hstop.bind fun stop last hlast => ?_
  subst hlast
  cases stop with
  | none => exact .done trivial
  | some stop => exact (listOfValues_appends (A.take stop)).map fun _ _ _ => trivial

/-! ## One turn -/

/-- What a turn of a program that appends can do: nothing, make its first pair, make a
further pair, or link the last pair to that. -/
inductive Heap.Extension (h : Heap) :
    Option Word → Option Word → Heap → Option Word → Option Word → Prop where
  | same (last loose : Option Word) : Extension h last loose h last loose
  | first (v : Word) : Extension h none none (h.push (.pair v .eol)) (some h.nextHandle) none
  | further (l v : Word) :
      Extension h (some l) none (h.push (.pair v .eol)) (some l) (some h.nextHandle)
  | link {l c car cdr : Word} (hl : h.get? l = some (.pair car cdr)) :
      Extension h (some l) (some c) (h.setCdr l c) (some c) none

namespace Program.Appends

variable {α : Type} {last loose : Option Word} {post : α → Option Word → Prop} {p : Program α}

/-- After a turn the program goes on in order. -/
theorem turn (hp : p.Appends post last loose) (h : Heap) :
    ∃ last' loose', h.Extension last loose (p.step {} h).heap last' loose' ∧
      (resume (p.step {} h).result).Appends post last' loose' := by
  cases hp with
  | done ha => exact ⟨_, _, .same _ _, .done ha⟩
  | fail => exact ⟨_, _, .same _ _, .fail⟩
  | emit hnext => exact ⟨_, _, .same _ _, hnext⟩
  | @read a next _ _ ha hnext =>
    have hstep : (Program.act a next).step {} h =
        { result := (h.perform a).result.map next, heap := h,
          events := (h.perform a).events } := by
      simp only [Program.step, Backend.perform_default, Heap.perform_heap_of_reads ha]
    refine ⟨last, loose, ?_, ?_⟩
    · rw [hstep]
      exact .same _ _
    · rw [hstep]
      show (resume ((h.perform a).result.map next)).Appends post last loose
      cases hresult : (h.perform a).result with
      | ok x => exact hnext h x hresult
      | error f => exact .fail
  | @first v next hnext => exact ⟨_, _, .first v, hnext h.nextHandle⟩
  | @further l v next hnext => exact ⟨_, _, .further l v, hnext h.nextHandle⟩
  | @link l c next hnext =>
    have hheap : ((Program.act (.primitive (.binary .setCdr l c)) next).step {} h).heap =
        (h.performBinary l c .setCdr).heap := rfl
    have hresult : ((Program.act (.primitive (.binary .setCdr l c)) next).step {} h).result =
        (h.performBinary l c .setCdr).result.map next := rfl
    rw [hheap, hresult]
    cases hpair : h.pair? l with
    | none =>
      rw [Heap.performBinary_setCdr_of_not_pair hpair]
      exact ⟨_, _, .same _ _, .fail⟩
    | some cell =>
      have hl : h.get? l = some (.pair cell.1 cell.2) := Heap.pair?_eq_some.1 hpair
      rw [Heap.performBinary_setCdr hl]
      exact ⟨_, _, .link hl, hnext⟩

end Program.Appends

/-! ## A whole run -/

namespace Program

variable {α : Type} {h : Heap} {calls : Array (Call Word)} {events : Array Event}

/-- After a pair is made the rest runs on the grown heap. -/
theorem runAfter_cons (v e : Word) (next : Word → Program α) (h : Heap)
    (calls : Array (Call Word)) (events : Array Event) :
    ∃ calls' events', (act (.primitive (.binary .cons v e)) next).runAfter {} h calls events =
      (next h.nextHandle).runAfter {} (h.push (.pair v e)) calls' events' := by
  rcases runAfter_act (.primitive (.binary .cons v e)) next h calls events with
    ⟨calls', events', hrun⟩
  exact ⟨calls', events', hrun⟩

/-- When the cells fit at the end of a run, there was room for the first of them. -/
theorem lt_capacity_of_runAfter_push {p : Program α} {c : Cell}
    (hsize : (p.runAfter {} (h.push c) calls events).heap.size ≤ Word.capacity) :
    h.size < Word.capacity := by
  have hle := size_le_runAfter p (h.push c) calls events
  rw [Heap.size_push] at hle
  omega

/-- A run leaves the cells alone that were there, but for the last pair and a loose one. -/
theorem Appends.get?_runAfter {p : Program α} {last loose : Option Word}
    {post : α → Option Word → Prop} (hp : p.Appends post last loose) {w : Word} {c : Cell}
    (hw : h.get? w = some c) (hlast : last ≠ some w) (hloose : loose ≠ some w)
    (hsize : (p.runAfter {} h calls events).heap.size ≤ Word.capacity) :
    (p.runAfter {} h calls events).heap.get? w = some c := by
  induction hp generalizing h calls events with
  | done => exact hw
  | fail => exact hw
  | emit _ ih => exact ih hw hlast hloose hsize
  | @read a next last loose ha hnext ih =>
    rcases runAfter_act a next h calls events with ⟨calls', events', hrun⟩
    rw [hrun, Heap.perform_heap_of_reads ha] at hsize ⊢
    cases hresult : (h.perform a).result with
    | ok x =>
      rw [hresult] at hsize
      exact ih h x hresult hw hlast hloose hsize
    | error f => exact hw
  | @first v next _ ih =>
    rcases runAfter_cons v .eol next h calls events with ⟨calls', events', hrun⟩
    rw [hrun] at hsize ⊢
    have hroom := lt_capacity_of_runAfter_push hsize
    -- the new pair is none of the cells that were there
    have hnew : some h.nextHandle ≠ some w := by
      rintro ⟨⟩
      exact Heap.ne_nextHandle hroom hw rfl
    exact ih h.nextHandle (Heap.get?_push_of_some hroom hw) hnew nofun hsize
  | @further l v next _ ih =>
    rcases runAfter_cons v .eol next h calls events with ⟨calls', events', hrun⟩
    rw [hrun] at hsize ⊢
    have hroom := lt_capacity_of_runAfter_push hsize
    have hnew : some h.nextHandle ≠ some w := by
      rintro ⟨⟩
      exact Heap.ne_nextHandle hroom hw rfl
    exact ih h.nextHandle (Heap.get?_push_of_some hroom hw) hlast hnew hsize
  | @link l c' next _ ih =>
    rcases runAfter_act (.primitive (.binary .setCdr l c')) next h calls events with
      ⟨calls', events', hrun⟩
    have hne : w ≠ l := by
      rintro rfl
      exact hlast rfl
    cases hpair : h.pair? l with
    | none =>
      have hfault : h.perform (.primitive (.binary .setCdr l c')) =
          { result := .error (.nonPair .setCdr l), heap := h } :=
        Heap.performBinary_setCdr_of_not_pair hpair
      rw [hrun, hfault]
      exact hw
    | some cell =>
      have hl : h.get? l = some (.pair cell.1 cell.2) := Heap.pair?_eq_some.1 hpair
      have hlink : h.perform (.primitive (.binary .setCdr l c')) =
          { result := .ok (), heap := h.setCdr l c' } := Heap.performBinary_setCdr hl
      rw [hrun, hlink] at hsize ⊢
      -- the loose pair is the last one from here on, and it is not `w` either
      have hw' : (h.setCdr l c').get? w = some c := by rw [Heap.get?_setCdr_of_ne hne, hw]
      exact ih hw' hloose nofun hsize

end Program

end ProxyForge
