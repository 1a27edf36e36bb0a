import ProxyForge.Program
import ProxyForge.Proofs.Heap.Change

/-!
# ProxyForge.Proofs.Programs — runs of programs, put together from parts

`Program.Runs` is the big-step reading of `Program.runAfter`: from this heap the
program ends with that answer and that heap, and these are its calls and events.
It has one rule for each constructor and one for `bind`, so that the run of a
composed program is derived and never computed.
-/

namespace ProxyForge

/-! ## The heap as a backend -/

/-- The backend without objects of its own answers as the heap does. -/
theorem Backend.perform_default (h : Heap) (a : Action Word) :
    ({} : Backend).perform h a = h.perform a := by
  cases a with
  | primitive c =>
    cases c with
    | constant k => cases k <;> rfl
    | unary p x => cases p <;> rfl
    | binary p x y => rfl
  | _ => rfl

namespace Program

variable {α β : Type} {b : Backend}

/-! ## Composition -/

theorem pure_eq (a : α) : (pure a : Program α) = done a := rfl

theorem bind_eq (p : Program α) (f : α → Program β) : p >>= f = p.bind f := rfl

/-- A composed program runs its second part from where the first part ended, and
not at all when the first part faulted. -/
theorem runAfter_bind (p : Program α) (f : α → Program β) (h : Heap)
    (calls : Array (Call Word)) (events : Array Event) :
    (p.bind f).runAfter b h calls events =
      match p.runAfter b h calls events with
      | { result := .ok a, heap, calls, events } => (f a).runAfter b heap calls events
      | { result := .error e, heap, calls, events } =>
        { result := .error e, heap, calls, events } := by
  induction p generalizing h calls events with
  | done a => rfl
  | fail e => rfl
  | emit e next ih => exact ih h calls (events.push e)
  | act a next ih =>
    simp only [bind, runAfter]
    split
    · exact ih _ _ _ _
    · rfl

/-- The program that a turn goes on with; a fault ends it. -/
def resume : Except Fault (Program α) → Program α
  | .ok p => p
  | .error f => .fail f

/-- No step of a program makes the heap smaller. -/
theorem step_size_le (p : Program α) (h : Heap) : h.size ≤ (p.step {} h).heap.size := by
  cases p with
  | act a next =>
    show h.size ≤ (({} : Backend).perform h a).heap.size
    rw [Backend.perform_default]
    exact (Heap.perform_change h a).size_le
  | _ => exact Nat.le_refl _

/-- After an action the rest runs, or the program ends with the fault. -/
theorem runAfter_act_eq (a : Action Word) (next : a.Answer → Program α) (h : Heap)
    (calls : Array (Call Word)) (events : Array Event) :
    (act a next).runAfter {} h calls events =
      match (h.perform a).result with
      | .ok x => (next x).runAfter {} (h.perform a).heap (a.call?.elim calls calls.push)
          (events.appendList (h.perform a).events)
      | .error f =>
        { result := .error f, heap := (h.perform a).heap, calls := a.call?.elim calls calls.push,
          events := events.appendList (h.perform a).events } := by
  simp only [runAfter, Backend.perform_default]
  cases h.perform a with
  | mk result heap new => cases result <;> rfl

/-- The same where the calls and events so far are of no interest. -/
theorem runAfter_act (a : Action Word) (next : a.Answer → Program α) (h : Heap)
    (calls : Array (Call Word)) (events : Array Event) :
    ∃ calls' events', (act a next).runAfter {} h calls events =
      match (h.perform a).result with
      | .ok x => (next x).runAfter {} (h.perform a).heap calls' events'
      | .error f =>
        { result := .error f, heap := (h.perform a).heap, calls := calls', events := events' } :=
  ⟨_, _, runAfter_act_eq a next h calls events⟩

/-- No run of a program makes the heap smaller. -/
theorem size_le_runAfter (p : Program α) (h : Heap) (calls : Array (Call Word))
    (events : Array Event) : h.size ≤ (p.runAfter {} h calls events).heap.size := by
  induction p generalizing h calls events with
  | done a => exact Nat.le_refl _
  | fail f => exact Nat.le_refl _
  | emit e next ih => exact ih h calls (events.push e)
  | act a next ih =>
    rcases runAfter_act a next h calls events with ⟨calls', events', hrun⟩
    have hle := (Heap.perform_change h a).size_le
    rw [hrun]
    cases (h.perform a).result with
    | ok x => exact Nat.le_trans hle (ih x _ calls' events')
    | error f => exact hle

/-- A program whose answer is only rearranged. -/
theorem run_map (p : Program α) (f : α → β) (h : Heap) :
    (p >>= fun x => (pure (f x) : Program β)).run h b =
      { result := (p.run h b).result.map f, heap := (p.run h b).heap,
        calls := (p.run h b).calls, events := (p.run h b).events } := by
  rw [bind_eq, run, runAfter_bind, run]
  cases p.runAfter b h #[] #[] with
  | mk result heap calls events => cases result <;> rfl

/-- A single action, whose answer is only rearranged. -/
theorem run_perform_map (a : Action Word) (f : a.Answer → β) (h : Heap) :
    ((perform a >>= fun x => (pure (f x) : Program β)).run h).result =
      (h.perform a).result.map f ∧
    ((perform a >>= fun x => (pure (f x) : Program β)).run h).heap = (h.perform a).heap := by
  show ((act a fun x => done (f x)).runAfter {} h #[] #[]).result = _ ∧
    ((act a fun x => done (f x)).runAfter {} h #[] #[]).heap = _
  rw [runAfter_act_eq]
  cases (h.perform a).result <;> exact ⟨rfl, rfl⟩

/-! ## Runs that end with an answer -/

/-- From the heap `h` the program ends with the answer `a` and the heap `h'`, having
made the calls `cs` and caused the events `es`. -/
def Runs (b : Backend) (p : Program α) (h : Heap) (a : α) (h' : Heap)
    (cs : List (Call Word)) (es : List Event) : Prop :=
  ∀ calls events, p.runAfter b h calls events =
    { result := .ok a, heap := h', calls := calls ++ cs, events := events ++ es }

theorem Runs.done (a : α) (h : Heap) : Runs b (.done a) h a h [] [] := by
  intro calls events
  simp [runAfter]

theorem Runs.emit {e : Event} {next : Program α} {h h' : Heap} {a : α}
    {cs : List (Call Word)} {es : List Event} (hnext : Runs b next h a h' cs es) :
    Runs b (.emit e next) h a h' cs (e :: es) := by
  intro calls events
  rw [runAfter, hnext]
  simp

/-- One action, and what follows its answer. -/
theorem Runs.act {a : Action Word} {next : a.Answer → Program α} {h h₁ h₂ : Heap}
    {x : a.Answer} {y : α} {cs : List (Call Word)} {new es : List Event}
    (ha : b.perform h a = { result := .ok x, heap := h₁, events := new })
    (hnext : Runs b (next x) h₁ y h₂ cs es) :
    Runs b (.act a next) h y h₂ (a.call?.toList ++ cs) (new ++ es) := by
  intro calls events
  simp only [runAfter, ha]
  rw [hnext]
  cases a.call? <;> simp [← Array.toList_inj]

theorem Runs.bind {p : Program α} {f : α → Program β} {h h₁ h₂ : Heap} {x : α} {y : β}
    {cs₁ cs₂ : List (Call Word)} {es₁ es₂ : List Event}
    (hp : Runs b p h x h₁ cs₁ es₁) (hf : Runs b (f x) h₁ y h₂ cs₂ es₂) :
    Runs b (p >>= f) h y h₂ (cs₁ ++ cs₂) (es₁ ++ es₂) := by
  intro calls events
  rw [bind_eq, runAfter_bind, hp]
  simp only
  rw [hf]
  simp [← Array.toList_inj]

/-- A primitive call by itself. -/
theorem Runs.call {c : Call Word} {h h' : Heap} {x : c.Answer} {new : List Event}
    (hc : b.perform h (.primitive c) = { result := .ok x, heap := h', events := new }) :
    Runs b (Program.call c) h x h' [c] new := by
  have hact := Runs.act hc (Runs.done x h')
  simp only [Action.call?, Option.toList_some, List.append_nil] at hact
  exact hact

/-- A primitive call, and what follows its answer. -/
theorem Runs.call_bind {c : Call Word} {f : c.Answer → Program α} {h h₁ h₂ : Heap}
    {x : c.Answer} {y : α} {cs : List (Call Word)} {new es : List Event}
    (hc : b.perform h (.primitive c) = { result := .ok x, heap := h₁, events := new })
    (hf : Runs b (f x) h₁ y h₂ cs es) :
    Runs b (Program.call c >>= f) h y h₂ (c :: cs) (new ++ es) :=
  (Runs.call hc).bind hf

/-- Nothing is called after the end of a program whose answer is only rearranged. -/
theorem Runs.bind_done {p : Program α} {f : α → Program β} {h h₁ : Heap} {x : α} {y : β}
    {cs : List (Call Word)} {es : List Event} (hp : Runs b p h x h₁ cs es)
    (hf : f x = .done y) : Runs b (p >>= f) h y h₁ cs es := by
  have hdone : Runs b (f x) h₁ y h₁ [] [] := by
    rw [hf]
    exact .done y h₁
  simpa using hp.bind hdone

/-- The same for any rearrangement. -/
theorem Runs.map {p : Program α} {h h₁ : Heap} {x : α} {cs : List (Call Word)} {es : List Event}
    (hp : Runs b p h x h₁ cs es) (f : α → β) :
    Runs b (p >>= fun x => pure (f x)) h (f x) h₁ cs es :=
  hp.bind_done rfl

/-- What a run from scratch shows of a program that ends with an answer. -/
theorem Runs.run_eq {p : Program α} {h h' : Heap} {a : α} {cs : List (Call Word)}
    {es : List Event} (hp : Runs b p h a h' cs es) :
    p.run h b = { result := .ok a, heap := h', calls := cs.toArray, events := es.toArray } := by
  rw [run, hp]
  simp

/-! ## Symbols -/

variable {h : Heap} {name : String} {w : Word}

theorem symbol_runs_known (hname : h.symbol? name = some w) :
    Runs {} (Program.symbol name) h w h [] [] := by
  have hlookup : ({} : Backend).perform h (.lookupSymbol name) = h.answer (some w) := by
    show h.answer (h.symbol? name) = h.answer (some w)
    rw [hname]
  exact Runs.act hlookup (.done w h)

theorem symbol_runs_new (hname : h.symbol? name = none) :
    Runs {} (Program.symbol name) h h.nextHandle (h.pushSymbol name) []
      [.cellAllocated h.size] := by
  have hlookup : ({} : Backend).perform h (.lookupSymbol name) = h.answer none := by
    show h.answer (h.symbol? name) = h.answer none
    rw [hname]
  have hintern : ({} : Backend).perform h (.internSymbol name) =
      { result := .ok h.nextHandle, heap := h.pushSymbol name,
        events := [.cellAllocated h.size] } := by
    rw [Backend.perform_default]
    simp only [Heap.perform, hname, Heap.nextHandle]
  exact Runs.act hlookup (Runs.act hintern (.done _ _))

end Program

end ProxyForge
