import ProxyForge.Program

/-!
# ProxyForge.Threads — clients that share a heap

A `Pool` is a heap and the programs of the threads that work on it. A schedule
is the order in which the threads get to act; each turn is one action, so any
interleaving of the threads' actions is the run of some schedule.
-/

namespace ProxyForge

/-- Threads on a common heap. A thread that faulted stays where it was. -/
structure Pool (α : Type) where
  heap : Heap := {}
  threads : Array (Program α)

namespace Pool

variable {α : Type}

/-- One turn of a thread. -/
def turn (p : Pool α) (thread : Nat) : Pool α :=
  match p.threads[thread]? with
  | none => p
  | some program =>
    let { heap, threads } := p
    match program.step {} heap with
    | { result := .ok next, heap, .. } => { heap, threads := threads.setIfInBounds thread next }
    | { result := .error _, heap, .. } => { heap, threads }

/-- The turns of a schedule, in order. -/
def runSchedule (p : Pool α) : List Nat → Pool α
  | [] => p
  | thread :: rest => (p.turn thread).runSchedule rest

/-- The given number of rounds, in each of which every thread has one turn. -/
def runRounds (p : Pool α) : (rounds : Nat) → Pool α
  | 0 => p
  | rounds + 1 => (p.runSchedule (List.range p.threads.size)).runRounds rounds

/-- The results of the threads that are done. -/
def results (p : Pool α) : Array (Option α) :=
  p.threads.map fun
    | .done a => some a
    | _ => none

end Pool

/-- Interns names in order, after the given symbols. -/
def internAll (symbols : Array Word) : List String → Program (Array Word)
  | [] => return symbols
  | name :: rest => do internAll (symbols.push (← Program.symbol name)) rest

/-- What threads saw that interned the same names at the same time. -/
structure InternReport where
  /-- All threads got the same symbols. -/
  same : Bool
  /-- Every symbol has the name it was interned by. -/
  named : Bool
  /-- The number of cells afterwards. -/
  allocated : Nat
deriving DecidableEq, Repr

/-- Lets threads intern the same names on a fresh heap, turn by turn. Two actions
for each name are enough for every thread to end. -/
def internTogether (threads : Nat) (names : List String) : InternReport :=
  let start : Pool (Array Word) := { threads := Array.replicate threads (internAll #[] names) }
  let p := start.runRounds (2 * names.length)
  let symbols := p.results.map (·.getD #[])
  { same := symbols.all (· == symbols[0]?.getD #[])
    named := symbols.all fun s => s.toList.map p.heap.symbolName? == names.map some
    allocated := p.heap.size }

end ProxyForge
