import ProxyForge.Lists.Traversal
import ProxyForge.Proxy

/-!
# ProxyForge.Session — scripts of steps on one heap

A `Step` is one thing that a client asks of the heap, of the list functions, of
the exported surface, or of a builder, iterator or cursor that lives across
steps. Its arguments are words or refer back to the answers of earlier steps.

`Session.step` resolves the references, runs the step's program to its end and
files its answer; a step that faults changes nothing but is still filed, so
that later steps keep their numbers. `Session.run` folds it over a script.
-/

namespace ProxyForge

/-- An argument of a step: a word, or the answer of an earlier step. -/
inductive Ref where
  | word (w : Word)
  | answerOf (step : Nat)
deriving DecidableEq, Repr

/-- One step of a script. Builders, iterators and cursors go by their numbers. -/
inductive Step (α : Type) where
  | action (a : Action α)
  | symbol (name : String)
  | proxy (p : Proxy α)
  | listOfArguments (elements : List α)
  | listOfTerminated (elements : List α)
  | listOfValues (values : List α)
  | listLength (list : α)
  | listTake (list : α) (limit : Nat)
  | newBuilder
  | push (builder : Nat) (value : α)
  | extend (builder : Nat) (values : List α)
  | builderLength (builder : Nat)
  | builderIsEmpty (builder : Nat)
  | finish (builder : Nat)
  | newIter (list : α)
  | iterNext (iter : Nat)
  | newCursor (elements : List α)
  | cursorNext (cursor : Nat)
  | describe (x : α)
deriving DecidableEq, Repr

/-- Gives each argument its value; fails when one has none. -/
def Step.resolve {α β : Type} (f : α → Option β) : Step α → Option (Step β)
  | action a => (a.resolve f).map action
  | symbol name => some (symbol name)
  | proxy p => (p.resolve f).map proxy
  | listOfArguments elements => (elements.mapM f).map listOfArguments
  | listOfTerminated elements => (elements.mapM f).map listOfTerminated
  | listOfValues values => (values.mapM f).map listOfValues
  | listLength list => (f list).map listLength
  | listTake list limit => (f list).map (listTake · limit)
  | newBuilder => some newBuilder
  | push builder value => (f value).map (push builder)
  | extend builder values => (values.mapM f).map (extend builder)
  | builderLength builder => some (builderLength builder)
  | builderIsEmpty builder => some (builderIsEmpty builder)
  | finish builder => some (finish builder)
  | newIter list => (f list).map newIter
  | iterNext iter => some (iterNext iter)
  | newCursor elements => (elements.mapM f).map newCursor
  | cursorNext cursor => some (cursorNext cursor)
  | describe x => (f x).map describe

/-- What a step answers. Only a `word` can be referred to later. -/
inductive Answer where
  | nothing
  | word (w : Word)
  | bits (bits : UInt64)
  | truth (b : Bool)
  | number (n : Nat)
  | text (s : String)
  | words (ws : Array Word)
  | cells (cs : Array Cell)
deriving DecidableEq, Repr

namespace Answer

/-- The answer of a primitive. -/
def ofCarrier : (k : Kind) → k.Carrier → Answer
  | .value, w => word w
  | .truth, b => truth b
  | .bits, b => bits b
  | .unit, _ => nothing

/-- The answer of an action. -/
def ofAction : (a : Action Word) → a.Answer → Answer
  | .primitive c, x => ofCarrier c.ret x
  | .lookupSymbol _, sym => sym.elim nothing word
  | .internSymbol _, w | .newString _, w | .newClass _ _, w | .newInstance _, w => word w
  | .symbolName _, s | .stringValue _, s | .className _, s => s.elim nothing text
  | .allocated, n => number n
  | .contents, cs => cells cs

/-- The answer of a proxy. -/
def ofProxy : (p : Proxy Word) → p.Answer → Answer
  | .primitive c, x => ofCarrier c.ret x
  | .list _, w => word w
  | .diagnostic, _ => nothing

/-- A word if there is one. -/
def ofWord? (w : Option Word) : Answer := w.elim nothing word

/-- The word that later steps can refer to. -/
def word? : Answer → Option Word
  | word w => some w
  | _ => none

end Answer

/-- The objects that live across steps. A finished builder is gone. -/
structure Registers where
  builders : Array (Option ListBuilder) := #[]
  iters : Array ListIter := #[]
  cursors : Array ArgumentCursor := #[]
deriving Repr

/-- The argument array of the given elements, with the backend's end mark. -/
def argumentArray (elements : List Word) : Program (List Word) := do
  return elements ++ [← Program.undefined]

/-- What a step does: its answer, and the objects that live on. It has no meaning
when it names an object that does not exist. -/
def Step.program (r : Registers) : Step Word → Option (Program (Answer × Registers))
  | action a => some do return (.ofAction a (← Program.perform a), r)
  | symbol name => some do return (.word (← Program.symbol name), r)
  | proxy p => some do return (.ofProxy p (← p.program), r)
  | listOfArguments elements => some do
    return (.word (← ProxyForge.listOfArguments (← argumentArray elements)), r)
  | listOfTerminated elements => some do
    return (.ofWord? (← listOfTerminated? elements), r)
  | listOfValues values => some do return (.word (← ProxyForge.listOfValues values), r)
  | listLength list => some do return (.number (← ProxyForge.listLength list), r)
  | listTake list limit => some do return (.words (← ProxyForge.listTake list limit), r)
  | newBuilder => some do
    let b ← ListBuilder.new
    return (.number r.builders.size, { r with builders := r.builders.push (some b) })
  | push builder value => do
    let b ← (← r.builders[builder]?)
    return do
      let b ← b.push value
      return (.nothing, { r with builders := r.builders.setIfInBounds builder (some b) })
  | extend builder values => do
    let b ← (← r.builders[builder]?)
    return do
      let b ← b.extend values
      return (.nothing, { r with builders := r.builders.setIfInBounds builder (some b) })
  | builderLength builder => do
    let b ← (← r.builders[builder]?)
    return .done (.number b.length, r)
  | builderIsEmpty builder => do
    let b ← (← r.builders[builder]?)
    return .done (.truth b.isEmpty, r)
  | finish builder => do
    let b ← (← r.builders[builder]?)
    return do
      let list ← b.finish
      return (.word list, { r with builders := r.builders.setIfInBounds builder none })
  | newIter list =>
    some (.done (.number r.iters.size, { r with iters := r.iters.push ⟨list⟩ }))
  | iterNext iter => do
    let it ← r.iters[iter]?
    return do
      let (v, it) ← it.next
      return (.ofWord? v, { r with iters := r.iters.setIfInBounds iter it })
  | newCursor elements => some do
    let rest ← argumentArray elements
    return (.number r.cursors.size, { r with cursors := r.cursors.push { rest } })
  | cursorNext cursor => do
    let c ← r.cursors[cursor]?
    return do
      let (v, c) ← c.next
      return (.ofWord? v, { r with cursors := r.cursors.setIfInBounds cursor c })
  | describe x => some (.done (.text x.describe, r))

/-- A heap between two steps of a script. -/
structure Session where
  heap : Heap := {}
  registers : Registers := {}
  /-- The words that the steps so far answered. -/
  answers : Array (Option Word) := #[]

/-- What one step of a script gave, and the calls and events on the way. -/
structure Outcome where
  result : Except Fault Answer
  calls : Array (Call Word)
  events : Array Event

namespace Session

/-- The value of an argument. -/
def resolve (s : Session) : Ref → Option Word
  | .word w => some w
  | .answerOf step => s.answers[step]?.join

/-- Does one step; `none` when it refers to something that is not there. -/
def step (b : Backend) (s : Session) (st : Step Ref) : Option (Outcome × Session) := do
  let st ← st.resolve s.resolve
  let program ← st.program s.registers
  let { heap, registers, answers } := s
  match program.run heap b with
  | { result := .ok (answer, registers), heap, calls, events } =>
    return ({ result := .ok answer, calls, events },
      { heap, registers, answers := answers.push answer.word? })
  | { result := .error f, heap, calls, events } =>
    return ({ result := .error f, calls, events },
      { heap, registers, answers := answers.push none })

/-- Does the steps in order, after the given outcomes. -/
def runAfter (b : Backend) (s : Session) (outcomes : Array Outcome) :
    List (Step Ref) → Option (Array Outcome × Session)
  | [] => some (outcomes, s)
  | st :: rest => do
    let (outcome, s) ← s.step b st
    s.runAfter b (outcomes.push outcome) rest

/-- Runs a script on a fresh heap. -/
def run (script : List (Step Ref)) (b : Backend := {}) : Option (Array Outcome × Session) :=
  runAfter b {} #[] script

end Session

end ProxyForge
