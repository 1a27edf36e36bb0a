import ProxyForge.Heap.Action

/-!
# ProxyForge.Program — heap clients as trees of actions

A `Program` is what a client of the heap does: the next action, and for every
answer the program that goes on from it. Since the tree names single actions,
one definition of a client can be run by itself (`Program.run`), run against a
backend that answers some calls in its own way, observed call by call, or
interleaved with other clients action by action (`Program.step`).
-/

namespace ProxyForge

/-- A client of the heap that ends with a value of type `α`. -/
inductive Program (α : Type) where
  | done (a : α)
  | act (a : Action Word) (next : a.Answer → Program α)
  | emit (e : Event) (next : Program α)
  | fail (f : Fault)

namespace Program

/-! ## Composition -/

/-- Goes on with `f` where `p` ends. -/
def bind {α β : Type} (p : Program α) (f : α → Program β) : Program β :=
  match p with
  | done a => f a
  | act a next => act a fun answer => (next answer).bind f
  | emit e next => emit e (next.bind f)
  | fail e => fail e

instance : Monad Program where
  pure := done
  bind := bind

/-! ## Single actions -/

/-- One action, whose answer is the result. -/
def perform (a : Action Word) : Program a.Answer := act a done

/-- Calls a primitive. -/
def call (c : Call Word) : Program c.Answer := perform (.primitive c)

/-- The backend's empty list. -/
def eol : Program Word := call (.constant .eol)

/-- The backend's undefined object. -/
def undefined : Program Word := call (.constant .undefined)

/-- Whether the backend takes `x` for its undefined object. -/
def isUnbound (x : Word) : Program Bool := call (.unary .isUnbound x)

/-- Whether `x` is a pair. -/
def isPair (x : Word) : Program Bool := call (.unary .isPair x)

/-- The car of `x`. -/
def car (x : Word) : Program Word := call (.unary .car x)

/-- The cdr of `x`. -/
def cdr (x : Word) : Program Word := call (.unary .cdr x)

/-- A new pair. -/
def cons (x y : Word) : Program Word := call (.binary .cons x y)

/-- Links the pair `x` to `y`. -/
def setCdr (x y : Word) : Program Unit := call (.binary .setCdr x y)

/-- Interns a symbol: looks it up, and only when that finds nothing asks for the
second lookup that may allocate. -/
def symbol (name : String) : Program Word := do
  match ← perform (.lookupSymbol name) with
  | some sym => return sym
  | none => perform (.internSymbol name)

end Program

/-! ## Backends -/

/-- A runtime over a heap. It may have an empty list and an undefined object of
its own; everything else is the heap's. -/
structure Backend where
  eol : Word := .eol
  undefined : Word := .undefined
deriving DecidableEq, Repr

namespace Backend

/-- The meaning of an action on this backend. -/
def perform (b : Backend) (h : Heap) : (a : Action Word) → Effect a.Answer
  | .primitive (.constant .eol) => h.answer b.eol
  | .primitive (.constant .undefined) => h.answer b.undefined
  | .primitive (.unary .isNull x) => h.answer (x == b.eol)
  | .primitive (.unary .isUnbound x) => h.answer (x == b.undefined)
  | a => h.perform a

end Backend

/-! ## Running -/

/-- What a program leaves behind: its result or a fault, the heap, and in order
the primitive calls it made and the events they caused. -/
structure Run (α : Type) where
  result : Except Fault α
  heap : Heap
  calls : Array (Call Word)
  events : Array Event

/-- The primitive call that an action is. -/
def Action.call? {α : Type} : Action α → Option (Call α)
  | .primitive c => some c
  | _ => none

namespace Program

/-- Runs a program after the given calls and events. -/
def runAfter {α : Type} (b : Backend) :
    Program α → Heap → Array (Call Word) → Array Event → Run α
  | done a, h, calls, events => { result := .ok a, heap := h, calls, events }
  | fail f, h, calls, events => { result := .error f, heap := h, calls, events }
  | emit e next, h, calls, events => runAfter b next h calls (events.push e)
  | act a next, h, calls, events =>
    let calls := a.call?.elim calls calls.push
    match b.perform h a with
    | { result := .ok answer, heap := h, events := new } =>
      runAfter b (next answer) h calls (events.appendList new)
    | { result := .error f, heap := h, events := new } =>
      { result := .error f, heap := h, calls, events := events.appendList new }

/-- Runs a program by itself. -/
def run {α : Type} (p : Program α) (h : Heap) (b : Backend := {}) : Run α :=
  p.runAfter b h #[] #[]

/-- Lets a program do its next action. -/
def step {α : Type} (b : Backend) (p : Program α) (h : Heap) : Effect (Program α) :=
  match p with
  | done a => h.answer (done a)
  | fail f => { result := .error f, heap := h }
  | emit e next => { result := .ok next, heap := h, events := [e] }
  | act a next =>
    let effect := b.perform h a
    { result := effect.result.map next, heap := effect.heap, events := effect.events }

end Program

end ProxyForge
