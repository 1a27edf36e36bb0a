import ProxyForge.Session
import ProxyForge.Proofs.Heap.Lasting
import ProxyForge.Proofs.Programs

/-!
# ProxyForge.Proofs.Heap.Objects — what a word is found to be

On a heap a word is an object of one type at most (`Heap.Is.unique`): the immediate objects
are told apart by their words, and none of them has a cell. Every test looks for one of
the types and answers for any word at all, a handle that was made up included
(`Heap.reply_of_tests`).

An action on a word that is no pair can only fault if it needs one (`Heap.reply_error_iff`),
and it leaves the heap as it was, so that everything behind it has the results that it
would have without it (`Heap.results_insert`).
-/

namespace ProxyForge

/-! ## Types of objects -/

/-- What a word can be found to be. -/
inductive ObjectType where
  | truth
  | emptyList
  | undefined
  | pair
  | symbol
  | string
  | classObject
  | instanceObject
deriving DecidableEq, Repr

/-- The type of a constant. Two of them are of no type that can be asked for. -/
def Constant.type? : Constant → Option ObjectType
  | boolF | boolT => some .truth
  | eol => some .emptyList
  | undefined => some .undefined
  | unspecified | unbound => none

/-- The type of the object in a cell. -/
def Cell.type : Cell → ObjectType
  | pair _ _ => .pair
  | symbol _ => .symbol
  | string _ => .string
  | classCell _ _ => .classObject
  | instanceCell _ => .instanceObject

/-- The type that a primitive tests for. -/
def Unary.tests? : Unary → Option ObjectType
  | isBool => some .truth
  | isNull => some .emptyList
  | isUnbound => some .undefined
  | isPair => some .pair
  | isSymbol => some .symbol
  | isString => some .string
  | _ => none

/-- No two primitives test for the same type. -/
theorem Unary.tests?_inj {p q : Unary} {t : ObjectType} (hp : p.tests? = some t)
    (hq : q.tests? = some t) : p = q := by
  cases p <;> cases q <;> cases hp <;> cases hq <;> rfl

/-- The word that an action needs to be a pair, and for what. -/
def Action.access? : Action Word → Option (PairAccess × Word)
  | .primitive (.unary .car x) => some (.car, x)
  | .primitive (.unary .cdr x) => some (.cdr, x)
  | .primitive (.binary .setCdr x _) => some (.setCdr, x)
  | _ => none

/-- The type of the objects whose text an action asks for, and the word that it asks about. -/
def Action.textOf? : Action Word → Option (ObjectType × Word)
  | .symbolName x => some (.symbol, x)
  | .stringValue x => some (.string, x)
  | .className x => some (.classObject, x)
  | _ => none

/-- The text in a cell. -/
def Cell.text? : Cell → Option String
  | symbol name => some name
  | string text => some text
  | classCell name _ => some name
  | _ => none

/-- The action by itself, as a program. -/
def Program.ofAction (a : Action Word) : Program Answer := do
  return .ofAction a (← perform a)

namespace Heap

variable {h : Heap} {a : Action Word} {x y : Word} {t t' : ObjectType} {c : Cell}

/-- The word is an object of the type. -/
inductive Is (h : Heap) (x : Word) (t : ObjectType) : Prop where
  | constant {k : Constant} (hx : x = constantWord k) (ht : k.type? = some t)
  | cell {c : Cell} (hx : h.get? x = some c) (ht : c.type = t)

theorem constantWord_inj {k k' : Constant} : constantWord k = constantWord k' → k = k' := by
  cases k <;> cases k' <;> decide

/-- No constant has a cell, on whatever heap. -/
theorem get?_constantWord (h : Heap) (k : Constant) : h.get? (constantWord k) = none := by
  cases k <;> exact get?_of_cellIndex?_eq_none (Word.cellIndex?_immediate _)

/-- A word is of one type at most. -/
theorem Is.unique (hx : h.Is x t) (hx' : h.Is x t') : t = t' := by
  cases hx with
  | @constant k hk ht =>
    cases hx' with
    | @constant k' hk' ht' =>
      obtain rfl := constantWord_inj (hk.symm.trans hk')
      exact Option.some.inj (ht.symm.trans ht')
    | cell hget =>
      rw [hk, get?_constantWord] at hget
      cases hget
  | cell hget ht =>
    cases hx' with
    | constant hk' =>
      rw [hk', get?_constantWord] at hget
      cases hget
    | cell hget' ht' =>
      obtain rfl := Option.some.inj (hget.symm.trans hget')
      exact ht.symm.trans ht'

/-! ## Tests -/

theorem is_truth_iff : h.Is x .truth ↔ x = .boolF ∨ x = .boolT := by
  constructor
  · rintro (@⟨k, rfl, ht⟩ | @⟨c, -, ht⟩)
    · cases k <;> cases ht
      · exact .inl rfl
      · exact .inr rfl
    · cases c <;> cases ht
  · rintro (rfl | rfl)
    · exact .constant (k := .boolF) rfl rfl
    · exact .constant (k := .boolT) rfl rfl

/-- The types with one constant and no cells. -/
theorem is_iff_eq_constantWord {k : Constant} (hk : ∀ k', k'.type? = some t ↔ k' = k)
    (hc : ∀ c : Cell, c.type ≠ t) : h.Is x t ↔ x = constantWord k := by
  constructor
  · rintro (⟨hx, ht⟩ | ⟨-, ht⟩)
    · rw [hx, (hk _).1 ht]
    · exact absurd ht (hc _)
  · intro hx
    exact .constant hx ((hk k).2 rfl)

/-- The types with cells and no constant. -/
theorem is_iff_cell (hk : ∀ k : Constant, k.type? ≠ some t) :
    h.Is x t ↔ ∃ c, h.get? x = some c ∧ c.type = t := by
  constructor
  · rintro (⟨-, ht⟩ | ⟨hx, ht⟩)
    · exact absurd ht (hk _)
    · exact ⟨_, hx, ht⟩
  · rintro ⟨c, hx, ht⟩
    exact .cell hx ht

/-- A reader finds something just in the cells of its type. -/
theorem isSome_readers_iff (h : Heap) (x : Word) :
    ((h.pair? x).isSome ↔ h.Is x .pair) ∧
    ((h.symbolName? x).isSome ↔ h.Is x .symbol) ∧
    ((h.stringValue? x).isSome ↔ h.Is x .string) ∧
    ((h.className? x).isSome ↔ h.Is x .classObject) := by
  rw [is_iff_cell (by rintro (_ | _) <;> nofun), is_iff_cell (by rintro (_ | _) <;> nofun),
    is_iff_cell (by rintro (_ | _) <;> nofun), is_iff_cell (by rintro (_ | _) <;> nofun)]
  unfold pair? symbolName? stringValue? className?
  cases h.get? x with
  | none => simp
  | some c => cases c <;> simp [Cell.type]

/-! ## Replies -/

/-- What an action is answered, or the fault that it ends with. -/
def reply (h : Heap) (a : Action Word) : Except Fault Answer :=
  (h.perform a).result.map (.ofAction a)

/-- A test answers for every word, and it says whether the word is of the type. -/
theorem reply_of_tests {p : Unary} (hp : p.tests? = some t) (h : Heap) (x : Word) :
    ∃ b, h.reply (.primitive (.unary p x)) = .ok (.truth b) ∧ (b = true ↔ h.Is x t) := by
  rcases isSome_readers_iff h x with ⟨hpair, hsymbol, hstring, -⟩
  cases p <;> cases hp
  · refine ⟨_, rfl, ?_⟩
    rw [is_truth_iff]
    simp
  · refine ⟨_, rfl, ?_⟩
    rw [is_iff_eq_constantWord (k := .eol) (by rintro (_ | _) <;> decide)
      (by rintro (_ | _) <;> nofun)]
    exact beq_iff_eq
  · exact ⟨_, rfl, hpair⟩
  · exact ⟨_, rfl, hsymbol⟩
  · exact ⟨_, rfl, hstring⟩
  · refine ⟨_, rfl, ?_⟩
    rw [is_iff_eq_constantWord (k := .undefined) (by rintro (_ | _) <;> decide)
      (by rintro (_ | _) <;> nofun)]
    exact beq_iff_eq

/-- So a test that holds tells the type. -/
theorem is_of_reply {p : Unary} (hp : p.tests? = some t)
    (hx : h.reply (.primitive (.unary p x)) = .ok (.truth true)) : h.Is x t := by
  rcases reply_of_tests hp h x with ⟨b, hb, hiff⟩
  rw [hb] at hx
  cases hx
  exact hiff.1 rfl

theorem reply_isPair_false_iff :
    h.reply (.primitive (.unary .isPair x)) = .ok (.truth false) ↔ ¬ h.Is x .pair := by
  rcases reply_of_tests (p := .isPair) rfl h x with ⟨b, hb, hiff⟩
  rw [hb, ← hiff]
  cases b <;> simp

theorem exists_pair_of_is (hx : h.Is x .pair) : ∃ car cdr, h.get? x = some (.pair car cdr) :=
  isSome_pair?.1 ((isSome_readers_iff h x).1.2 hx)

/-- An action that asks for a text is answered the text of the cell when that is of its type,
and nothing for all other words. -/
theorem reply_of_textOf (ha : a.textOf? = some (t, x)) (h : Heap) :
    ∃ s : Option String, h.reply a = .ok (s.elim .nothing .text) ∧ (s.isSome ↔ h.Is x t) ∧
      ∀ text, s = some text → ∃ c, h.get? x = some c ∧ c.text? = some text := by
  rcases isSome_readers_iff h x with ⟨-, hsymbol, hstring, hclass⟩
  cases a <;> cases ha
  · refine ⟨h.symbolName? x, rfl, hsymbol, ?_⟩
    intro text htext
    exact ⟨_, symbolName?_eq_some.1 htext, rfl⟩
  · refine ⟨h.stringValue? x, rfl, hstring, ?_⟩
    intro text htext
    unfold stringValue? at htext
    split at htext
    · next hget => exact ⟨_, hget, htext⟩
    · cases htext
  · refine ⟨h.className? x, rfl, hclass, ?_⟩
    intro text htext
    unfold className? at htext
    split at htext
    · next hget => exact ⟨_, hget, htext⟩
    · cases htext

/-! ## Faults -/

/-- What the actions that need a pair do with one. -/
theorem replies_of_pair {car cdr : Word} (hx : h.get? x = some (.pair car cdr)) :
    h.reply (.primitive (.unary .car x)) = .ok (.word car) ∧
    h.reply (.primitive (.unary .cdr x)) = .ok (.word cdr) ∧
    ∀ y, h.reply (.primitive (.binary .setCdr x y)) = .ok .nothing ∧
      (h.perform (.primitive (.binary .setCdr x y))).heap = h.setCdr x y := by
  rcases perform_of_pair hx with ⟨-, hcar, hcdr⟩
  refine ⟨by rw [reply, hcar]; rfl, by rw [reply, hcdr]; rfl, fun y => ?_⟩
  have hset : h.perform (.primitive (.binary .setCdr x y)) =
      { result := .ok (), heap := h.setCdr x y } := performBinary_setCdr hx
  rw [reply, hset]
  exact ⟨rfl, rfl⟩

/-- What they do with any other word. -/
theorem reply_of_not_pair {k : PairAccess} (ha : a.access? = some (k, x))
    (hx : ¬ h.Is x .pair) : h.reply a = .error (.nonPair k x) ∧ (h.perform a).heap = h := by
  have hnone : h.pair? x = none := by
    rw [← (isSome_readers_iff h x).1] at hx
    simpa using hx
  rcases perform_of_not_pair hnone with ⟨-, hcar, hcdr⟩
  unfold Action.access? at ha
  split at ha
  · cases ha
    rw [reply, hcar]
    exact ⟨rfl, rfl⟩
  · cases ha
    rw [reply, hcdr]
    exact ⟨rfl, rfl⟩
  · next y =>
    cases ha
    have hset : h.perform (.primitive (.binary .setCdr x y)) =
        { result := .error (.nonPair .setCdr x), heap := h } :=
      performBinary_setCdr_of_not_pair hnone
    rw [reply, hset]
    exact ⟨rfl, rfl⟩
  · cases ha

/-- So they end with a fault just when they are given a word that is no pair. -/
theorem reply_error_iff {k : PairAccess} (ha : a.access? = some (k, x)) (h : Heap) (f : Fault) :
    h.reply a = .error f ↔ f = .nonPair k x ∧ ¬ h.Is x .pair := by
  by_cases hx : h.Is x .pair
  · rcases exists_pair_of_is hx with ⟨car, cdr, hget⟩
    rcases replies_of_pair hget with ⟨hcar, hcdr, hset⟩
    refine iff_of_false ?_ fun hf => hf.2 hx
    unfold Action.access? at ha
    split at ha <;> cases ha
    · rw [hcar]
      nofun
    · rw [hcdr]
      nofun
    · rw [(hset _).1]
      nofun
  · rw [(reply_of_not_pair ha hx).1, Except.error.injEq]
    exact ⟨fun hf => ⟨hf.symm, hx⟩, fun hf => hf.1.symm⟩

/-- All other actions answer, but for a walk along a class chain that never ends. -/
theorem exists_reply (ha : a.access? = none) (hisA : ∀ x y, a ≠ .primitive (.binary .isA x y))
    (h : Heap) : ∃ r, h.reply a = .ok r := by
  cases a with
  | primitive call =>
    cases call with
    | constant k => exact ⟨_, rfl⟩
    | unary p x =>
      cases p with
      | car => cases ha
      | cdr => cases ha
      | _ => exact ⟨_, rfl⟩
    | binary p x y =>
      cases p with
      | isEq => exact ⟨_, rfl⟩
      | isA => exact absurd rfl (hisA x y)
      | cons => exact ⟨_, rfl⟩
      | setCdr => cases ha
  | internSymbol name =>
    unfold reply
    rw [perform]
    cases h.symbol? name <;> exact ⟨_, rfl⟩
  | _ => exact ⟨_, rfl⟩

/-! ## Runs -/

/-- The results of programs that run one after the other, each of them on the heap that the
one before it left, by a fault or not. -/
def results (h : Heap) : List (Program Answer) → List (Except Fault Answer)
  | [] => []
  | p :: ps => (p.run h).result :: results (p.run h).heap ps

/-- The heap behind such programs. -/
def behind (h : Heap) : List (Program Answer) → Heap
  | [] => h
  | p :: ps => behind (p.run h).heap ps

/-- A program that leaves its heap as it was can be put among others: it has a result of its
own, and all others have the ones that they had. -/
theorem results_insert {p : Program Answer} {r : Except Fault Answer}
    (before later : List (Program Answer)) (hr : (p.run (h.behind before)).result = r)
    (hp : (p.run (h.behind before)).heap = h.behind before) :
    h.results (before ++ p :: later) = (h.results (before ++ later)).insertIdx before.length r ∧
    h.behind (before ++ p :: later) = h.behind (before ++ later) := by
  induction before generalizing h with
  | nil =>
    have hp' : (p.run h).heap = h := hp
    have hr' : (p.run h).result = r := hr
    simp [results, behind, hp', hr']
  | cons q before ih =>
    rcases ih hr hp with ⟨hresults, hbehind⟩
    refine ⟨?_, hbehind⟩
    simp only [List.cons_append, results, hresults, List.length_cons, List.insertIdx_succ_cons]

/-- Whatever the heap is, and for any words, made up or not: a word is of one type at most. Each
test says whether the word is of its type, so that at most one of them holds; what is not the
false object is true; an action that asks for a text has one for the objects of its type alone.
Only three operations can fault, and a walk along a class chain: they fault just when they are
given a word that is no pair, name it, and leave the heap as it was, so that everything before
and behind them has the results that it has without them. A new pair has the car and the cdr
that it was made of, and a relinked one has the new cdr and its old car. -/
theorem words_have_one_type (h : Heap) :
    (∀ x t t', h.Is x t → h.Is x t' → t = t') ∧
    (∀ x p t, p.tests? = some t →
      ∃ b, h.reply (.primitive (.unary p x)) = .ok (.truth b) ∧ (b = true ↔ h.Is x t)) ∧
    (∀ x p q t t', p.tests? = some t → q.tests? = some t' →
      h.reply (.primitive (.unary p x)) = .ok (.truth true) →
      h.reply (.primitive (.unary q x)) = .ok (.truth true) → p = q) ∧
    (∀ x, ∃ b, h.reply (.primitive (.unary .isFalse x)) = .ok (.truth b) ∧
      h.reply (.primitive (.unary .isTrue x)) = .ok (.truth (!b)) ∧ (b = true ↔ x = .boolF)) ∧
    (∀ a x t, a.textOf? = some (t, x) →
      ∃ s : Option String, h.reply a = .ok (s.elim .nothing .text) ∧ (s.isSome ↔ h.Is x t) ∧
        ∀ text, s = some text → ∃ c, h.get? x = some c ∧ c.text? = some text) ∧
    (∀ a, a.access? = none → (∀ x y, a ≠ .primitive (.binary .isA x y)) →
      ∃ r, h.reply a = .ok r) ∧
    (∀ a k x, a.access? = some (k, x) →
      (∀ f, h.reply a = .error f ↔ f = .nonPair k x ∧
        h.reply (.primitive (.unary .isPair x)) = .ok (.truth false)) ∧
      ∀ before later, (h.behind before).reply (.primitive (.unary .isPair x)) =
          .ok (.truth false) →
        h.results (before ++ .ofAction a :: later) =
          (h.results (before ++ later)).insertIdx before.length (.error (.nonPair k x)) ∧
        h.behind (before ++ .ofAction a :: later) = h.behind (before ++ later)) ∧
    (∀ a b, h.size < Word.capacity →
      h.reply (.primitive (.binary .cons a b)) = .ok (.word h.nextHandle) ∧
      (h.perform (.primitive (.binary .cons a b))).heap.reply
        (.primitive (.unary .car h.nextHandle)) = .ok (.word a) ∧
      (h.perform (.primitive (.binary .cons a b))).heap.reply
        (.primitive (.unary .cdr h.nextHandle)) = .ok (.word b)) ∧
    (∀ p y, h.reply (.primitive (.unary .isPair p)) = .ok (.truth true) →
      h.reply (.primitive (.binary .setCdr p y)) = .ok .nothing ∧
      (h.perform (.primitive (.binary .setCdr p y))).heap.reply
        (.primitive (.unary .cdr p)) = .ok (.word y) ∧
      (h.perform (.primitive (.binary .setCdr p y))).heap.reply
        (.primitive (.unary .car p)) = h.reply (.primitive (.unary .car p))) := by
  refine ⟨fun x t t' => Is.unique, fun x p t hp => reply_of_tests hp h x, ?_, ?_,
    fun a x t ha => reply_of_textOf ha h, fun a ha hisA => exists_reply ha hisA h, ?_, ?_, ?_⟩
  · intro x p q t t' hp hq hpx hqx
    obtain rfl := Is.unique (is_of_reply hp hpx) (is_of_reply hq hqx)
    exact Unary.tests?_inj hp hq
  · intro x
    exact ⟨x == .boolF, rfl, rfl, beq_iff_eq⟩
  · intro a k x ha
    refine ⟨fun f => ?_, fun before later hx => ?_⟩
    · rw [reply_isPair_false_iff]
      exact reply_error_iff ha h f
    · rw [reply_isPair_false_iff] at hx
      rcases reply_of_not_pair ha hx with ⟨hreply, hheap⟩
      rcases Program.run_perform_map a (Answer.ofAction a) (h.behind before) with ⟨hresult, hrun⟩
      exact results_insert before later (hresult.trans hreply) (hrun.trans hheap)
  · intro a b hsize
    rcases replies_of_pair (get?_push_nextHandle hsize) with ⟨hcar, hcdr, -⟩
    exact ⟨rfl, hcar, hcdr⟩
  · intro p y hp
    rcases exists_pair_of_is (is_of_reply rfl hp) with ⟨car, cdr, hget⟩
    rcases replies_of_pair hget with ⟨hcar, -, hset⟩
    rcases hset y with ⟨hreply, hheap⟩
    rcases replies_of_pair (get?_setCdr_self (y := y) hget) with ⟨hcar', hcdr', -⟩
    rw [hheap, hcar]
    exact ⟨hreply, hcdr', hcar'⟩

/-- A symbol, a pair, and an instance of a class that is the pair. -/
def cabinet : Heap :=
  ({} : Heap).after [.internSymbol "a", .primitive (.binary .cons .boolF (.handle 9)),
    .newInstance (.handle 1)]

/-- A constant, a handle that was made up and a symbol in place of pairs, among programs that
go on. -/
theorem words_have_one_type_in_cabinet :
    cabinet.size < Word.capacity ∧
    (cabinet.results [.ofAction .allocated,
        .ofAction (.primitive (.binary .setCdr (.handle 0) .eol)),
        .ofAction (.primitive (.unary .cdr (.handle 1)))] =
      [.ok (.number 3), .error (.nonPair .setCdr (.handle 0)), .ok (.word (.handle 9))]) ∧
    (∃ b, cabinet.reply (.primitive (.unary .isPair (.handle 9))) = .ok (.truth b) ∧
      (b = true ↔ cabinet.Is (.handle 9) .pair)) ∧
    (cabinet.perform (.primitive (.binary .cons .unbound (.handle 3)))).heap.reply
      (.primitive (.unary .cdr (.handle 3))) = .ok (.word (.handle 3)) ∧
    (cabinet.perform (.primitive (.binary .setCdr (.handle 1) (.handle 0)))).heap.reply
      (.primitive (.unary .car (.handle 1))) = .ok (.word .boolF) := by
  have hsize : cabinet.size < Word.capacity := by decide
  rcases words_have_one_type cabinet with ⟨-, htests, -, -, -, -, haccess, hcons, hset⟩
  refine ⟨hsize, ?_, htests (.handle 9) .isPair .pair rfl, (hcons .unbound (.handle 3) hsize).2.2,
    ((hset (.handle 1) (.handle 0) rfl).2.2).trans rfl⟩
  exact ((haccess (.primitive (.binary .setCdr (.handle 0) .eol)) .setCdr (.handle 0) rfl).2
    [.ofAction .allocated] [.ofAction (.primitive (.unary .cdr (.handle 1)))] rfl).1

end Heap

end ProxyForge
