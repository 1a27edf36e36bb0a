import ProxyForge.Program
import ProxyForge.Proofs.Heap.Change

/-!
# ProxyForge.Proofs.Heap.Lasting — what lasts of a cell

A cell is never moved, dropped or given another kind. The cdr of a pair is all that
can change, and only by a call that sets it:

* `cdrsSet` reads off a list of calls which cdrs they set on a given pair;
* `get?_perform` says what an action leaves of a cell, whatever the action is;
* `Heap.Outlasts` is what that comes to over any number of actions, and the readers
  that do not look at a cdr answer the same in a heap that outlasts another one.
-/

namespace ProxyForge

/-! ## Cdrs that calls set -/

/-- The value that a call sets as the cdr of `w`. -/
def Call.cdrSet? (w : Word) : Call Word → Option Word
  | .binary .setCdr x y => if x = w then some y else none
  | _ => none

/-- The values that calls set as the cdr of `w`, in order. -/
def cdrsSet (w : Word) (calls : List (Call Word)) : List Word := calls.filterMap (Call.cdrSet? w)

/-- The cell after its cdr was set to the given values in order: a pair has the last of
them, and every other cell is as it was. -/
def Cell.relinked (c : Cell) (cdrs : List Word) : Cell :=
  match c with
  | .pair car cdr => .pair car (cdrs.getLast?.getD cdr)
  | c => c

@[simp] theorem Cell.relinked_nil (c : Cell) : c.relinked [] = c := by
  cases c <;> rfl

theorem Cell.relinked_append (c : Cell) (cdrs cdrs' : List Word) :
    c.relinked (cdrs ++ cdrs') = (c.relinked cdrs).relinked cdrs' := by
  cases c with
  | pair car cdr =>
    simp only [relinked, List.getLast?_append]
    cases cdrs'.getLast? <;> rfl
  | _ => rfl

@[simp] theorem cdrsSet_append (w : Word) (calls calls' : List (Call Word)) :
    cdrsSet w (calls ++ calls') = cdrsSet w calls ++ cdrsSet w calls' :=
  List.filterMap_append ..

/-- Only a relinking of the word sets its cdr. -/
theorem cdrsSet_call?_of_ne {w : Word} {a : Action Word}
    (ha : ∀ y, a ≠ .primitive (.binary .setCdr w y)) : cdrsSet w a.call?.toList = [] := by
  cases a with
  | primitive call =>
    cases call with
    | binary p x y =>
      cases p with
      | setCdr =>
        have hx : x ≠ w := by
          rintro rfl
          exact ha y rfl
        simp [cdrsSet, Action.call?, Call.cdrSet?, hx]
      | _ => rfl
    | _ => rfl
  | _ => rfl

/-- Whether an action only reads. -/
def Action.reads {α : Type} : Action α → Bool
  | .primitive (.binary .cons _ _) | .primitive (.binary .setCdr _ _) => false
  | .internSymbol _ | .newString _ | .newClass _ _ | .newInstance _ => false
  | _ => true

namespace Heap

variable {h h' : Heap} {a : Action Word} {w x y : Word} {c : Cell}

/-! ## One action -/

/-- A word that is no pair cannot be relinked. -/
theorem performBinary_setCdr_of_not_pair (hx : h.pair? x = none) :
    h.performBinary x y .setCdr = { result := .error (.nonPair .setCdr x), heap := h } := by
  rw [performBinary, hx]
  rfl

/-- An action keeps every cell; a pair that the action relinks gets the new cdr. -/
theorem get?_perform (hw : h.get? w = some c) (hsize : (h.perform a).heap.size ≤ Word.capacity) :
    (h.perform a).heap.get? w = some (c.relinked (cdrsSet w a.call?.toList)) := by
  by_cases ha : ∃ y, a = .primitive (.binary .setCdr w y)
  · -- the action relinks the word itself, which only a pair allows
    rcases ha with ⟨y, rfl⟩
    have hset : cdrsSet w (Action.primitive (.binary .setCdr w y)).call?.toList = [y] := by
      simp [cdrsSet, Action.call?, Call.cdrSet?]
    rw [hset]
    show (h.performBinary w y .setCdr).heap.get? w = some (c.relinked [y])
    cases hpair : h.pair? w with
    | none =>
      rw [performBinary_setCdr_of_not_pair hpair]
      have hc : c.relinked [y] = c := by
        cases c with
        | pair car cdr =>
          rw [pair?_eq_some.2 hw] at hpair
          cases hpair
        | _ => rfl
      rw [hc]
      exact hw
    | some p =>
      have hget : h.get? w = some (.pair p.1 p.2) := pair?_eq_some.1 hpair
      have hc : c = .pair p.1 p.2 := by
        rw [hget] at hw
        exact (Option.some.inj hw).symm
      subst hc
      rw [performBinary_setCdr hget]
      exact get?_setCdr_self hget
  · have hne : ∀ y, a ≠ .primitive (.binary .setCdr w y) := by
      intro y hy
      exact ha ⟨y, hy⟩
    rw [cdrsSet_call?_of_ne hne, Cell.relinked_nil]
    exact (perform_change h a).get?_of_some hsize hw hne

/-- A reading action leaves the heap exactly as it was, also when it faults. -/
theorem perform_heap_of_reads (ha : a.reads = true) : (h.perform a).heap = h := by
  cases a with
  | primitive call =>
    cases call with
    | constant k => rfl
    | unary p x => cases p <;> rfl
    | binary p x y =>
      cases p with
      | isEq => rfl
      | isA => rfl
      | cons => cases ha
      | setCdr => cases ha
  | internSymbol name => cases ha
  | newString text => cases ha
  | newClass name parent => cases ha
  | newInstance cls => cases ha
  | _ => rfl

/-! ## Any number of actions -/

/-- The heap after the given actions. -/
def after (h : Heap) (actions : List (Action Word)) : Heap :=
  actions.foldl (fun h a => (h.perform a).heap) h

theorem after_cons (h : Heap) (a : Action Word) (actions : List (Action Word)) :
    h.after (a :: actions) = (h.perform a).heap.after actions := rfl

theorem after_append (h : Heap) (actions actions' : List (Action Word)) :
    h.after (actions ++ actions') = (h.after actions).after actions' :=
  List.foldl_append ..

theorem size_le_after (h : Heap) (actions : List (Action Word)) :
    h.size ≤ (h.after actions).size :=
  size_le_foldl (fun h a => (perform h a).heap) id (fun h a => (perform_change h a).size_le)
    actions h

/-- Actions keep every cell; a pair has the cdr that was set last. -/
theorem get?_after (actions : List (Action Word)) (hw : h.get? w = some c)
    (hsize : (h.after actions).size ≤ Word.capacity) :
    (h.after actions).get? w =
      some (c.relinked (cdrsSet w (actions.filterMap Action.call?))) := by
  induction actions generalizing h c with
  | nil =>
    rw [show cdrsSet w ([].filterMap Action.call?) = [] from rfl, Cell.relinked_nil]
    exact hw
  | cons a actions ih =>
    rw [after_cons] at hsize ⊢
    have hnext : (h.perform a).heap.size ≤ Word.capacity :=
      Nat.le_trans (size_le_after _ actions) hsize
    have hcalls : (a :: actions).filterMap Action.call? =
        a.call?.toList ++ actions.filterMap Action.call? := by
      cases ha : a.call? <;> simp [ha]
    rw [ih (get?_perform hw hnext) hsize, hcalls, cdrsSet_append, Cell.relinked_append]

/-- The later heap `h'` has every cell of `h`, but for the cdrs of pairs. -/
structure Outlasts (h' h : Heap) : Prop where
  size_le : h.size ≤ h'.size
  fits : h'.size ≤ Word.capacity
  get? : ∀ w c, h.get? w = some c → ∃ cdrs, h'.get? w = some (c.relinked cdrs)

theorem outlasts_after (actions : List (Action Word))
    (hsize : (h.after actions).size ≤ Word.capacity) : (h.after actions).Outlasts h := by
  refine ⟨size_le_after h actions, hsize, ?_⟩
  intro w c hw
  exact ⟨_, get?_after actions hw hsize⟩

theorem Outlasts.refl (hsize : h.size ≤ Word.capacity) : h.Outlasts h := outlasts_after [] hsize

theorem Outlasts.perform (hl : h'.Outlasts h) (hsize : (h'.perform a).heap.size ≤ Word.capacity) :
    (h'.perform a).heap.Outlasts h := by
  refine ⟨Nat.le_trans hl.size_le (perform_change h' a).size_le, hsize, ?_⟩
  intro w c hw
  rcases hl.get? w c hw with ⟨cdrs, hw'⟩
  rw [get?_perform hw' hsize, ← Cell.relinked_append]
  exact ⟨_, rfl⟩

end Heap

end ProxyForge
