import ProxyForge.Proofs.Clients.Lockstep
import ProxyForge.Proofs.Programs
import ProxyForge.Lists.Traversal
import ProxyForge.Proxy

/-!
# ProxyForge.Proofs.Clients.Twins — the same program in two heaps

Two programs are twins when they do counterparts of the same actions, whatever the
related answers are. The list functions look at words through actions alone, so
that they are twins for related arguments, and twins run in lockstep
(`Twin.lockstep`). Only a symbol is not interned by the same actions in both heaps:
the common one may have it already (`symbol_lockstep`).
-/

namespace ProxyForge

open Renaming

namespace Program

variable {α β γ δ : Type} {r r' : Renaming}

/-- From a renaming `r` on, the two programs do counterparts of the same actions, and end
with values that `R` relates. -/
inductive Twin (R : Renaming → α → β → Prop) : Renaming → Program α → Program β → Prop where
  | done {r : Renaming} {a : α} {b : β} (h : R r a b) : Twin R r (.done a) (.done b)
  | emit {r : Renaming} {e f : Event} {p : Program α} {q : Program β} (h : Twin R r p q) :
      Twin R r (.emit e p) (.emit f q)
  | act {r : Renaming} {a b : Action Word} {p : a.Answer → Program α} {q : b.Answer → Program β}
      (hab : r.SendsAction a b)
      (h : ∀ r', r ≤ r' → ∀ x y, Answers a b r' x y → Twin R r' (p x) (q y)) :
      Twin R r (.act a p) (.act b q)

namespace Twin

theorem bind {S : Renaming → α → β → Prop} {R : Renaming → γ → δ → Prop} {p : Program α}
    {q : Program β} {f : α → Program γ} {g : β → Program δ} (hp : Twin S r p q)
    (hf : ∀ r', r ≤ r' → ∀ a b, S r' a b → Twin R r' (f a) (g b)) :
    Twin R r (p >>= f) (q >>= g) := by
  induction hp with
  | done h => exact hf _ (le_refl _) _ _ h
  | emit _ ih => exact .emit (ih hf)
  | act hab _ ih =>
    refine .act hab fun r' hle x y hxy => ih r' hle x y hxy fun r'' hle' => ?_
    exact hf r'' (le_trans hle hle')

/-- A single action. -/
theorem perform {a b : Action Word} (hab : r.SendsAction a b) :
    Twin (Answers a b) r (Program.perform a) (Program.perform b) :=
  .act hab fun _ _ _ _ hxy => .done hxy

/-- Twins run in lockstep. -/
theorem lockstep {R : Renaming → α → β → Prop} {p : Program α} {q : Program β}
    (hp : Twin R r p q) {h g : Heap} (hm : h.Mirrors r g) (cs cs' : Array (Call Word))
    (es es' : Array Event) (hsize : (q.runAfter {} g cs' es').heap.size ≤ Word.capacity) :
    Heap.Lockstep R r g (p.runAfter {} h cs es).result (p.runAfter {} h cs es).heap
      (q.runAfter {} g cs' es').result (q.runAfter {} g cs' es').heap := by
  induction hp generalizing h g cs cs' es es' with
  | done hab => exact hm.lockstep (.ok hab)
  | emit _ ih => exact ih hm _ _ _ _ hsize
  | @act r a b p q hab _ ih =>
    rcases runAfter_act a p h cs es with ⟨cs₁, es₁, hrun⟩
    rcases runAfter_act b q g cs' es' with ⟨cs₂, es₂, hrun'⟩
    rw [hrun'] at hsize
    have hsize' : (g.perform b).heap.size ≤ Word.capacity := by
      refine Nat.le_trans ?_ hsize
      cases (g.perform b).result with
      | ok y => exact size_le_runAfter _ _ _ _
      | error f => exact Nat.le_refl _
    rcases hab.lockstep hm hsize' with ⟨r', hle, hm', hkeeps, hresult⟩
    rw [hrun, hrun']
    generalize (h.perform a).result = x at hresult ⊢
    generalize (g.perform b).result = y at hresult hsize ⊢
    cases hresult with
    | error hfault => exact ⟨r', hle, hm', hkeeps, .error hfault⟩
    | ok hxy =>
      rcases ih r' hle _ _ hxy hm' cs₁ cs₂ es₁ es₂ hsize with ⟨r'', hle', hm'', hkeeps', hend⟩
      exact ⟨r'', le_trans hle hle', hm'', hkeeps.trans hkeeps', hend⟩

end Twin

end Program

namespace Renaming

variable {r : Renaming}

theorem SendsAnswer.sends {x y : Word} (h : r.SendsAnswer (.word x) (.word y)) : r.Sends x y := by
  cases h
  assumption

theorem SendsAnswer.eq_of_truth {b b' : Bool} (h : r.SendsAnswer (.truth b) (.truth b')) :
    b = b' := by
  cases h
  rfl

end Renaming

/-! ## Builders -/

namespace ListBuilder

variable {r r' : Renaming} {lb lb' : ListBuilder} {v v' : Word} {vs vs' : List Word}

/-- Two builders that remember counterparts of the same words. -/
structure Twin (r : Renaming) (lb lb' : ListBuilder) : Prop where
  head : r.Sends lb.head lb'.head
  last : Option.Rel r.Sends lb.last lb'.last
  length : lb.length = lb'.length

theorem new_twin : Program.Twin Twin r ListBuilder.new ListBuilder.new := by
  refine .act (.constant .eol) fun r₁ _ e e' he => .done ?_
  exact ⟨he.sends, .none, rfl⟩

theorem push_twin (hb : Twin r lb lb') (hv : r.Sends v v') :
    Program.Twin Twin r (lb.push v) (lb'.push v') := by
  rcases lb with ⟨head, last, length⟩
  rcases lb' with ⟨head', last', length'⟩
  rcases hb with ⟨hhead, hlast, hlength⟩
  obtain rfl : length = length' := hlength
  refine .act (.constant .eol) fun r₁ h₁ e e' he => ?_
  refine .act (.binary .cons (hv.mono h₁) he.sends) fun r₂ h₂ c c' hc => ?_
  cases hlast with
  | none => exact .done ⟨hc.sends, .some hc.sends, rfl⟩
  | some hl =>
    have hl₂ := (hl.mono h₁).mono h₂
    refine .act (.binary .setCdr hl₂ hc.sends) fun r₃ h₃ _ _ _ => .done ?_
    exact ⟨((hhead.mono h₁).mono h₂).mono h₃, .some (hc.sends.mono h₃), rfl⟩

theorem extend_twin (hb : Twin r lb lb') (hvs : List.Forall₂ r.Sends vs vs') :
    Program.Twin Twin r (lb.extend vs) (lb'.extend vs') := by
  induction vs generalizing r lb lb' vs' with
  | nil =>
    cases hvs
    exact .done hb
  | cons v vs ih =>
    cases hvs with
    | cons hv hvs =>
      refine (push_twin hb hv).bind fun r₁ h₁ _ _ hb₁ => ?_
      exact ih hb₁ (forall₂_sends_mono hvs h₁)

theorem Twin.mono (hb : Twin r lb lb') (hle : r ≤ r') : Twin r' lb lb' :=
  ⟨hb.head.mono hle, rel_sends_mono hb.last hle, hb.length⟩

theorem extendUntilEnd_twin (hb : Twin r lb lb') (hvs : List.Forall₂ r.Sends vs vs') :
    Program.Twin Twin r (lb.extendUntilEnd vs) (lb'.extendUntilEnd vs') := by
  induction vs generalizing r lb lb' vs' with
  | nil =>
    cases hvs
    exact .done hb
  | cons v vs ih =>
    cases hvs with
    | cons hv hvs =>
      refine .act (.unary .isUnbound hv) fun r₁ h₁ b b' hbb => ?_
      obtain rfl := hbb.eq_of_truth
      cases b with
      | true => exact .done (hb.mono h₁)
      | false =>
        refine (push_twin (hb.mono h₁) (hv.mono h₁)).bind fun r₂ h₂ _ _ hb₂ => ?_
        exact ih hb₂ (forall₂_sends_mono hvs (le_trans h₁ h₂))

theorem finish_twin (hb : Twin r lb lb') :
    Program.Twin (fun r x y => r.Sends x y) r lb.finish lb'.finish :=
  .emit (.done hb.head)

end ListBuilder

/-! ## Lists -/

variable {r : Renaming} {vs vs' : List Word} {x x' : Word}

theorem listOfValues_twin (hvs : List.Forall₂ r.Sends vs vs') :
    Program.Twin (fun r x y => r.Sends x y) r (listOfValues vs) (listOfValues vs') := by
  refine ListBuilder.new_twin.bind fun r₁ h₁ _ _ hb => ?_
  refine (ListBuilder.extend_twin hb (forall₂_sends_mono hvs h₁)).bind fun _ _ _ _ hb₂ => ?_
  exact ListBuilder.finish_twin hb₂

theorem listOfArguments_twin (hvs : List.Forall₂ r.Sends vs vs') :
    Program.Twin (fun r x y => r.Sends x y) r (listOfArguments vs) (listOfArguments vs') := by
  refine ListBuilder.new_twin.bind fun r₁ h₁ _ _ hb => ?_
  refine (ListBuilder.extendUntilEnd_twin hb (forall₂_sends_mono hvs h₁)).bind
    fun _ _ _ _ hb₂ => ?_
  exact ListBuilder.finish_twin hb₂

/-- The end of an array is at the same place. -/
theorem endOfArguments?_twin (hvs : List.Forall₂ r.Sends vs vs') (start : Nat) :
    Program.Twin (fun _ x y => x = y) r (endOfArguments? start vs) (endOfArguments? start vs') := by
  induction vs generalizing r vs' start with
  | nil =>
    cases hvs
    exact .done rfl
  | cons v vs ih =>
    cases hvs with
    | cons hv hvs =>
      refine .act (.unary .isUnbound hv) fun r₁ h₁ b b' hbb => ?_
      obtain rfl := hbb.eq_of_truth
      cases b with
      | true => exact .done rfl
      | false => exact ih (forall₂_sends_mono hvs h₁) (start + 1)

theorem listOfTerminated?_twin (hvs : List.Forall₂ r.Sends vs vs') :
    Program.Twin (fun r x y => Option.Rel r.Sends x y) r (listOfTerminated? vs)
      (listOfTerminated? vs') := by
  refine (endOfArguments?_twin hvs 0).bind fun r₁ h₁ stop _ hstop => ?_
  subst hstop
  cases stop with
  | none => exact .done .none
  | some stop =>
    have hpre := List.forall₂_take stop (forall₂_sends_mono hvs h₁)
    exact (listOfValues_twin hpre).bind fun _ _ _ _ hlist => .done (.some hlist)

theorem ListIter.next_twin (hx : r.Sends x x') :
    Program.Twin (fun r p q => Option.Rel r.Sends p.1 q.1 ∧ r.Sends p.2.rest q.2.rest) r
      (ListIter.next ⟨x⟩) (ListIter.next ⟨x'⟩) := by
  refine .act (.unary .isPair hx) fun r₁ h₁ b b' hb => ?_
  obtain rfl := hb.eq_of_truth
  cases b with
  | false => exact .done ⟨.none, hx.mono h₁⟩
  | true =>
    refine .act (.unary .car (hx.mono h₁)) fun r₂ h₂ v v' hv => ?_
    refine .act (.unary .cdr ((hx.mono h₁).mono h₂)) fun r₃ h₃ d d' hd => .done ?_
    exact ⟨.some (hv.sends.mono h₃), hd.sends⟩

theorem ListIter.collect_twin {seen seen' : Array Word}
    (hseen : List.Forall₂ r.Sends seen.toList seen'.toList) (hx : r.Sends x x') (limit : Nat) :
    Program.Twin (fun r ws ws' => List.Forall₂ r.Sends ws.toList ws'.toList) r
      (ListIter.collect seen ⟨x⟩ limit) (ListIter.collect seen' ⟨x'⟩ limit) := by
  induction limit generalizing r seen seen' x x' with
  | zero => exact .done hseen
  | succ limit ih =>
    refine (ListIter.next_twin hx).bind ?_
    rintro r₁ h₁ ⟨v, d⟩ ⟨v', d'⟩ ⟨hv, hd⟩
    have hseen₁ := forall₂_sends_mono hseen h₁
    cases hv with
    | none => exact .done hseen₁
    | some hv =>
      refine ih ?_ hd
      rw [Array.toList_push, Array.toList_push]
      exact List.rel_append hseen₁ (.cons hv .nil)

theorem listTake_twin (hx : r.Sends x x') (limit : Nat) :
    Program.Twin (fun r ws ws' => List.Forall₂ r.Sends ws.toList ws'.toList) r
      (listTake x limit) (listTake x' limit) :=
  ListIter.collect_twin .nil hx limit

end ProxyForge
