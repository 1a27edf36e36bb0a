import ProxyForge.Proofs.Programs
import ProxyForge.Session
import Mathlib.Data.List.Basic

/-!
# ProxyForge.Proofs.Surface — exported symbols do what the table says

A consumer knows the runtime by exported symbols (`SymbolCall`). What it gets by
calling one (`throughProxy`) is compared with what the heap's own methods do
(`byMethod`), where the method is the one that the entry of the symbol names.

* `ofSymbol?_eq_method` ties the symbols to the methods by way of the table;
* `map_ret_ofSymbol?` says how many values a symbol takes and what it answers;
* `throughProxy_eq_byMethod` is one call, `effectsOf_congr` a run of calls;
* `effectsOf_insert` puts a call that does nothing among the others.
-/

namespace ProxyForge

/-! ## Effects -/

/-- The effect with its answer read in another way. -/
def Effect.map {α β : Type} (f : α → β) (e : Effect α) : Effect β :=
  { result := e.result.map f, heap := e.heap, events := e.events }

/-- What a run leaves behind, without the calls on the way. -/
def Run.effect {α : Type} (r : Run α) : Effect α :=
  { result := r.result, heap := r.heap, events := r.events.toList }

/-- A primitive that is called by itself does what the heap's method does. -/
theorem Program.effect_call (c : Call Word) (h : Heap) :
    ((Program.call c).run h).effect = h.performCall c := by
  have hperform : ({} : Backend).perform h (.primitive c) = h.performCall c :=
    Backend.perform_default h (.primitive c)
  unfold Program.call Program.perform Program.run Program.runAfter
  rw [hperform]
  cases h.performCall c with
  | mk result heap events =>
    cases result <;> simp [Program.runAfter, Run.effect]

/-! ## The entry behind a symbol -/

namespace Registry

/-- The entry whose proxy has the given symbol. -/
def entryOfSymbol? (r : Registry) (symbol : String) : Option Primitive :=
  List.find? (fun p => p.symbol == symbol) r

/-- The symbols of the proxies of the built-in table. -/
def proxySymbols : List String := builtin.map Primitive.symbol

theorem entryOfSymbol?_symbol : ∀ p ∈ builtin, builtin.entryOfSymbol? p.symbol = some p := by
  decide

theorem entryOfSymbol?_eq_none {symbol : String} (hsymbol : symbol ∉ proxySymbols) :
    builtin.entryOfSymbol? symbol = none := by
  apply List.find?_eq_none.2
  intro p hp heq
  apply hsymbol
  rw [← beq_iff_eq.1 heq]
  exact List.mem_map_of_mem hp

/-- A reader of symbols reads the methods of their entries if it does so on the symbols
of the table and knows no others. -/
theorem eq_method_of_symbols {β : Type} {ofSymbol? ofMethod? : String → Option β}
    (hknown : ∀ symbol ∈ proxySymbols,
      ofSymbol? symbol = (builtin.entryOfSymbol? symbol).bind fun p => ofMethod? p.method)
    (hunknown : ∀ symbol ∉ proxySymbols, ofSymbol? symbol = none) (symbol : String) :
    ofSymbol? symbol = (builtin.entryOfSymbol? symbol).bind fun p => ofMethod? p.method := by
  by_cases hsymbol : symbol ∈ proxySymbols
  · exact hknown symbol hsymbol
  · rw [hunknown symbol hsymbol, entryOfSymbol?_eq_none hsymbol]
    rfl

/-- The method of an entry takes as many values as the entry says and answers the kind
that the entry says. -/
theorem map_ret_ofMethod? {p : Primitive} (hp : p ∈ builtin) (args : List Word) :
    (Call.ofMethod? p.method args).map Call.ret =
      if args.length = p.arity then some p.ret else none := by
  have hconstant : ∀ p ∈ builtin, (Constant.ofMethod? p.method).map (fun _ => Kind.value) =
      if 0 = p.arity then some p.ret else none := by decide
  have hunary : ∀ p ∈ builtin, (Unary.ofMethod? p.method).map Unary.ret =
      if 1 = p.arity then some p.ret else none := by decide
  have hbinary : ∀ p ∈ builtin, (Binary.ofMethod? p.method).map Binary.ret =
      if 2 = p.arity then some p.ret else none := by decide
  have hwide : ∀ p ∈ builtin, p.arity ≤ 2 := by decide
  match args with
  | [] =>
    rw [List.length_nil, ← hconstant p hp]
    exact Option.map_map ..
  | [x] =>
    rw [List.length_singleton, ← hunary p hp]
    exact Option.map_map ..
  | [x, y] =>
    rw [show [x, y].length = 2 from rfl, ← hbinary p hp]
    exact Option.map_map ..
  | x :: y :: z :: rest =>
    have := hwide p hp
    rw [if_neg (by simp only [List.length_cons]; omega)]
    rfl

end Registry

/-! ## Symbols and methods -/

namespace Proxy

theorem constant?_eq_method (symbol : String) : constant? symbol =
    (Registry.builtin.entryOfSymbol? symbol).bind fun p => Constant.ofMethod? p.method := by
  apply Registry.eq_method_of_symbols
  · decide
  · intro symbol hsymbol
    unfold constant?
    split
    case h_7 => rfl
    all_goals exact absurd (by decide) hsymbol

theorem unary?_eq_method (symbol : String) : unary? symbol =
    (Registry.builtin.entryOfSymbol? symbol).bind fun p => Unary.ofMethod? p.method := by
  apply Registry.eq_method_of_symbols
  · decide
  · intro symbol hsymbol
    unfold unary?
    split
    case h_12 => rfl
    all_goals exact absurd (by decide) hsymbol

theorem binary?_eq_method (symbol : String) : binary? symbol =
    (Registry.builtin.entryOfSymbol? symbol).bind fun p => Binary.ofMethod? p.method := by
  apply Registry.eq_method_of_symbols
  · decide
  · intro symbol hsymbol
    unfold binary?
    split
    case h_5 => rfl
    all_goals exact absurd (by decide) hsymbol

/-- The kind of the answer. -/
def ret {α : Type} : Proxy α → Kind
  | primitive c => c.ret
  | list _ => .value
  | diagnostic => .unit

theorem answer_eq_carrier_ret {α : Type} (q : Proxy α) : q.Answer = q.ret.Carrier := by
  cases q <;> rfl

/-- A symbol other than the diagnostic one asks for the method that its entry names. -/
theorem ofSymbol?_eq_method {symbol : String} (hsymbol : symbol ≠ Registry.diagnosticSymbol)
    (args : List Word) : ofSymbol? symbol args =
      (Registry.builtin.entryOfSymbol? symbol).bind fun p =>
        (Call.ofMethod? p.method args).map primitive := by
  match args with
  | [] =>
    rw [ofSymbol?, if_neg hsymbol, constant?_eq_method, Option.map_bind]
    simp [Call.ofMethod?, Function.comp_def]
  | [x] =>
    rw [ofSymbol?, unary?_eq_method, Option.map_bind]
    simp [Call.ofMethod?, Function.comp_def]
  | [x, y] =>
    rw [ofSymbol?, binary?_eq_method, Option.map_bind]
    simp [Call.ofMethod?, Function.comp_def]
  | x :: y :: z :: rest =>
    cases hentry : Registry.builtin.entryOfSymbol? symbol <;> rfl

/-- The diagnostic symbol takes no values, and with none it asks for nothing. -/
theorem ofSymbol?_diagnosticSymbol (args : List Word) :
    ofSymbol? Registry.diagnosticSymbol args =
      if args = [] then some diagnostic else none := by
  match args with
  | [] => rfl
  | [x] => rfl
  | [x, y] => rfl
  | x :: y :: z :: rest => rfl

/-- The symbol of an entry takes as many values as the entry says and answers the kind
that the entry says. -/
theorem map_ret_ofSymbol? {p : Primitive} (hp : p ∈ Registry.builtin) (args : List Word) :
    (ofSymbol? p.symbol args).map ret =
      if args.length = p.arity then some p.ret else none := by
  have hsymbol : ∀ p ∈ Registry.builtin, p.symbol ≠ Registry.diagnosticSymbol := by decide
  rw [ofSymbol?_eq_method (hsymbol p hp), Registry.entryOfSymbol?_symbol p hp,
    ← Registry.map_ret_ofMethod? hp args]
  exact Option.map_map ..

end Proxy

/-! ## Calls of exported symbols -/

/-- A call of an exported symbol: with values, or with the array of the given elements
and the undefined object behind them. -/
inductive SymbolCall where
  | values (symbol : String) (args : List Word)
  | array (symbol : String) (elements : List Word)
deriving DecidableEq, Repr

namespace SymbolCall

/-- The symbol that is called. -/
def symbol : SymbolCall → String
  | values symbol _ => symbol
  | array symbol _ => symbol

/-- The call of the entry point that does nothing. -/
def diagnostic : SymbolCall := values Registry.diagnosticSymbol []

/-- What the call asks for; `none` when nothing with that symbol takes those arguments. -/
def proxy? : SymbolCall → Option (Proxy Word)
  | values symbol args => Proxy.ofSymbol? symbol args
  | array symbol elements => Proxy.ofArraySymbol? symbol (elements ++ [.undefined])

/-- What the exported symbol does. -/
def throughProxy (h : Heap) (c : SymbolCall) : Option (Effect Answer) :=
  c.proxy?.map fun q => ((q.program.run h).effect).map (Answer.ofProxy q)

/-- What the heap's method does that the entry of the symbol names; for the entry point
of lists, what the construction of a list from an array does. -/
def byMethod (h : Heap) : SymbolCall → Option (Effect Answer)
  | values symbol args => do
    let p ← Registry.builtin.entryOfSymbol? symbol
    let c ← Call.ofMethod? p.method args
    return (h.performCall c).map (Answer.ofCarrier c.ret)
  | array symbol elements =>
    if symbol = Registry.listSymbol then
      some (((listOfArguments (elements ++ [.undefined])).run h).effect.map .word)
    else none

theorem throughProxy_diagnostic (h : Heap) :
    diagnostic.throughProxy h = some (h.answer .nothing) := rfl

/-- One call: the symbol does to the heap what the method does, and answers the same. -/
theorem throughProxy_eq_byMethod {c : SymbolCall} (hc : c.symbol ≠ Registry.diagnosticSymbol)
    (h : Heap) : c.throughProxy h = c.byMethod h := by
  cases c with
  | values symbol args =>
    have hsymbol : symbol ≠ Registry.diagnosticSymbol := hc
    rw [throughProxy, proxy?, Proxy.ofSymbol?_eq_method hsymbol, byMethod]
    cases Registry.builtin.entryOfSymbol? symbol with
    | none => rfl
    | some p =>
      cases hcall : Call.ofMethod? p.method args with
      | none => simp [hcall]
      | some call =>
        have heffect : (((Proxy.primitive call).program.run h).effect) = h.performCall call :=
          Program.effect_call call h
        simp only [Option.bind_eq_bind, Option.bind_some, hcall, Option.map_some, heffect]
        rfl
  | array symbol elements =>
    rw [throughProxy, proxy?, Proxy.ofArraySymbol?, byMethod]
    split <;> rfl

/-- Some call of a symbol asks for more than nothing just when the symbol is exported and
not the diagnostic one. -/
theorem exists_proxy?_iff (symbol : String) :
    (∃ c : SymbolCall, c.symbol = symbol ∧ ∃ q, c.proxy? = some q ∧ q ≠ .diagnostic) ↔
      symbol ∈ Registry.builtin.exportedSymbols ∧ symbol ≠ Registry.diagnosticSymbol := by
  have hproxies : ∀ symbol ∈ Registry.proxySymbols, symbol ≠ Registry.diagnosticSymbol := by
    decide
  constructor
  · rintro ⟨c, rfl, q, hq, hne⟩
    cases c with
    | values symbol args =>
      by_cases hsymbol : symbol = Registry.diagnosticSymbol
      · have hask : Proxy.ofSymbol? symbol args = some q := hq
        rw [hsymbol, Proxy.ofSymbol?_diagnosticSymbol] at hask
        split at hask
        · exact absurd (Option.some.inj hask).symm hne
        · cases hask
      · have hmem : symbol ∈ Registry.proxySymbols := by
          by_contra hmem
          have hask : Proxy.ofSymbol? symbol args = some q := hq
          rw [Proxy.ofSymbol?_eq_method hsymbol, Registry.entryOfSymbol?_eq_none hmem] at hask
          cases hask
        exact ⟨List.mem_append_left _ hmem, hsymbol⟩
    | array symbol elements =>
      have hsymbol : symbol = Registry.listSymbol := by
        by_contra hsymbol
        have hask : Proxy.ofArraySymbol? symbol (elements ++ [.undefined]) = some q := hq
        rw [Proxy.ofArraySymbol?, if_neg hsymbol] at hask
        cases hask
      show symbol ∈ _ ∧ symbol ≠ _
      rw [hsymbol]
      decide
  · rintro ⟨hmem, hne⟩
    rcases List.mem_append.1 hmem with hproxy | hentry
    · rcases List.mem_map.1 hproxy with ⟨p, hp, rfl⟩
      refine ⟨.values p.symbol (List.replicate p.arity .eol), rfl, ?_⟩
      have hret := Proxy.map_ret_ofSymbol? hp (List.replicate p.arity .eol)
      rw [if_pos List.length_replicate] at hret
      rcases Option.map_eq_some_iff.1 hret with ⟨q, hq, -⟩
      refine ⟨q, hq, ?_⟩
      rintro rfl
      rw [Proxy.ofSymbol?_eq_method hne, Registry.entryOfSymbol?_symbol p hp] at hq
      rcases Option.map_eq_some_iff.1 hq with ⟨call, -, hcall⟩
      cases hcall
    · have hlist : symbol = Registry.listSymbol := by
        rcases List.mem_cons.1 hentry with hlist | hrest
        · exact hlist
        · exact absurd (List.mem_singleton.1 hrest) hne
      exact ⟨.array symbol [], rfl, _, if_pos hlist, by simp⟩

/-! ## Runs of calls -/

/-- The effects of calls made in order, each on the heap that the one before it left;
`none` when one of them is no call of an exported symbol. A fault leaves a heap too, so
the calls behind it have their effects as well. -/
def effectsOf (perform : Heap → SymbolCall → Option (Effect Answer)) (h : Heap) :
    List SymbolCall → Option (List (Effect Answer))
  | [] => some []
  | c :: cs => do
    let effect ← perform h c
    return effect :: (← effectsOf perform effect.heap cs)

/-- The heap behind the given effects. -/
def heapAfter (h : Heap) : List (Effect Answer) → Heap
  | [] => h
  | effect :: effects => heapAfter effect.heap effects

variable {f g : Heap → SymbolCall → Option (Effect Answer)}

/-- Calls that agree one by one on every heap agree as a run. -/
theorem effectsOf_congr {cs : List SymbolCall} (hcs : ∀ c ∈ cs, ∀ h, f h c = g h c)
    (h : Heap) : effectsOf f h cs = effectsOf g h cs := by
  induction cs generalizing h with
  | nil => rfl
  | cons c cs ih =>
    have hrest : ∀ h, effectsOf f h cs = effectsOf g h cs :=
      ih fun d hd => hcs d (List.mem_cons_of_mem c hd)
    simp only [effectsOf, hcs c List.mem_cons_self, hrest]

/-- A call that answers without a change can be put among others: the other effects
stay, and its own is an answer on the heap between them. -/
theorem effectsOf_insert {c : SymbolCall} {a : Answer} (hc : ∀ h, f h c = some (h.answer a))
    (h : Heap) (before after : List SymbolCall) :
    effectsOf f h (before ++ c :: after) =
      (effectsOf f h (before ++ after)).map fun effects =>
        effects.take before.length ++
          (heapAfter h (effects.take before.length)).answer a ::
            effects.drop before.length := by
  induction before generalizing h with
  | nil =>
    simp only [List.nil_append, effectsOf, hc, List.length_nil, List.take_zero, List.drop_zero]
    -- the inserted call answers on `h` and leaves it to the calls behind it
    show (effectsOf f h after).bind _ = _
    cases effectsOf f h after <;> rfl
  | cons d before ih =>
    simp only [List.cons_append, effectsOf]
    cases f h d with
    | none => rfl
    | some effect =>
      have hrest := ih effect.heap
      cases heffects : effectsOf f effect.heap (before ++ after) with
      | none => simp [hrest, heffects]
      | some effects => simp [hrest, heffects, heapAfter]

/-- Whatever the heap is, calls of exported symbols do in order what the methods of their
entries do, faults included: the same answers, heaps and events. Exported are the symbols
of the table and the two entry points; a symbol of the table takes as many values as its
entry says and answers the kind that its entry says. The diagnostic call changes nothing
wherever it stands. -/
theorem exported_symbols_forward :
    (∀ (h : Heap) (cs : List SymbolCall), (∀ c ∈ cs, c.symbol ≠ Registry.diagnosticSymbol) →
      effectsOf throughProxy h cs = effectsOf byMethod h cs) ∧
    (∀ symbol, (∃ c : SymbolCall, c.symbol = symbol ∧ ∃ q, c.proxy? = some q ∧ q ≠ .diagnostic) ↔
      symbol ∈ Registry.builtin.exportedSymbols ∧ symbol ≠ Registry.diagnosticSymbol) ∧
    (∀ p ∈ Registry.builtin, ∀ args : List Word,
      (Proxy.ofSymbol? p.symbol args).map Proxy.ret =
        if args.length = p.arity then some p.ret else none) ∧
    (∀ (h : Heap) (before after : List SymbolCall),
      effectsOf throughProxy h (before ++ diagnostic :: after) =
        (effectsOf throughProxy h (before ++ after)).map fun effects =>
          effects.take before.length ++
            (heapAfter h (effects.take before.length)).answer .nothing ::
              effects.drop before.length) := by
  refine ⟨?_, exists_proxy?_iff, ?_, ?_⟩
  · intro h cs hcs
    apply effectsOf_congr
    intro c hc
    exact throughProxy_eq_byMethod (hcs c hc)
  · intro p hp args
    exact Proxy.map_ret_ofSymbol? hp args
  · exact effectsOf_insert throughProxy_diagnostic

/-- A run with a fault in it, and with an undefined object among the elements of a list. -/
theorem exported_symbols_forward_over_fault :
    let cs : List SymbolCall :=
      [.values "gu_scm_cons" [.boolT, .eol], .values "gu_scm_car" [.boolF],
        .values "gu_SCM_SETCDR" [.handle 0, .boolF],
        .array "gu_scm_list_n" [.boolT, .undefined, .boolF], .values "gu_scm_cdr" [.handle 0]]
    effectsOf throughProxy .empty cs = effectsOf byMethod .empty cs ∧
      (effectsOf throughProxy .empty cs).map (·.map Effect.result) =
        some [.ok (.word (.handle 0)), .error (.nonPair .car .boolF), .ok .nothing,
          .ok (.word (.handle 1)), .ok (.word .boolF)] ∧
      (Proxy.ofSymbol? "gu_SCM_SETCDR" [Word.boolT, .eol]).map Proxy.ret = some .unit := by
  obtain ⟨hrun, -, hret, -⟩ := exported_symbols_forward
  intro cs
  refine ⟨hrun .empty cs (by decide), ?_, ?_⟩
  · rfl
  · exact hret (Registry.binaryEntry "SCM_SETCDR" "set_cdr" .unit) (by decide) [.boolT, .eol]

end SymbolCall

end ProxyForge
