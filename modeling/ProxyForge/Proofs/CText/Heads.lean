import ProxyForge.Proofs.CText.Lines

/-!
# ProxyForge.Proofs.CText.Heads — the functions that header and source name

A prototype is read back as the head that it was made from (`ofLine?_prototype`), and
no other line of the generated texts reads as a head. So the source defines the
functions of the table in order, and the header declares the same ones and the two
entry points behind them.
-/

namespace ProxyForge

namespace CText

/-! ## Heads on lines -/

namespace FunctionHead

variable {result symbol params close line : List Char}

/-- A head is read back from its line. -/
theorem ofLine?_eq (hresult : result.all isIdentChar) (hresult_ne : result ≠ [])
    (hsymbol : symbol.all isIdentChar) (hsymbol_ne : symbol ≠ []) (hparams : ')' ∉ params) :
    ofLine? close (result ++ ' ' :: (symbol ++ '(' :: (params ++ ')' :: close))) =
      some ⟨String.ofList result, String.ofList symbol, String.ofList params⟩ := by
  have hparams_all : params.all (· ≠ ')') := by
    rw [List.all_eq_true]
    intro c hc
    have hne : c ≠ ')' := by
      rintro rfl
      exact hparams hc
    simpa using hne
  have htake := Text.takeWhile_append_cons hparams_all (c := ')') (by decide) close
  have hdrop := Text.dropWhile_append_cons hparams_all (c := ')') (by decide) close
  unfold ofLine?
  simp only [Text.dropWhile_append_cons hresult (c := ' ') rfl,
    Text.takeWhile_append_cons hresult (c := ' ') rfl,
    Text.dropWhile_append_cons hsymbol (c := '(') rfl,
    Text.takeWhile_append_cons hsymbol (c := '(') rfl]
  rw [htake, hdrop, if_pos ⟨hresult_ne, hsymbol_ne, rfl⟩]

/-- A line that does not begin with a character of identifiers is no head. -/
theorem ofLine?_eq_none (hline : line.takeWhile isIdentChar = []) :
    ofLine? close line = none := by
  unfold ofLine?
  simp only [hline]
  split
  · split
    · simp
    · rfl
  · rfl

end FunctionHead

/-- The heads of a text are the heads of its lines. -/
theorem headsEndingWith_unlines {lines : List String} (hlines : ∀ l ∈ lines, '\n' ∉ l.toList)
    (close : String) : headsEndingWith close (Text.unlines lines) =
      lines.filterMap fun l => FunctionHead.ofLine? close.toList l.toList := by
  have hrest : FunctionHead.ofLine? close.toList [] = none := FunctionHead.ofLine?_eq_none rfl
  rw [headsEndingWith, Text.split_unlines hlines, List.filterMap_append, List.filterMap_map]
  simp [hrest]

end CText

/-! ## The heads of a table -/

namespace Primitive

variable {p : Primitive}

/-- The head of the proxy. -/
def head (p : Primitive) : CText.FunctionHead := ⟨p.ret.cType, p.symbol, p.params⟩

theorem symbol_injective {p q : Primitive} (h : p.symbol = q.symbol) : p.name = q.name := by
  rw [symbol, symbol, ← String.toList_inj, String.toList_append, String.toList_append] at h
  exact String.toList_inj.1 (List.append_cancel_left h)

namespace Expressible

theorem closing_notMem_params (hp : p.Expressible) : ')' ∉ p.params.toList := by
  unfold params
  rcases hp.args_cases with hargs | hargs | hargs <;> rw [hargs] <;> decide

/-- A prototype is read back as the head that it was made from. -/
theorem ofLine?_prototype (hp : p.Expressible) (close : String) :
    CText.FunctionHead.ofLine? close.toList (p.prototype ++ close).toList = some p.head := by
  have hret : p.ret.cType.toList ≠ [] := by cases p.ret <;> decide
  have hsymbol : p.symbol.toList ≠ [] := by simp [symbol, symbolLead]
  have hline : (p.prototype ++ close).toList = p.ret.cType.toList ++ ' ' ::
      (p.symbol.toList ++ '(' :: (p.params.toList ++ ')' :: close.toList)) := by
    simp [prototype]
  rw [hline, CText.FunctionHead.ofLine?_eq p.ret.all_isIdentChar_cType hret
    hp.all_isIdentChar_symbol hsymbol hp.closing_notMem_params]
  simp [head]

/-- Of the lines of a definition one is a head. -/
theorem filterMap_definitionLines (hp : p.Expressible) :
    (p.definitionLines.filterMap fun l => CText.FunctionHead.ofLine? " \x7b".toList l.toList) =
      [p.head] := by
  have hempty : CText.FunctionHead.ofLine? " \x7b".toList "".toList = none :=
    CText.FunctionHead.ofLine?_eq_none (by decide)
  have hbody : CText.FunctionHead.ofLine? " \x7b".toList
      ("    " ++ p.statement p.expression).toList = none := by
    apply CText.FunctionHead.ofLine?_eq_none
    rw [String.toList_append]
    rfl
  have hend : CText.FunctionHead.ofLine? " \x7b".toList "\x7d".toList = none :=
    CText.FunctionHead.ofLine?_eq_none (by decide)
  simp only [definitionLines, List.filterMap_cons, List.filterMap_nil, hempty, hbody, hend,
    hp.ofLine?_prototype]

end Expressible

end Primitive

namespace Registry

variable {r : Registry}

/-- The declaration of the entry point that builds a list from an array. -/
def listHead : CText.FunctionHead := ⟨"SCM", listSymbol, "const SCM *elts"⟩

/-- The declaration of the entry point that does nothing. -/
def diagnosticHead : CText.FunctionHead := ⟨"void", diagnosticSymbol, "void"⟩

/-- The source defines the functions of the table in order, and no others. -/
theorem Accepted.definedHeads_source (hr : r.Accepted) :
    CText.definedHeads (Text.unlines r.sourceLines) = r.map Primitive.head := by
  have hdefinitions : ((r.flatMap Primitive.definitionLines).filterMap fun l =>
      CText.FunctionHead.ofLine? " \x7b".toList l.toList) = r.map Primitive.head := by
    rw [List.filterMap_flatMap, ← List.flatMap_pure_eq_map]
    apply List.flatMap_congr
    intro p hp
    exact (hr.expressible hp).filterMap_definitionLines
  have hpreamble : ((CText.bannerLine :: CText.includeLines).filterMap fun l =>
      CText.FunctionHead.ofLine? " \x7b".toList l.toList) = [] := by decide
  rw [CText.definedHeads, CText.headsEndingWith_unlines hr.newline_notMem_sourceLines,
    sourceLines, List.filterMap_append, hpreamble, hdefinitions]
  rfl

/-- The header declares the functions of the table in order, then the two entry points,
and no others. -/
theorem Accepted.declaredHeads_header (hr : r.Accepted) (headerName : String) :
    CText.declaredHeads (r.header headerName) =
      r.map Primitive.head ++ [listHead, diagnosticHead] := by
  have hprototypes : ((r.map fun p => p.prototype ++ ";").filterMap fun l =>
      CText.FunctionHead.ofLine? ";".toList l.toList) = r.map Primitive.head := by
    rw [List.filterMap_map, ← List.filterMap_eq_map]
    apply List.filterMap_congr
    intro p hp
    exact (hr.expressible hp).ofLine?_prototype ";"
  -- whatever the guard is, the lines that it stands on begin with a sharp
  have hdirective : ∀ directive rest : String, directive.toList.head? = some '#' →
      CText.FunctionHead.ofLine? ";".toList (directive ++ rest).toList = none := by
    intro directive rest hsharp
    rcases List.head?_eq_some_iff.1 hsharp with ⟨cs, hcs⟩
    rw [String.toList_append, hcs]
    exact CText.FunctionHead.ofLine?_eq_none rfl
  have hend : CText.FunctionHead.ofLine? ";".toList
      ("#endif /* " ++ includeGuard headerName ++ " */").toList = none := by
    rw [String.append_assoc]
    exact hdirective "#endif /* " _ (by decide)
  have hbanner : CText.FunctionHead.ofLine? ";".toList CText.bannerLine.toList = none := by decide
  have hempty : CText.FunctionHead.ofLine? ";".toList "".toList = none := by decide
  have hincludes : (CText.includeLines.filterMap fun l =>
      CText.FunctionHead.ofLine? ";".toList l.toList) = [] := by decide
  have hlist : CText.FunctionHead.ofLine? ";".toList
      ("SCM " ++ listSymbol ++ "(const SCM *elts);").toList = some listHead := by decide
  have hdiagnostic : CText.FunctionHead.ofLine? ";".toList
      ("void " ++ diagnosticSymbol ++ "(void);").toList = some diagnosticHead := by decide
  rw [CText.declaredHeads, header_eq,
    CText.headsEndingWith_unlines (hr.newline_notMem_headerLines headerName), headerLines]
  simp only [List.filterMap_append, List.filterMap_cons, List.filterMap_nil, hprototypes, hbanner,
    hempty, hincludes, hlist, hdiagnostic, hend, hdirective "#ifndef " _ (by decide),
    hdirective "#define " _ (by decide)]
  rfl

/-! ## Symbols -/

theorem map_symbol_head (r : Registry) :
    (r.map Primitive.head).map CText.FunctionHead.symbol = r.map Primitive.symbol := by
  rw [List.map_map]
  rfl

/-- The proxies of a valid table have different symbols. -/
theorem Valid.symbols_nodup (hr : r.Valid) : (r.map Primitive.symbol).Nodup := by
  have hpairwise := List.pairwise_map.1 hr.names_nodup
  apply List.pairwise_map.2
  apply hpairwise.imp
  intro p q hne hsymbol
  exact hne (Primitive.symbol_injective hsymbol)

/-- A symbol is one of a proxy just when its bare name is one of the table. -/
theorem symbolLead_append_mem_iff (name : String) :
    Primitive.symbolLead ++ name ∈ r.map Primitive.symbol ↔ name ∈ r.map Primitive.name := by
  constructor
  · intro hmem
    rcases List.mem_map.1 hmem with ⟨p, hp, hsymbol⟩
    have hname : p.name = name :=
      Primitive.symbol_injective (q := { p with name }) hsymbol
    exact hname ▸ List.mem_map_of_mem hp
  · intro hmem
    rcases List.mem_map.1 hmem with ⟨p, hp, rfl⟩
    exact List.mem_map_of_mem (f := Primitive.symbol) hp

/-- A list of different symbols stays one with two more behind it just when these are
new. -/
theorem nodup_append_pair_iff {symbols : List String} (hnodup : symbols.Nodup) {s t : String}
    (hst : s ≠ t) : (symbols ++ [s, t]).Nodup ↔ s ∉ symbols ∧ t ∉ symbols := by
  have hpair : [s, t].Nodup := by simpa using hst
  rw [List.nodup_append]
  constructor
  · rintro ⟨-, -, hdisjoint⟩
    constructor
    · intro hs
      exact hdisjoint s hs s List.mem_cons_self rfl
    · intro ht
      exact hdisjoint t ht t (List.mem_cons_of_mem s List.mem_cons_self) rfl
  · rintro ⟨hs, ht⟩
    refine ⟨hnodup, hpair, ?_⟩
    rintro a ha b hb rfl
    rcases List.mem_pair.1 hb with rfl | rfl
    · exact hs ha
    · exact ht ha

/-- The header of an accepted table declares the exported symbols. Those of the table are
all different, and the source defines each of them once; but acceptance does not keep
the bare names of the two entry points out of the table. Just when they are not in it, no
symbol is declared twice and the source leaves the entry points alone. -/
theorem declared_symbols_nodup_iff (hr : r.Accepted) (headerName : String) :
    let declared := (CText.declaredHeads (r.header headerName)).map CText.FunctionHead.symbol
    let reservedFree := "scm_list_n" ∉ r.map Primitive.name ∧ "test_func" ∉ r.map Primitive.name
    ∃ text, r.source? = some text ∧
      let defined := (CText.definedHeads text).map CText.FunctionHead.symbol
      declared = r.exportedSymbols ∧ defined = r.map Primitive.symbol ∧ defined.Nodup ∧
        (declared.Nodup ↔ reservedFree) ∧
        (listSymbol ∉ defined ∧ diagnosticSymbol ∉ defined ↔ reservedFree) := by
  intro declared reservedFree
  have hdeclared : declared = r.exportedSymbols := by
    show (CText.declaredHeads (r.header headerName)).map CText.FunctionHead.symbol = _
    rw [hr.declaredHeads_header, List.map_append, map_symbol_head]
    rfl
  have hdefined : (CText.definedHeads (Text.unlines r.sourceLines)).map
      CText.FunctionHead.symbol = r.map Primitive.symbol := by
    rw [hr.definedHeads_source, map_symbol_head]
  have hreserved : listSymbol ∉ r.map Primitive.symbol ∧
      diagnosticSymbol ∉ r.map Primitive.symbol ↔ reservedFree := by
    have hlist := symbolLead_append_mem_iff (r := r) "scm_list_n"
    have hdiagnostic := symbolLead_append_mem_iff (r := r) "test_func"
    exact and_congr (not_congr hlist) (not_congr hdiagnostic)
  have hnodup := hr.valid.symbols_nodup
  refine ⟨_, source?_eq hr.valid.wellFormed, hdeclared, hdefined, ?_, ?_, ?_⟩
  · rw [hdefined]
    exact hnodup
  · rw [hdeclared, exportedSymbols, nodup_append_pair_iff hnodup (by decide)]
    exact hreserved
  · rw [hdefined]
    exact hreserved

/-- The built-in table keeps the entry points apart from its proxies. -/
theorem declared_symbols_nodup_iff_at_builtin :
    ((CText.declaredHeads (builtin.header "guile_shim.h")).map
        CText.FunctionHead.symbol).Nodup ∧
      ∃ text, builtin.source? = some text ∧
        listSymbol ∉ (CText.definedHeads text).map CText.FunctionHead.symbol ∧
        diagnosticSymbol ∉ (CText.definedHeads text).map CText.FunctionHead.symbol := by
  have haccepted : builtin.Accepted := ⟨rfl, by decide⟩
  obtain ⟨text, htext, -, -, -, hheader, hsource⟩ :=
    declared_symbols_nodup_iff haccepted "guile_shim.h"
  exact ⟨hheader.2 (by decide), text, htext, hsource.2 (by decide)⟩

/-- An accepted table of one entry whose header declares a symbol twice, and whose source
defines the entry point of lists. -/
theorem accepted_table_declares_twice :
    let r : Registry := [unaryEntry "scm_list_n" "list_n" .value]
    r.Accepted ∧
      ¬ ((CText.declaredHeads (r.header "guile_shim.h")).map CText.FunctionHead.symbol).Nodup ∧
      ∃ text, r.source? = some text ∧
        listSymbol ∈ (CText.definedHeads text).map CText.FunctionHead.symbol := by
  intro r
  have hr : r.Accepted := ⟨rfl, by decide⟩
  refine ⟨hr, ?_, _, source?_eq hr.valid.wellFormed, ?_⟩
  · rw [hr.declaredHeads_header]
    decide
  · rw [hr.definedHeads_source]
    decide

end Registry

end ProxyForge
