import ProxyForge.Proofs.CText.Heads
import Mathlib.Data.List.Forall2

/-!
# ProxyForge.Proofs.CText.Signatures — header, source and binding signatures agree

The C head and the binding signature of an entry are written apart, in two
languages. Both are read back here from their texts, so that they can be compared:
they name the same symbol, and at each position types that stand for one kind
(`Expressible.declaredBy_head`). From this and the heads of the two texts comes
`header_agrees_with_source`. The file name of the header only gives the text of
three lines, and none of their line feeds.
-/

namespace ProxyForge

namespace CText

/-! ## Parameters -/

/-- The items of a list with commas between them, without the blanks before each. -/
def items (s : List Char) : List (List Char) :=
  if s = [] then [] else (Text.split ',' s).map fun item => item.dropWhile (· == ' ')

/-- One parameter of a function. -/
structure Param where
  type : String
  name : String
deriving DecidableEq, Repr

/-- The type is the first word of an item, and the name is what follows the blank. -/
def Param.ofItem (item : List Char) : Param :=
  ⟨String.ofList (item.takeWhile isIdentChar),
    String.ofList ((item.dropWhile isIdentChar).drop 1)⟩

/-- The parameters of a list; `void` stands for none. -/
def readParams (params : String) : List Param :=
  if params = "void" then [] else (items params.toList).map Param.ofItem

end CText

/-! ## Binding signatures -/

/-- A signature in the binding language: its symbol, the types of the arguments and
the type of the result. -/
structure BindingSignature where
  symbol : String
  args : List String
  ret : String
deriving DecidableEq, Repr

namespace BindingSignature

/-- Reads `fn symbol(args) -> ret`. -/
def ofText? (text : List Char) : Option BindingSignature := do
  let rest ← "fn ".toList.isPrefixOf? text
  let afterSymbol ← ['('].isPrefixOf? (rest.dropWhile CText.isIdentChar)
  let ret ← ") -> ".toList.isPrefixOf? (afterSymbol.dropWhile (· ≠ ')'))
  return ⟨String.ofList (rest.takeWhile CText.isIdentChar),
    (CText.items (afterSymbol.takeWhile (· ≠ ')'))).map String.ofList, String.ofList ret⟩

/-- A signature is read back from its text. -/
theorem ofText?_eq {symbol args : List Char} (hsymbol : symbol.all CText.isIdentChar)
    (hargs : args.all (· ≠ ')')) (ret : List Char) :
    ofText? ("fn ".toList ++ (symbol ++ '(' :: (args ++ ')' :: (" -> ".toList ++ ret)))) =
      some ⟨String.ofList symbol, (CText.items args).map String.ofList, String.ofList ret⟩ := by
  have hparen := Text.isPrefixOf?_append ['('] (args ++ ')' :: (" -> ".toList ++ ret))
  have harrow : ") -> ".toList.isPrefixOf? (')' :: (" -> ".toList ++ ret)) = some ret :=
    Text.isPrefixOf?_append ") -> ".toList ret
  have hdrop := Text.dropWhile_append_cons hargs (c := ')') (by decide) (" -> ".toList ++ ret)
  have htake := Text.takeWhile_append_cons hargs (c := ')') (by decide) (" -> ".toList ++ ret)
  rw [List.singleton_append] at hparen
  unfold ofText?
  simp only [Text.isPrefixOf?_append, Option.bind_eq_bind, Option.bind_some,
    Text.dropWhile_append_cons hsymbol (c := '(') rfl,
    Text.takeWhile_append_cons hsymbol (c := '(') rfl, hparen]
  rw [hdrop, htake, harrow]
  rfl

end BindingSignature

/-- A C type and a type of the binding language that stand for the same kind. -/
def Kind.Renders (cType signatureType : String) : Prop :=
  ∃ k : Kind, k.cType = cType ∧ k.signatureType = signatureType

namespace Primitive

variable {p : Primitive}

/-- A head says of a function what an entry says of the primitive. -/
structure DeclaredBy (p : Primitive) (head : CText.FunctionHead) : Prop where
  symbol_eq : head.symbol = p.symbol
  params_type : (CText.readParams head.params).map CText.Param.type = List.replicate p.arity "SCM"
  params_void : head.params = "void" ↔ p.arity = 0
  signature : ∃ s, BindingSignature.ofText? p.signature.toList = some s ∧
    s.symbol = head.symbol ∧
    List.Forall₂ Kind.Renders ((CText.readParams head.params).map CText.Param.type) s.args ∧
    Kind.Renders head.result s.ret

namespace Expressible

/-- The parameters of a proxy have the types of the arguments, position by position. -/
theorem types_params (hp : p.Expressible) :
    (CText.readParams p.params).map CText.Param.type = p.args.map Kind.cType := by
  unfold params
  rcases hp.args_cases with hargs | hargs | hargs <;> rw [hargs] <;> decide

/-- The parameters of a proxy have the first of the parameter names, in order. -/
theorem names_params (hp : p.Expressible) :
    (CText.readParams p.params).map CText.Param.name = CText.paramNames.take p.arity := by
  unfold params arity
  rcases hp.args_cases with hargs | hargs | hargs <;> rw [hargs] <;> decide

theorem params_eq_void_iff (hp : p.Expressible) : p.params = "void" ↔ p.arity = 0 := by
  unfold params arity
  rcases hp.args_cases with hargs | hargs | hargs <;> rw [hargs] <;> decide

/-- The signature of a proxy is read back from its text. -/
theorem ofText?_signature (hp : p.Expressible) :
    BindingSignature.ofText? p.signature.toList =
      some ⟨p.symbol, p.args.map Kind.signatureType, p.ret.signatureType⟩ := by
  have hargs : (", ".intercalate (p.args.map Kind.signatureType)).toList.all (· ≠ ')') ∧
      (CText.items (", ".intercalate (p.args.map Kind.signatureType)).toList).map String.ofList =
        p.args.map Kind.signatureType := by
    rcases hp.args_cases with hargs | hargs | hargs <;> rw [hargs] <;> decide
  have htext : p.signature.toList = "fn ".toList ++ (p.symbol.toList ++ '(' ::
      ((", ".intercalate (p.args.map Kind.signatureType)).toList ++
        ')' :: (" -> ".toList ++ p.ret.signatureType.toList))) := by
    simp [signature]
  rw [htext, BindingSignature.ofText?_eq hp.all_isIdentChar_symbol hargs.1, hargs.2,
    String.ofList_toList, String.ofList_toList]

/-- The head of a proxy says what its entry says. -/
theorem declaredBy_head (hp : p.Expressible) : p.DeclaredBy p.head := by
  -- every argument is a value
  have hvalues : p.args.map Kind.cType = List.replicate p.arity "SCM" := by
    rw [List.eq_replicate_iff, List.length_map]
    refine ⟨rfl, ?_⟩
    intro cType hmem
    rcases List.mem_map.1 hmem with ⟨k, hk, rfl⟩
    rw [hp.args_value k hk]
    rfl
  refine ⟨rfl, ?_, hp.params_eq_void_iff, _, hp.ofText?_signature, rfl, ?_, p.ret, rfl, rfl⟩
  · exact hp.types_params.trans hvalues
  · rw [head, hp.types_params, List.forall₂_map_left_iff, List.forall₂_map_right_iff,
      List.forall₂_same]
    intro k _
    exact ⟨k, rfl, rfl⟩

end Expressible

end Primitive

namespace Registry

variable {r : Registry}

/-- However the header file is called, its guard changes the text of lines only. -/
theorem length_headerLines (r : Registry) (guardName : String) :
    (r.headerLines guardName).length = r.length + 12 := by
  simp [headerLines, CText.includeLines]

/-- Header and source of an accepted table agree. Read line by line, the header declares
the functions that the source defines, in order, and behind them the two entry points.
The heads say what the entries say, and what the binding signatures say. The lines of
the header are the same in number for every file name. -/
theorem header_agrees_with_source (hr : r.Accepted) (headerName : String) :
    ∃ text, r.source? = some text ∧
      CText.declaredHeads (r.header headerName) =
        CText.definedHeads text ++ [listHead, diagnosticHead] ∧
      List.Forall₂ Primitive.DeclaredBy r (CText.definedHeads text) ∧
      Text.splitString '\n' (r.header headerName) =
        r.headerLines (includeGuard headerName) ++ [""] ∧
      ∀ other, (Text.splitString '\n' (r.header other)).length =
        (Text.splitString '\n' (r.header headerName)).length := by
  have hlines : ∀ name, Text.splitString '\n' (r.header name) =
      r.headerLines (includeGuard name) ++ [""] := by
    intro name
    rw [header_eq, Text.splitString_unlines (hr.newline_notMem_headerLines name)]
  refine ⟨_, source?_eq hr.valid.wellFormed, ?_, ?_, hlines headerName, ?_⟩
  · rw [hr.declaredHeads_header, hr.definedHeads_source]
  · rw [hr.definedHeads_source, List.forall₂_map_right_iff, List.forall₂_same]
    intro p hp
    exact (hr.expressible hp).declaredBy_head
  · intro other
    rw [hlines, hlines, List.length_append, List.length_append, length_headerLines,
      length_headerLines]

/-- A file name that would close the guard and declare a function of its own, were it
written as it stands. -/
theorem header_agrees_with_source_under_hostile_name :
    let r : Registry := [constantEntry "EOL" "eol", binaryEntry "SCM_SETCDR" "set_cdr" .unit]
    let hostile := r.header "a.h\n#endif\nint gu_car(SCM x);\r\n"
    CText.declaredHeads hostile =
        [⟨"SCM", "gu_EOL", "void"⟩, ⟨"void", "gu_SCM_SETCDR", "SCM x, SCM y"⟩, listHead,
          diagnosticHead] ∧
      (Text.splitString '\n' hostile).length =
        (Text.splitString '\n' (r.header "a.h")).length := by
  intro r hostile
  have hr : r.Accepted := ⟨rfl, by decide⟩
  obtain ⟨-, -, -, -, -, hlength⟩ := header_agrees_with_source hr "a.h"
  obtain ⟨text, htext, hheads, -⟩ :=
    header_agrees_with_source hr "a.h\n#endif\nint gu_car(SCM x);\r\n"
  have hsource : text = Text.unlines r.sourceLines := by
    rw [source?_eq hr.valid.wellFormed] at htext
    exact (Option.some_inj.1 htext).symm
  refine ⟨?_, hlength _⟩
  rw [hheads, hsource, hr.definedHeads_source]
  rfl

end Registry

end ProxyForge
