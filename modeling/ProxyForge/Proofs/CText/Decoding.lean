import ProxyForge.Proofs.CText.Signatures
import ProxyForge.Proofs.Text.Occurrences
import Mathlib.Data.List.Nodup

/-!
# ProxyForge.Proofs.CText.Decoding — a table is read back from its source

`CText.readSource` reads a source as functions, each with its head and its body, and
`CText.decode` keeps what these say of the table: the names, the numbers of arguments
and the kinds of the results. Both look at the text alone. Of an accepted table they
give back all the entries, in order (`Accepted.readSource_source`), so that no two such
tables that differ there share a source (`source_decodes`).
-/

namespace ProxyForge

namespace CText

/-! ## Functions -/

/-- What the body of a proxy says: whether it returns, which name it uses, and what it
calls it with. A name that is not called has no arguments, not even an empty list. -/
structure FunctionBody where
  returns : Bool
  callee : String
  args : Option (List String)
deriving DecidableEq, Repr

namespace FunctionBody

/-- Reads `name;` or `name(args);`. -/
def ofExpression? (returns : Bool) (text : List Char) : Option FunctionBody :=
  let callee := String.ofList (text.takeWhile isIdentChar)
  match text.dropWhile isIdentChar with
  | [';'] => some ⟨returns, callee, none⟩
  | '(' :: rest =>
    if rest.dropWhile (· ≠ ')') = [')', ';'] then
      some ⟨returns, callee, some ((items (rest.takeWhile (· ≠ ')'))).map String.ofList)⟩
    else none
  | _ => none

/-- Reads the line of a body. -/
def ofLine? (line : List Char) : Option FunctionBody := do
  let statement ← "    ".toList.isPrefixOf? line
  match "return ".toList.isPrefixOf? statement with
  | some expression => ofExpression? true expression
  | none => ofExpression? false statement

variable {name args expression : List Char} {returns : Bool}

theorem ofExpression?_name (hname : name.all isIdentChar) :
    ofExpression? returns (name ++ [';']) = some ⟨returns, String.ofList name, none⟩ := by
  unfold ofExpression?
  simp only [Text.dropWhile_append_cons hname (c := ';') rfl,
    Text.takeWhile_append_cons hname (c := ';') rfl]

theorem ofExpression?_call (hname : name.all isIdentChar) (hargs : args.all (· ≠ ')')) :
    ofExpression? returns (name ++ '(' :: (args ++ [')', ';'])) =
      some ⟨returns, String.ofList name, some ((items args).map String.ofList)⟩ := by
  have hdrop := Text.dropWhile_append_cons hargs (c := ')') (by decide) [';']
  have htake := Text.takeWhile_append_cons hargs (c := ')') (by decide) [';']
  unfold ofExpression?
  simp only [Text.dropWhile_append_cons hname (c := '(') rfl,
    Text.takeWhile_append_cons hname (c := '(') rfl]
  rw [hdrop, htake, if_pos rfl]

/-- No expression begins with the keyword and a blank, not even one that uses a name
which begins with the letters of the keyword. -/
theorem isPrefixOf?_return_eq_none (h : (ofExpression? returns expression).isSome) :
    "return ".toList.isPrefixOf? expression = none := by
  rw [Option.eq_none_iff_forall_ne_some]
  intro rest hrest
  rw [List.isPrefixOf?_eq_some_iff_append_eq] at hrest
  have hdrop := Text.dropWhile_append_cons (f := isIdentChar) (s := "return".toList) (c := ' ')
    (by decide) rfl rest
  have hkeyword : ("return ".toList ++ rest).dropWhile isIdentChar = ' ' :: rest := hdrop
  rw [hrest] at hkeyword
  -- behind the name of an expression stands no blank
  unfold ofExpression? at h
  simp only [hkeyword] at h
  cases h

theorem ofLine?_return : ofLine? ("    ".toList ++ ("return ".toList ++ expression)) =
    ofExpression? true expression := by
  unfold ofLine?
  simp only [Text.isPrefixOf?_append, Option.bind_eq_bind, Option.bind_some]

theorem ofLine?_expression (h : (ofExpression? false expression).isSome) :
    ofLine? ("    ".toList ++ expression) = ofExpression? false expression := by
  unfold ofLine?
  simp only [Text.isPrefixOf?_append, Option.bind_eq_bind, Option.bind_some,
    isPrefixOf?_return_eq_none h]

end FunctionBody

/-- A function of a C text. -/
structure FunctionText where
  head : FunctionHead
  body : FunctionBody
deriving DecidableEq, Repr

/-- Reads functions to the end of the text. Each has four lines: an empty one, its head,
its body and a closing brace. -/
def readFunctions : List (List Char) → Option (List FunctionText)
  | [[]] => some []
  | [] :: head :: body :: ['\x7d'] :: rest => do
    let head ← FunctionHead.ofLine? " \x7b".toList head
    let body ← FunctionBody.ofLine? body
    let functions ← readFunctions rest
    return ⟨head, body⟩ :: functions
  | _ => none

/-- Reads the functions of a source, behind the banner and the included headers. -/
def readSource (text : String) : Option (List FunctionText) := do
  let rest ← ((bannerLine :: includeLines).map String.toList).isPrefixOf?
    (Text.split '\n' text.toList)
  readFunctions rest

end CText

/-! ## Shapes -/

/-- The kind of a C type. -/
def Kind.ofCType? : String → Option Kind
  | "SCM" => some value
  | "bool" => some truth
  | "scm_t_bits" => some bits
  | "void" => some unit
  | _ => none

theorem Kind.ofCType?_cType (k : Kind) : Kind.ofCType? k.cType = some k := by
  cases k <;> rfl

/-- What the text of a proxy says of its entry. -/
structure Shape where
  name : String
  arity : Nat
  ret : Kind
deriving DecidableEq, Repr

/-- The shape of an entry. -/
def Primitive.shape (p : Primitive) : Shape := ⟨p.name, p.arity, p.ret⟩

namespace CText

/-- The shape that a function shows. -/
def FunctionText.shape? (function : FunctionText) : Option Shape := do
  let name ← Primitive.symbolLead.toList.isPrefixOf? function.head.symbol.toList
  let ret ← Kind.ofCType? function.head.result
  return ⟨String.ofList name, (readParams function.head.params).length, ret⟩

/-- The shapes of the table that a source was made from. -/
def decode (text : String) : Option (List Shape) := do
  (← readSource text).mapM FunctionText.shape?

end CText

/-! ## Entries -/

namespace Primitive

variable {p q : Primitive}

/-- The function of an entry. -/
def functionText (p : Primitive) : CText.FunctionText :=
  { head := p.head,
    body := ⟨p.ret != .unit, p.name,
      if p.isConstant then none else some (CText.paramNames.take p.arity)⟩ }

/-- A function has the head of the entry, uses the name of the entry alone, calls it with
its own parameters in order unless there are none, and returns what it gets unless that
is nothing. -/
structure ImplementedBy (p : Primitive) (function : CText.FunctionText) : Prop where
  head_eq : function.head = p.head
  callee_eq : function.body.callee = p.name
  args_eq : function.body.args =
    if p.args = [] then none
    else some ((CText.readParams function.head.params).map CText.Param.name)
  returns_iff : function.body.returns = true ↔ p.ret ≠ .unit

namespace Expressible

theorem implementedBy_functionText (hp : p.Expressible) : p.ImplementedBy p.functionText := by
  refine ⟨rfl, rfl, ?_, ?_⟩
  · show (if p.isConstant then none else some (CText.paramNames.take p.arity)) =
      if p.args = [] then none else some ((CText.readParams p.params).map CText.Param.name)
    rw [hp.names_params, isConstant]
    exact if_congr List.isEmpty_iff rfl rfl
  · exact bne_iff_ne

/-- The function of an entry shows its shape. -/
theorem shape?_functionText (hp : p.Expressible) : p.functionText.shape? = some p.shape := by
  have hname : symbolLead.toList.isPrefixOf? p.symbol.toList = some p.name.toList := by
    rw [symbol, String.toList_append, Text.isPrefixOf?_append]
  have harity : (CText.readParams p.params).length = p.arity := by
    rw [← List.length_map (f := CText.Param.type), hp.types_params, List.length_map, arity]
  unfold CText.FunctionText.shape?
  simp only [functionText, head, hname, Kind.ofCType?_cType, harity, Option.bind_eq_bind,
    Option.bind_some, String.ofList_toList]
  rfl

/-- The expression of an entry is read back, whether it calls the name or not. -/
theorem ofExpression?_expression (hp : p.Expressible) (returns : Bool) :
    CText.FunctionBody.ofExpression? returns (p.expression ++ ";").toList =
      some ⟨returns, p.name,
        if p.isConstant then none else some (CText.paramNames.take p.arity)⟩ := by
  have hname := hp.all_isIdentChar_name
  have hargs : (", ".intercalate (CText.paramNames.take p.arity)).toList.all (· ≠ ')') ∧
      (CText.items (", ".intercalate (CText.paramNames.take p.arity)).toList).map String.ofList =
        CText.paramNames.take p.arity := by
    have harity : p.arity ≤ 2 := hp.arity_le
    interval_cases p.arity <;> decide
  unfold expression
  split
  case isTrue hconstant =>
    rw [String.toList_append]
    exact (CText.FunctionBody.ofExpression?_name hname).trans (by rw [String.ofList_toList])
  case isFalse hcall =>
    have htext : (p.name ++ "(" ++ ", ".intercalate (CText.paramNames.take p.arity) ++ ")" ++
        ";").toList = p.name.toList ++ '(' ::
          ((", ".intercalate (CText.paramNames.take p.arity)).toList ++ [')', ';']) := by
      simp
    rw [htext, CText.FunctionBody.ofExpression?_call hname hargs.1, hargs.2,
      String.ofList_toList]

/-- The body of a proxy is read back from its line. -/
theorem ofLine?_body (hp : p.Expressible) :
    CText.FunctionBody.ofLine? ("    " ++ p.statement p.expression).toList =
      some p.functionText.body := by
  unfold statement
  split
  case isTrue hunit =>
    -- the statement is the expression, which the reader must not take for a return
    have hread := hp.ofExpression?_expression false
    rw [String.toList_append, CText.FunctionBody.ofLine?_expression (by rw [hread]; rfl), hread]
    simp [functionText, hunit]
  case isFalse hret =>
    rw [String.toList_append, String.append_assoc, String.toList_append,
      CText.FunctionBody.ofLine?_return, hp.ofExpression?_expression]
    simp [functionText, hret]

end Expressible

/-! ### Occurrences -/

theorem occurrences_prototype_eq_zero {l : List Char} (hl : '\x7b' ∉ l) :
    Text.occurrences (p.prototype ++ " \x7b").toList l = 0 := by
  apply Text.occurrences_eq_zero
  intro hinfix
  apply hl
  apply hinfix.subset
  simp

namespace Expressible

/-- The head of one entry stands in the head of another only if the two have the same
name. Both have one parenthesis that opens, and one blank before it: so what is between
the two, the symbol, is the same. -/
theorem name_eq_of_infix (hq : q.Expressible)
    (h : (p.prototype ++ " \x7b").toList <:+: (q.prototype ++ " \x7b").toList) :
    p.name = q.name := by
  rcases h with ⟨before, after, heq⟩
  have hparen_type : '(' ∉ q.ret.cType.toList :=
    CText.notMem_of_all q.ret.all_isIdentChar_cType rfl
  have hblank_type : ' ' ∉ q.ret.cType.toList :=
    CText.notMem_of_all q.ret.all_isIdentChar_cType rfl
  have hparen_symbol : '(' ∉ q.symbol.toList := CText.notMem_of_all hq.all_isIdentChar_symbol rfl
  have hblank_symbol : ' ' ∉ q.symbol.toList := CText.notMem_of_all hq.all_isIdentChar_symbol rfl
  have hparen_params : '(' ∉ q.params.toList := by
    unfold params
    rcases hq.args_cases with hargs | hargs | hargs <;> rw [hargs] <;> decide
  -- the one parenthesis that opens
  have hcut : (q.ret.cType.toList ++ ' ' :: q.symbol.toList) ++ '(' ::
        (q.params.toList ++ [')', ' ', '\x7b']) =
      ((before ++ p.ret.cType.toList) ++ ' ' :: p.symbol.toList) ++ '(' ::
        (p.params.toList ++ [')', ' ', '\x7b'] ++ after) := by
    simpa [prototype] using heq.symm
  rw [List.append_cons_inj_of_notMem (by simp [hparen_type, hparen_symbol])
    (by simp [hparen_params])] at hcut
  -- the one blank before it
  have hsymbol := hcut.1
  rw [List.append_cons_inj_of_notMem hblank_type hblank_symbol] at hsymbol
  exact (symbol_injective (String.toList_inj.1 hsymbol.2.2)).symm

/-- The head of an entry stands in the definition of that entry, once, and in no other. -/
theorem sum_occurrences_definitionLines (hq : q.Expressible) (hname : p.name = q.name → p = q) :
    (q.definitionLines.map fun l =>
      Text.occurrences (p.prototype ++ " \x7b").toList l.toList).sum =
        if q = p then 1 else 0 := by
  have hne : (p.prototype ++ " \x7b").toList ≠ [] := by simp
  have hbody : '\x7b' ∉ ("    " ++ q.statement q.expression).toList := by
    have := CText.notMem_of_all (c := '\x7b') hq.all_isPlain_statement rfl
    simp [this]
  have hhead : Text.occurrences (p.prototype ++ " \x7b").toList (q.prototype ++ " \x7b").toList =
      if q = p then 1 else 0 := by
    split
    case isTrue heq =>
      rw [heq, Text.occurrences_self hne]
    case isFalse hdiffers =>
      apply Text.occurrences_eq_zero
      intro hinfix
      exact hdiffers (hname (hq.name_eq_of_infix hinfix)).symm
  -- the other three lines have no opening brace
  simp only [definitionLines, List.map_cons, List.map_nil, List.sum_cons, List.sum_nil,
    occurrences_prototype_eq_zero (l := "".toList) (by decide),
    occurrences_prototype_eq_zero (l := "\x7d".toList) (by decide),
    occurrences_prototype_eq_zero hbody, hhead]
  omega

end Expressible

end Primitive

/-! ## Tables -/

namespace Registry

variable {r : Registry} {p : Primitive}

theorem readFunctions_definitionLines (hr : ∀ p ∈ r, p.Expressible) :
    CText.readFunctions ((r.flatMap Primitive.definitionLines).map String.toList ++ [[]]) =
      some (r.map Primitive.functionText) := by
  induction r with
  | nil => rfl
  | cons p rest ih =>
    have hp := hr p List.mem_cons_self
    have hrest := ih fun q hq => hr q (List.mem_cons_of_mem p hq)
    rw [List.flatMap_cons, List.map_append, List.append_assoc]
    -- the four lines of the first definition
    show CText.readFunctions ([] :: (p.prototype ++ " \x7b").toList ::
      ("    " ++ p.statement p.expression).toList :: ['\x7d'] ::
        ((rest.flatMap Primitive.definitionLines).map String.toList ++ [[]])) = _
    rw [CText.readFunctions]
    simp only [hp.ofLine?_prototype, hp.ofLine?_body, hrest, Option.bind_eq_bind,
      Option.bind_some]
    rfl

/-- The functions of a source are those of its table, in order. -/
theorem Accepted.readSource_source (hr : r.Accepted) :
    CText.readSource (Text.unlines r.sourceLines) = some (r.map Primitive.functionText) := by
  have hlines : (Text.split '\n' (Text.unlines r.sourceLines).toList) =
      (CText.bannerLine :: CText.includeLines).map String.toList ++
        ((r.flatMap Primitive.definitionLines).map String.toList ++ [[]]) := by
    rw [Text.split_unlines hr.newline_notMem_sourceLines, sourceLines, List.map_append,
      List.append_assoc]
  rw [CText.readSource, hlines, Text.isPrefixOf?_append]
  exact readFunctions_definitionLines fun p => hr.expressible

/-- The shapes of a table are decoded from its source. -/
theorem Accepted.decode_source (hr : r.Accepted) :
    CText.decode (Text.unlines r.sourceLines) = some (r.map Primitive.shape) := by
  have hshapes : ∀ rest : Registry, (∀ p ∈ rest, p.Expressible) →
      (rest.map Primitive.functionText).mapM CText.FunctionText.shape? =
        some (rest.map Primitive.shape) := by
    intro rest hrest
    induction rest with
    | nil => rfl
    | cons p rest ih =>
      rw [List.map_cons, List.mapM_cons, (hrest p List.mem_cons_self).shape?_functionText,
        ih fun q hq => hrest q (List.mem_cons_of_mem p hq)]
      rfl
  rw [CText.decode, hr.readSource_source]
  exact hshapes r fun p => hr.expressible

/-- The head of a definition occurs in the source once. -/
theorem Accepted.occurrences_prototype (hr : r.Accepted) (hp : p ∈ r) :
    Text.occurrences (p.prototype ++ " \x7b").toList (Text.unlines r.sourceLines).toList = 1 := by
  have hdefinitions : ∀ rest : Registry, rest ⊆ r →
      ((rest.flatMap Primitive.definitionLines).map fun l =>
        Text.occurrences (p.prototype ++ " \x7b").toList l.toList).sum = rest.count p := by
    intro rest hrest
    induction rest with
    | nil => rfl
    | cons q rest ih =>
      have hq : q ∈ r := hrest List.mem_cons_self
      have hname : p.name = q.name → p = q :=
        List.inj_on_of_nodup_map hr.valid.names_nodup hp hq
      have hrest := ih fun q hq => hrest (List.mem_cons_of_mem _ hq)
      rw [List.flatMap_cons, List.map_append, List.sum_append, hrest,
        (hr.expressible hq).sum_occurrences_definitionLines hname, List.count_cons]
      simp only [beq_iff_eq]
      omega
  have hne : (p.prototype ++ " \x7b").toList ≠ [] := by simp
  have hnewline : '\n' ∉ (p.prototype ++ " \x7b").toList := by
    have := CText.notMem_of_all (c := '\n') (hr.expressible hp).all_isPlain_prototype rfl
    simp [this]
  have hopening : ((CText.bannerLine :: CText.includeLines).map fun l =>
      Text.occurrences (p.prototype ++ " \x7b").toList l.toList).sum = 0 := by
    have hfree : ∀ l ∈ CText.bannerLine :: CText.includeLines, '\x7b' ∉ l.toList := by decide
    apply List.sum_eq_zero
    intro n hn
    rcases List.mem_map.1 hn with ⟨l, hl, rfl⟩
    exact Primitive.occurrences_prototype_eq_zero (hfree l hl)
  rw [Text.occurrences_unlines hnewline hne, sourceLines, List.map_append, List.sum_append,
    hopening, hdefinitions r (List.Subset.refl r), Nat.zero_add]
  exact List.count_eq_one_of_mem (List.Nodup.of_map _ hr.valid.names_nodup) hp

/-- The text of the definitions has one definition for each entry, in order. -/
theorem exists_definitions (hr : ∀ p ∈ r, p.WellFormed) :
    ∃ definitions, List.Forall₂ (fun p d => p.definition? = some d) r definitions ∧
      r.definitions? = some (String.join (definitions.map ("\n" ++ ·))) := by
  induction r with
  | nil => exact ⟨[], .nil, rfl⟩
  | cons p rest ih =>
    rcases Primitive.definition?_eq (hr p List.mem_cons_self) with ⟨d, hd, -⟩
    rcases ih fun q hq => hr q (List.mem_cons_of_mem p hq) with ⟨definitions, hall, htext⟩
    refine ⟨d :: definitions, .cons hd hall, ?_⟩
    simp [definitions?, hd, htext]

/-- The source of an accepted table can be read back. It has banner, included headers and
one definition for each entry, and nothing else; the head of each definition occurs once
in the whole text, and its body does what the entry says. So one decoder, which sees the
text alone, recovers the names, the numbers of arguments and the kinds of the results; two
accepted tables with one source have these in common. -/
theorem source_decodes (hr : r.Accepted) :
    ∃ text, r.source? = some text ∧
      CText.decode text = some (r.map Primitive.shape) ∧
      (∃ definitions, List.Forall₂ (fun p d => p.definition? = some d) r definitions ∧
        text = CText.banner ++ CText.includes ++ String.join (definitions.map ("\n" ++ ·))) ∧
      (∀ p ∈ r, Text.occurrences (p.prototype ++ " \x7b").toList text.toList = 1) ∧
      (∃ functions, CText.readSource text = some functions ∧
        List.Forall₂ Primitive.ImplementedBy r functions) ∧
      ∀ s : Registry, s.Accepted → s.source? = some text →
        s.map Primitive.shape = r.map Primitive.shape := by
  have htext := source?_eq hr.valid.wellFormed
  refine ⟨_, htext, hr.decode_source, ?_, fun p hp => hr.occurrences_prototype hp, ?_, ?_⟩
  · rcases exists_definitions hr.valid.wellFormed with ⟨definitions, hall, hdefinitions⟩
    rw [source?, hdefinitions, Option.map_some, Option.some_inj] at htext
    exact ⟨definitions, hall, htext.symm⟩
  · refine ⟨_, hr.readSource_source, ?_⟩
    rw [List.forall₂_map_right_iff, List.forall₂_same]
    intro p hp
    exact (hr.expressible hp).implementedBy_functionText
  · intro s hs hsource
    rw [source?_eq hs.valid.wellFormed, Option.some_inj] at hsource
    have hshapes := hs.decode_source
    rw [hsource, hr.decode_source, Option.some_inj] at hshapes
    exact hshapes.symm

/-- Names of which one begins or ends with another, or with the keyword. -/
theorem source_decodes_over_nested_names :
    let r : Registry := [constantEntry "gu_x" "eol", unaryEntry "x" "car" .value,
      binaryEntry "return" "set_cdr" .unit, unaryEntry "return_x" "is_null" .truth,
      unaryEntry "x_gu_x" "unpack" .bits]
    ∃ text, r.source? = some text ∧
      CText.decode text = some [⟨"gu_x", 0, .value⟩, ⟨"x", 1, .value⟩, ⟨"return", 2, .unit⟩,
        ⟨"return_x", 1, .truth⟩, ⟨"x_gu_x", 1, .bits⟩] ∧
      Text.occurrences "SCM gu_x(SCM x) \x7b".toList text.toList = 1 := by
  intro r
  have hr : r.Accepted := ⟨rfl, by decide⟩
  obtain ⟨text, htext, hdecode, -, honce, -⟩ := source_decodes hr
  have hx : unaryEntry "x" "car" .value ∈ r := by decide
  have hhead : (unaryEntry "x" "car" .value).prototype ++ " \x7b" = "SCM gu_x(SCM x) \x7b" := by
    decide
  have hcount := honce _ hx
  rw [hhead] at hcount
  exact ⟨text, htext, hdecode, hcount⟩

end Registry

end ProxyForge
