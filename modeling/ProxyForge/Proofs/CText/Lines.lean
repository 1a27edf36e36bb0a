import ProxyForge.CText.Reading
import ProxyForge.Proofs.Registry.Validation
import ProxyForge.Proofs.Text.Lines
import Mathlib.Tactic.IntervalCases

/-!
# ProxyForge.Proofs.CText.Lines — the generated texts as lines

Both texts of an accepted table are lines with a line feed behind each:
`source?_eq` and `header_eq` list them. What stands on the lines of functions is
made of few characters (`isPlain`), so that no name can end a line, open a body or
close one.
-/

namespace ProxyForge

namespace CText

/-! ## Characters -/

/-- An identifier: characters of identifiers, of which the first is no digit. -/
def isIdentifier : List Char → Bool
  | [] => false
  | c :: rest => isIdentChar c && !c.isDigit && rest.all isIdentChar

/-- The characters of heads and statements. -/
def isPlain (c : Char) : Bool := isIdentChar c || [' ', ',', '(', ')', ';'].contains c

/-- Letters and digits are ASCII. -/
theorem toNat_lt_of_isAlphanum {c : Char} (hc : c.isAlphanum) : c.toNat < 128 := by
  delta Char.isAlphanum Char.isAlpha Char.isUpper Char.isLower Char.isDigit at hc
  simp only [Bool.or_eq_true, Bool.and_eq_true, decide_eq_true_eq, UInt32.le_iff_toNat_le,
    ge_iff_le] at hc
  have hval : c.toNat = c.val.toNat := rfl
  rcases hc with (⟨-, hle⟩ | ⟨-, hle⟩) | ⟨-, hle⟩
  · have hle : c.val.toNat ≤ 90 := hle
    omega
  · have hle : c.val.toNat ≤ 122 := hle
    omega
  · have hle : c.val.toNat ≤ 57 := hle
    omega

theorem all_isIdentChar_of_isIdentifier {s : List Char} (hs : isIdentifier s) :
    s.all isIdentChar := by
  cases s with
  | nil => rfl
  | cons c rest =>
    rw [isIdentifier, Bool.and_eq_true, Bool.and_eq_true] at hs
    rw [List.all_cons, hs.1.1, hs.2]
    rfl

theorem all_isPlain_of_all_isIdentChar {s : List Char} (hs : s.all isIdentChar) :
    s.all isPlain := by
  rw [List.all_eq_true] at hs ⊢
  intro c hc
  rw [isPlain, hs c hc, Bool.true_or]

/-- A character that is not of the kind of a text is not in the text. -/
theorem notMem_of_all {f : Char → Bool} {s : List Char} {c : Char} (hs : s.all f)
    (hc : f c = false) : c ∉ s := by
  intro hmem
  rw [List.all_eq_true.1 hs c hmem] at hc
  cases hc

/-- The line of the banner. -/
def bannerLine : String := "/* Generated from the guile-shim primitive registry. Do not edit. */"

/-- The lines of the headers that the proxies need. -/
def includeLines : List String := ["#include <libguile.h>", "#include <stdbool.h>"]

theorem banner_eq : banner = bannerLine ++ "\n" := by decide

theorem unlines_includeLines : Text.unlines includeLines = includes := by decide

end CText

theorem Kind.all_isIdentChar_cType (k : Kind) : k.cType.toList.all CText.isIdentChar := by
  cases k <;> decide

/-! ## Entries -/

/-- An entry that C can express: well formed, and with an identifier for a name. -/
structure Primitive.Expressible (p : Primitive) : Prop extends p.WellFormed where
  identifier : CText.isIdentifier p.name.toList

namespace Primitive

variable {p : Primitive}

/-- The arguments of a well-formed entry: none, a value or two values. -/
theorem WellFormed.args_cases (hp : p.WellFormed) :
    p.args = [] ∨ p.args = [.value] ∨ p.args = [.value, .value] := by
  have hreplicate : p.args = List.replicate p.arity .value :=
    List.eq_replicate_iff.2 ⟨rfl, hp.args_value⟩
  have harity : p.arity ≤ 2 := hp.arity_le
  rw [hreplicate]
  interval_cases p.arity
  · exact .inl rfl
  · exact .inr (.inl rfl)
  · exact .inr (.inr rfl)

/-- The expression that names the primitive. -/
def expression (p : Primitive) : String :=
  if p.isConstant then p.name
  else p.name ++ "(" ++ ", ".intercalate (CText.paramNames.take p.arity) ++ ")"

theorem expression?_eq (hp : p.WellFormed) : p.expression? = some p.expression := by
  unfold expression? expression
  split
  · rfl
  · exact if_pos hp.arity_le

/-- The lines of the definition, after an empty one. -/
def definitionLines (p : Primitive) : List String :=
  ["", p.prototype ++ " \x7b", "    " ++ p.statement p.expression, "\x7d"]

theorem definition?_eq (hp : p.WellFormed) :
    ∃ d, p.definition? = some d ∧ "\n" ++ d = Text.unlines p.definitionLines := by
  refine ⟨_, by rw [definition?, expression?_eq hp, Option.map_some], ?_⟩
  simp [← String.toList_inj, Text.toList_unlines, definitionLines]

namespace Expressible

theorem all_isIdentChar_name (hp : p.Expressible) : p.name.toList.all CText.isIdentChar :=
  CText.all_isIdentChar_of_isIdentifier hp.identifier

theorem all_isIdentChar_symbol (hp : p.Expressible) :
    p.symbol.toList.all CText.isIdentChar := by
  rw [symbol, String.toList_append, List.all_append, hp.all_isIdentChar_name]
  decide

theorem all_isPlain_params (hp : p.Expressible) : p.params.toList.all CText.isPlain := by
  unfold params
  rcases hp.args_cases with hargs | hargs | hargs <;> rw [hargs] <;> decide

theorem all_isPlain_prototype (hp : p.Expressible) : p.prototype.toList.all CText.isPlain := by
  have hret := CText.all_isPlain_of_all_isIdentChar p.ret.all_isIdentChar_cType
  have hsymbol := CText.all_isPlain_of_all_isIdentChar hp.all_isIdentChar_symbol
  simp only [prototype, String.toList_append, List.all_append, hret, hsymbol,
    hp.all_isPlain_params]
  decide

theorem all_isPlain_expression (hp : p.Expressible) :
    p.expression.toList.all CText.isPlain := by
  have hname := CText.all_isPlain_of_all_isIdentChar hp.all_isIdentChar_name
  unfold expression
  split
  · exact hname
  · have harity : p.arity ≤ 2 := hp.arity_le
    simp only [String.toList_append, List.all_append, hname]
    interval_cases p.arity <;> decide

theorem all_isPlain_statement (hp : p.Expressible) :
    (p.statement p.expression).toList.all CText.isPlain := by
  have hexpression := hp.all_isPlain_expression
  unfold statement
  split <;> simp only [String.toList_append, List.all_append, hexpression] <;> decide

/-- The lines of a definition hold no line feeds. -/
theorem newline_notMem_definitionLines (hp : p.Expressible) :
    ∀ l ∈ p.definitionLines, '\n' ∉ l.toList := by
  have hhead : '\n' ∉ p.prototype.toList := CText.notMem_of_all hp.all_isPlain_prototype rfl
  have hbody : '\n' ∉ (p.statement p.expression).toList :=
    CText.notMem_of_all hp.all_isPlain_statement rfl
  simp [definitionLines, hhead, hbody]

end Expressible

end Primitive

/-! ## Tables -/

namespace Registry

variable {r : Registry}

/-- A table that is accepted and has identifiers for names. -/
structure Accepted (r : Registry) : Prop where
  validated : r.validate = .ok ()
  identifiers : ∀ p ∈ r, CText.isIdentifier p.name.toList

theorem Accepted.valid (hr : r.Accepted) : r.Valid := validate_eq_ok_iff.1 hr.validated

theorem Accepted.expressible (hr : r.Accepted) {p : Primitive} (hp : p ∈ r) : p.Expressible :=
  { hr.valid.wellFormed p hp with identifier := hr.identifiers p hp }

/-- The lines of the source. -/
def sourceLines (r : Registry) : List String :=
  CText.bannerLine :: CText.includeLines ++ r.flatMap Primitive.definitionLines

theorem definitions?_eq (hr : ∀ p ∈ r, p.WellFormed) :
    r.definitions? = some (Text.unlines (r.flatMap Primitive.definitionLines)) := by
  induction r with
  | nil => rfl
  | cons p rest ih =>
    rcases Primitive.definition?_eq (hr p List.mem_cons_self) with ⟨d, hd, hlines⟩
    have hrest := ih fun q hq => hr q (List.mem_cons_of_mem p hq)
    rw [List.flatMap_cons, Text.unlines_append, ← hlines]
    simp [definitions?, hd, hrest]

/-- A table of well-formed entries has a source, and these are its lines. -/
theorem source?_eq (hr : ∀ p ∈ r, p.WellFormed) :
    r.source? = some (Text.unlines r.sourceLines) := by
  rw [source?, definitions?_eq hr, sourceLines, Text.unlines_append, Text.unlines_cons,
    CText.unlines_includeLines, ← CText.banner_eq]
  rfl

theorem Accepted.newline_notMem_sourceLines (hr : r.Accepted) :
    ∀ l ∈ r.sourceLines, '\n' ∉ l.toList := by
  intro l hl
  rcases List.mem_append.1 hl with hpreamble | hdefinition
  · have hfree : ∀ l ∈ CText.bannerLine :: CText.includeLines, '\n' ∉ l.toList := by decide
    exact hfree l hpreamble
  · rcases List.mem_flatMap.1 hdefinition with ⟨p, hp, hlp⟩
    exact (hr.expressible hp).newline_notMem_definitionLines l hlp

/-! ## Headers -/

/-- An include guard is made of characters of identifiers. -/
theorem isIdentChar_guardChar (c : Char) : CText.isIdentChar (guardChar c) := by
  unfold guardChar
  split
  case isFalse => rfl
  case isTrue hc =>
    have hascii : ∀ n < 128, (Char.ofNat n).isAlphanum → (Char.ofNat n).toUpper.isAlphanum := by
      decide
    have hupper := hascii c.toNat (CText.toNat_lt_of_isAlphanum hc)
    rw [Char.ofNat_toNat] at hupper
    rw [CText.isIdentChar, hupper hc, Bool.true_or]

theorem all_isIdentChar_includeGuard (headerName : String) :
    (includeGuard headerName).toList.all CText.isIdentChar := by
  rw [includeGuard, String.toList_ofList, List.all_map, List.all_eq_true]
  intro c _
  exact isIdentChar_guardChar c

/-- The lines of the header with the given include guard. -/
def headerLines (r : Registry) (guardName : String) : List String :=
  [CText.bannerLine, "#ifndef " ++ guardName, "#define " ++ guardName, ""] ++
    CText.includeLines ++ [""] ++
    r.map (fun p => p.prototype ++ ";") ++
    ["", "SCM " ++ listSymbol ++ "(const SCM *elts);", "void " ++ diagnosticSymbol ++ "(void);",
      "", "#endif /* " ++ guardName ++ " */"]

theorem declarations_eq (r : Registry) :
    r.declarations = Text.unlines (r.map fun p => p.prototype ++ ";") := by
  induction r with
  | nil => rfl
  | cons p rest ih =>
    rw [declarations, ih, List.map_cons, Text.unlines_cons]
    simp [← String.toList_inj]

/-- The lines of the header of any table. -/
theorem header_eq (r : Registry) (headerName : String) :
    r.header headerName = Text.unlines (r.headerLines (includeGuard headerName)) := by
  -- the texts that hold a line feed before their end, cut behind it
  have hdefine : "\n#define " = "\n" ++ "#define " := by decide
  have hempty : "\n\n" = "\n" ++ "\n" := by decide
  have hlist : "\nSCM " = "\n" ++ "SCM " := by decide
  have hlistEnd : "(const SCM *elts);\n" = "(const SCM *elts);" ++ "\n" := by decide
  have hdiagnosticEnd : "(void);\n" = "(void);" ++ "\n" := by decide
  have hend : "\n#endif /* " = "\n" ++ "#endif /* " := by decide
  have hlast : " */\n" = " */" ++ "\n" := by decide
  simp only [headerLines, Text.unlines_append, ← declarations_eq, CText.unlines_includeLines]
  -- not by its equation, which would be found by comparing the texts themselves
  delta header
  simp only [Text.unlines_cons, Text.unlines_nil, CText.banner_eq, hdefine, hempty, hlist,
    hlistEnd, hdiagnosticEnd, hend, hlast, String.append_assoc, String.empty_append,
    String.append_empty]

theorem Accepted.newline_notMem_headerLines (hr : r.Accepted) (headerName : String) :
    ∀ l ∈ r.headerLines (includeGuard headerName), '\n' ∉ l.toList := by
  have hguard : '\n' ∉ (includeGuard headerName).toList :=
    CText.notMem_of_all (all_isIdentChar_includeGuard headerName) rfl
  have hprototypes : ∀ p ∈ r, '\n' ∉ p.prototype.toList := fun p hp =>
    CText.notMem_of_all (hr.expressible hp).all_isPlain_prototype rfl
  intro l hl
  simp only [headerLines, CText.includeLines, List.mem_append, List.mem_map] at hl
  rcases hl with (((hguards | hincludes) | hempty) | ⟨p, hp, rfl⟩) | hlast
  · revert l
    simp [hguard, CText.bannerLine]
  · revert l
    decide
  · revert l
    decide
  · simp [hprototypes p hp]
  · revert l
    simp [hguard, listSymbol, diagnosticSymbol]

end Registry

end ProxyForge
