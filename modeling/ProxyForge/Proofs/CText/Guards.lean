import ProxyForge.Proofs.CText.Heads

/-!
# ProxyForge.Proofs.CText.Guards — include guards around headers

The guard of a header is its file name, character by character. Each of its characters can
stand in an identifier, but two things are not mended on the way: a digit at the front
stays a digit, and nothing is made of nothing. So the guard is an identifier exactly when the
file name has a first character that is no digit (`isIdentifier_includeGuard_iff`).

Whatever the guard is, it is written in the same way: `headerLines_eq` takes the header
apart into what opens the guard, what it encloses, and what closes it, and `directives`
reads the lines of the preprocessor back from the text. `header_wrapped_iff` puts the two
together: when a header is wrapped by an include guard (`CText.WrappedBy`), and when not.
-/

namespace ProxyForge

namespace CText

/-! ## Directives -/

/-- A line of the preprocessor. -/
def isDirective (line : String) : Bool := line.toList.head? == some '#'

/-- The lines of the preprocessor in a text, in order. -/
def directives (text : String) : List String :=
  (Text.splitString '\n' text).filter isDirective

/-- A line without line feeds is the only one that it can give. -/
theorem directives_of_line {line : String} (hline : '\n' ∉ line.toList) :
    directives line = if isDirective line then [line] else [] := by
  have hsplit : Text.splitString '\n' line = [line] := by
    simp [Text.splitString, Text.split_of_notMem hline]
  rw [directives, hsplit, List.filter_cons, List.filter_nil]

/-- Of lines without line feeds the directives are a selection. -/
theorem flatMap_directives {lines : List String} (hlines : ∀ line ∈ lines, '\n' ∉ line.toList) :
    lines.flatMap directives = lines.filter isDirective := by
  induction lines with
  | nil => rfl
  | cons line lines ih =>
    have hrest := ih fun l hl => hlines l (List.mem_cons_of_mem line hl)
    rw [List.flatMap_cons, hrest, directives_of_line (hlines line List.mem_cons_self),
      List.filter_cons]
    cases isDirective line <;> rfl

/-- The directives of a text are those of the pieces that were written as its lines, also
when a piece holds line feeds of its own. -/
theorem directives_unlines (lines : List String) :
    directives (Text.unlines lines) = lines.flatMap directives := by
  have hempty : directives "" = [] := by decide
  induction lines with
  | nil => exact hempty
  | cons line lines ih =>
    have hsplit : Text.splitString '\n' (line ++ "\n" ++ Text.unlines lines) =
        Text.splitString '\n' line ++ Text.splitString '\n' (Text.unlines lines) := by
      have hchars : (line ++ "\n" ++ Text.unlines lines).toList =
          line.toList ++ '\n' :: (Text.unlines lines).toList := by simp
      rw [Text.splitString, hchars, Text.split_append]
      simp [Text.splitString]
    rw [Text.unlines_cons, List.flatMap_cons, ← ih, directives, hsplit, List.filter_append]
    rfl

/-! ## Guards -/

/-- The lines that open a guard. -/
def openingLines (guardName : String) : List String :=
  ["#ifndef " ++ guardName, "#define " ++ guardName]

/-- The line that closes a guard. -/
def closingLine (guardName : String) : String := "#endif /* " ++ guardName ++ " */"

/-- All lines of a guard are directives. -/
theorem filter_guardLines (guardName : String) :
    (openingLines guardName).filter isDirective = openingLines guardName ∧
      [closingLine guardName].filter isDirective = [closingLine guardName] := by
  constructor
  · simp [openingLines, isDirective]
  · simp [closingLine, isDirective]

/-- A guard brings no line feed into its lines. -/
theorem newline_notMem_guardLines {guardName : String} (hguard : '\n' ∉ guardName.toList) :
    (∀ line ∈ openingLines guardName, '\n' ∉ line.toList) ∧
      '\n' ∉ (closingLine guardName).toList := by
  constructor
  · simp [openingLines, hguard]
  · simp [closingLine, hguard]

/-- A text is wrapped by an include guard: the guard is an identifier, besides its own lines
the preprocessor sees the included headers only, and no line before or behind it declares a
function. The text is read line by line, as the generated ones are written. -/
structure WrappedBy (guardName text : String) : Prop where
  identifier : isIdentifier guardName.toList
  directives_eq : directives text =
    openingLines guardName ++ includeLines ++ [closingLine guardName]
  encloses : ∃ before inside after,
    Text.splitString '\n' text =
      before ++ openingLines guardName ++ inside ++ [closingLine guardName] ++ after ∧
    ∀ line ∈ before ++ after, FunctionHead.ofLine? ";".toList line.toList = none

/-- A text is wrapped by the guard of its first line for the preprocessor. -/
theorem WrappedBy.unique {guardName other text : String} (h : WrappedBy guardName text)
    {rest : List String} (hdirectives : directives text = openingLines other ++ rest) :
    guardName = other := by
  have heq := h.directives_eq.symm.trans hdirectives
  have hfirst : "#ifndef " ++ guardName = "#ifndef " ++ other := (List.cons.inj heq).1
  rw [← String.toList_inj, String.toList_append, String.toList_append] at hfirst
  exact String.toList_inj.1 (List.append_cancel_left hfirst)

end CText

/-! ## Pieces of a header -/

namespace Primitive

variable {p : Primitive}

/-- The line that declares the proxy. -/
def declaration (p : Primitive) : String := p.prototype ++ ";"

/-- However many arguments there are, their list is one line. -/
theorem newline_notMem_params (p : Primitive) : '\n' ∉ p.params.toList := by
  have htype : ∀ k : Kind, '\n' ∉ k.cType.toList :=
    fun k => CText.notMem_of_all k.all_isIdentChar_cType rfl
  unfold params
  -- the parameter names end after two, so further arguments are left out
  rcases p.args with _ | ⟨k, _ | ⟨l, rest⟩⟩
  · decide
  · simp [CText.paramNames, htype]
  · simp [CText.paramNames, htype]

/-- Only its name can bring a line feed into a declaration. -/
theorem newline_notMem_declaration (hname : '\n' ∉ p.name.toList) :
    '\n' ∉ p.declaration.toList := by
  have hret : '\n' ∉ p.ret.cType.toList := CText.notMem_of_all p.ret.all_isIdentChar_cType rfl
  have hlead : '\n' ∉ symbolLead.toList := by decide
  simp [declaration, prototype, symbol, hname, hret, hlead, p.newline_notMem_params]

/-- A declaration begins with a type. -/
theorem isDirective_declaration (p : Primitive) : CText.isDirective p.declaration = false := by
  have htype : ∀ k : Kind, ∃ c rest, k.cType.toList = c :: rest ∧ c ≠ '#' := by
    intro k
    cases k <;> exact ⟨_, _, rfl, by decide⟩
  rcases htype p.ret with ⟨c, rest, hc, hne⟩
  simp [CText.isDirective, declaration, prototype, hc, hne]

theorem directives_declaration (hname : '\n' ∉ p.name.toList) :
    CText.directives p.declaration = [] := by
  rw [CText.directives_of_line (newline_notMem_declaration hname), p.isDirective_declaration]
  rfl

end Primitive

namespace Registry

variable {r : Registry} {headerName guardName : String}

/-- The lines that include the headers. -/
def includingLines : List String := "" :: CText.includeLines ++ [""]

/-- The lines that declare the entry points. -/
def entryLines : List String :=
  ["", "SCM " ++ listSymbol ++ "(const SCM *elts);", "void " ++ diagnosticSymbol ++ "(void);", ""]

/-- What a header writes between the lines that open its guard and the one that closes it. -/
def guardedLines (r : Registry) : List String :=
  includingLines ++ r.map Primitive.declaration ++ entryLines

/-- A header takes apart into what stands before its guard, the guard and what it encloses. -/
theorem headerLines_eq (r : Registry) (guardName : String) :
    r.headerLines guardName =
      [CText.bannerLine] ++ CText.openingLines guardName ++ r.guardedLines ++
        [CText.closingLine guardName] := by
  simp [headerLines, guardedLines, includingLines, entryLines, CText.openingLines,
    CText.closingLine, Primitive.declaration]

/-! ## Guards as names -/

/-- A character becomes a digit only if it is one. -/
theorem isDigit_guardChar (c : Char) : (guardChar c).isDigit = c.isDigit := by
  unfold guardChar
  split
  case isTrue hc =>
    have hascii : ∀ n < 128, (Char.ofNat n).toUpper.isDigit = (Char.ofNat n).isDigit := by decide
    have hupper := hascii c.toNat (CText.toNat_lt_of_isAlphanum hc)
    rwa [Char.ofNat_toNat] at hupper
  case isFalse hc =>
    have hdigit : c.isDigit = false := by
      rw [Char.isAlphanum, Bool.or_eq_true, not_or, Bool.not_eq_true, Bool.not_eq_true] at hc
      exact hc.2
    rw [hdigit]
    rfl

/-- The guard is an identifier exactly when the file name begins with anything but a digit. -/
theorem isIdentifier_includeGuard_iff :
    CText.isIdentifier (includeGuard headerName).toList = true ↔
      ∃ c rest, headerName.toList = c :: rest ∧ c.isDigit = false := by
  rw [includeGuard, String.toList_ofList]
  cases headerName.toList with
  | nil => simp [CText.isIdentifier]
  | cons c rest =>
    have hrest : (rest.map guardChar).all CText.isIdentChar = true := by
      rw [List.all_map, List.all_eq_true]
      intro d _
      exact isIdentChar_guardChar d
    rw [List.map_cons, CText.isIdentifier, hrest, isIdentChar_guardChar, isDigit_guardChar]
    simp

/-! ## Wrapped headers -/

theorem newline_notMem_includeGuard (headerName : String) :
    '\n' ∉ (includeGuard headerName).toList :=
  CText.notMem_of_all (all_isIdentChar_includeGuard headerName) rfl

/-- The lines that are the same in every header. -/
theorem newline_notMem_fixedLines : '\n' ∉ CText.bannerLine.toList ∧
    (∀ line ∈ includingLines, '\n' ∉ line.toList) ∧ ∀ line ∈ entryLines, '\n' ∉ line.toList := by
  decide

/-- What the preprocessor sees of any header: a name of an entry can bring in lines of its
own, and nothing else can. -/
theorem directives_header (r : Registry) (headerName : String) :
    CText.directives (r.header headerName) =
      CText.openingLines (includeGuard headerName) ++ CText.includeLines ++
        r.flatMap (fun p => CText.directives p.declaration) ++
        [CText.closingLine (includeGuard headerName)] := by
  rcases newline_notMem_fixedLines with ⟨hbanner, hincluding, hentry⟩
  rcases CText.newline_notMem_guardLines (newline_notMem_includeGuard headerName) with
    ⟨hopening, hclosing⟩
  rcases CText.filter_guardLines (includeGuard headerName) with ⟨hopening', hclosing'⟩
  have hbanner' : [CText.bannerLine].filter CText.isDirective = [] := by decide
  have hincluding' : includingLines.filter CText.isDirective = CText.includeLines := by decide
  have hentry' : entryLines.filter CText.isDirective = [] := by decide
  -- piece by piece: all lines of the guard, no fixed line but the included headers
  rw [header_eq, CText.directives_unlines, headerLines_eq, guardedLines]
  simp only [List.flatMap_append, List.flatMap_map]
  rw [CText.flatMap_directives (by simpa using hbanner), CText.flatMap_directives hopening,
    CText.flatMap_directives hincluding, CText.flatMap_directives hentry,
    CText.flatMap_directives (by simpa using hclosing), hbanner', hopening', hincluding', hentry',
    hclosing']
  simp only [List.nil_append, List.append_nil, List.append_assoc]

/-- As long as no name ends a line, the header has the lines that it was written as. -/
theorem splitString_header (hr : ∀ p ∈ r, '\n' ∉ p.name.toList) (headerName : String) :
    Text.splitString '\n' (r.header headerName) =
      r.headerLines (includeGuard headerName) ++ [""] := by
  have hdeclarations : ∀ line ∈ r.map Primitive.declaration, '\n' ∉ line.toList := by
    intro line hline
    rcases List.mem_map.1 hline with ⟨p, hp, rfl⟩
    exact Primitive.newline_notMem_declaration (hr p hp)
  have hlines : ∀ line ∈ r.headerLines (includeGuard headerName), '\n' ∉ line.toList := by
    rcases newline_notMem_fixedLines with ⟨hbanner, hincluding, hentry⟩
    rcases CText.newline_notMem_guardLines (newline_notMem_includeGuard headerName) with
      ⟨hopening, hclosing⟩
    rw [headerLines_eq, guardedLines]
    simp only [List.forall_mem_append, List.forall_mem_singleton]
    exact ⟨⟨⟨hbanner, hopening⟩, ⟨hincluding, hdeclarations⟩, hentry⟩, hclosing⟩
  rw [header_eq, Text.splitString_unlines hlines]

/-- As long as no name ends a line, a header is wrapped by its guard, if by anything; and
this fails just when the guard is no identifier. -/
theorem wrappedBy_header_iff (hr : ∀ p ∈ r, '\n' ∉ p.name.toList) :
    CText.WrappedBy guardName (r.header headerName) ↔
      guardName = includeGuard headerName ∧ CText.isIdentifier guardName.toList := by
  have hnone : r.flatMap (fun p => CText.directives p.declaration) = [] := by
    rw [List.flatMap_eq_nil_iff]
    intro p hp
    exact Primitive.directives_declaration (hr p hp)
  have hdirectives := directives_header r headerName
  rw [hnone, List.append_nil] at hdirectives
  constructor
  · intro hwrapped
    have hrest := hdirectives.trans (List.append_assoc _ _ _)
    exact ⟨hwrapped.unique hrest, hwrapped.identifier⟩
  · rintro ⟨rfl, hidentifier⟩
    refine ⟨hidentifier, hdirectives, [CText.bannerLine], r.guardedLines, [""], ?_, by decide⟩
    rw [splitString_header hr, headerLines_eq]

/-- The header of any table, for any file name: the same guard stands on the two lines that
open it and on the one that closes it, and all declarations are written in between. Besides
the included headers the preprocessor sees no other line, unless the name of an entry brings
it in with a line feed. So for a table without such names the header is wrapped by an include
guard exactly when the file name has a first character, and this is no digit: neither a
digit nor an empty name is mended. -/
theorem header_wrapped_iff (r : Registry) (headerName : String) :
    r.header headerName = Text.unlines ([CText.bannerLine] ++
        CText.openingLines (includeGuard headerName) ++ r.guardedLines ++
        [CText.closingLine (includeGuard headerName)]) ∧
    CText.directives (r.header headerName) =
      CText.openingLines (includeGuard headerName) ++ CText.includeLines ++
        r.flatMap (fun p => CText.directives p.declaration) ++
        [CText.closingLine (includeGuard headerName)] ∧
    (includeGuard headerName).toList.all CText.isIdentChar ∧
    ((∀ p ∈ r, '\n' ∉ p.name.toList) → ∀ guardName,
      CText.WrappedBy guardName (r.header headerName) ↔
        guardName = includeGuard headerName ∧
          ∃ c rest, headerName.toList = c :: rest ∧ c.isDigit = false) := by
  refine ⟨?_, directives_header r headerName, all_isIdentChar_includeGuard headerName, ?_⟩
  · rw [header_eq, headerLines_eq]
  · intro hr guardName
    rw [wrappedBy_header_iff hr]
    constructor
    · rintro ⟨rfl, hidentifier⟩
      exact ⟨rfl, isIdentifier_includeGuard_iff.1 hidentifier⟩
    · rintro ⟨rfl, hfirst⟩
      exact ⟨rfl, isIdentifier_includeGuard_iff.2 hfirst⟩

/-- The header of the built-in table under its usual name is wrapped. -/
theorem header_wrapped_iff_at_builtin :
    (∀ p ∈ builtin, '\n' ∉ p.name.toList) ∧
      CText.WrappedBy "GUILE_SHIM_H" (builtin.header "guile_shim.h") := by
  have hnames : ∀ p ∈ builtin, '\n' ∉ p.name.toList := by decide
  obtain ⟨-, -, -, hwrapped⟩ := header_wrapped_iff builtin "guile_shim.h"
  refine ⟨hnames, (hwrapped hnames "GUILE_SHIM_H").2 ⟨by decide, 'g', _, rfl, by decide⟩⟩

/-- Two file names whose headers no guard wraps: the one written around the header begins
with a digit, or is empty. -/
theorem header_not_wrapped :
    let r : Registry := [constantEntry "SCM_EOL" "eol"]
    (CText.directives (r.header "3d.h")).head? = some "#ifndef 3D_H" ∧
      (CText.directives (r.header "")).head? = some "#ifndef " ∧
      ∀ headerName ∈ ["3d.h", ""], ∀ guardName,
        ¬ CText.WrappedBy guardName (r.header headerName) := by
  intro r
  have hnames : ∀ p ∈ r, '\n' ∉ p.name.toList := by decide
  have hguards : ∀ headerName ∈ ["3d.h", ""],
      CText.isIdentifier (includeGuard headerName).toList = false := by decide
  refine ⟨?_, ?_, ?_⟩
  · rw [directives_header]
    decide
  · rw [directives_header]
    decide
  · intro headerName hmem guardName hwrapped
    rcases (wrappedBy_header_iff hnames).1 hwrapped with ⟨rfl, hidentifier⟩
    rw [hguards headerName hmem] at hidentifier
    contradiction

end Registry

end ProxyForge
