import ProxyForge.Config.Basic
import Mathlib.Tactic.Common

/-!
# ProxyForge.Proofs.Config.Settings — what a document sets

The six fields of a configuration are one type, `Setting`, with the section, the key, the
position, the type and the default of each. A document gives a setting a value when its
section has one at the key or at the position (`Setting.Given`), and `Setting.Reads` is what
the setting comes to: the value that is given, or else the default.

`ofTable?_eq_some_iff` is the reader as a whole: a configuration is read from a document
when its sections have the shape of sections and each setting is what the document reads
there. No setting has a part in another one.
-/

namespace ProxyForge.Config

/-! ## Settings -/

/-- A field of a configuration. -/
inductive Setting where
  | version | includeDirs | libName
  | sourceName | headerName | emitHeader
deriving DecidableEq, Repr

namespace Setting

/-- What a setting is set to. -/
def Value : Setting → Type
  | version => String
  | includeDirs => List Path
  | libName => Option String
  | sourceName => String
  | headerName => String
  | emitHeader => Bool

/-- The section of a setting. -/
def sectionName : Setting → String
  | version | includeDirs | libName => "guile"
  | sourceName | headerName | emitHeader => "codegen"

/-- The key of a setting in a section that is a table. -/
def key : Setting → String
  | version => "version"
  | includeDirs => "include_dirs"
  | libName => "lib_name"
  | sourceName => "source_name"
  | headerName => "header_name"
  | emitHeader => "emit_header"

/-- The position of a setting in a section that is an array. -/
def position : Setting → Nat
  | version | sourceName => 0
  | includeDirs | headerName => 1
  | libName | emitHeader => 2

/-- All settings, as they are declared. -/
def declared : List Setting := [version, includeDirs, libName, sourceName, headerName, emitHeader]

/-- The settings of a section, as they are declared. -/
def ofSection (name : String) : List Setting := declared.filter fun s => s.sectionName = name

theorem getElem?_ofSection (s : Setting) : (ofSection s.sectionName)[s.position]? = some s := by
  cases s <;> decide

theorem key_injective : Function.Injective key := by
  intro s s' hkey
  cases s <;> cases s' <;> first | rfl | exact absurd hkey (by decide)

/-- What a setting is when it is not given. -/
def default : (s : Setting) → s.Value
  | version => ("3.0" : String)
  | includeDirs => ([] : List Path)
  | libName => (none : Option String)
  | sourceName => ("guile_shim.c" : String)
  | headerName => ("guile_shim.h" : String)
  | emitHeader => true

/-- The value in a document stands for the value of the setting. -/
def Spells : (s : Setting) → Toml.Value → s.Value → Prop
  | version, v, text => v = .string text
  | includeDirs, v, dirs => v = .array (dirs.map fun dir => .string dir.text)
  | libName, v, name => ∃ text, v = .string text ∧ name = some text
  | sourceName, v, text => v = .string text
  | headerName, v, text => v = .string text
  | emitHeader, v, b => v = .boolean b

/-- The reader of a setting. -/
def decode? : (s : Setting) → Toml.Value → Option s.Value
  | version => text?
  | includeDirs => paths?
  | libName => fun v => (text? v).map some
  | sourceName => text?
  | headerName => text?
  | emitHeader => truth?

end Setting

/-- A field of the configuration. -/
def get (c : Config) : (s : Setting) → s.Value
  | .version => c.runtime.version
  | .includeDirs => c.runtime.includeDirs
  | .libName => c.runtime.libName
  | .sourceName => c.output.sourceName
  | .headerName => c.output.headerName
  | .emitHeader => c.output.emitHeader

/-- The configuration with the given fields. -/
def ofSettings (value : (s : Setting) → s.Value) : Config where
  runtime := ⟨value .version, value .includeDirs, value .libName⟩
  output := ⟨value .sourceName, value .headerName, value .emitHeader⟩

theorem get_ofSettings (value : (s : Setting) → s.Value) (s : Setting) :
    (ofSettings value).get s = value s := by
  cases s <;> rfl

/-! ## Types -/

theorem text?_eq_some_iff {v : Toml.Value} {text : String} :
    text? v = some text ↔ v = .string text := by
  cases v <;> simp [text?]

theorem truth?_eq_some_iff {v : Toml.Value} {b : Bool} : truth? v = some b ↔ v = .boolean b := by
  cases v <;> simp [truth?]

theorem textThat?_eq_some_iff {α : Type} {f : String → α} {v : Toml.Value} {a : α} :
    (text? v).map f = some a ↔ ∃ text, v = .string text ∧ a = f text := by
  rw [Option.map_eq_some_iff]
  refine exists_congr fun text => ?_
  rw [text?_eq_some_iff]
  exact and_congr_right fun _ => eq_comm

theorem directories?_eq_some_iff {items : List Toml.Value} {dirs : List Path} :
    (items.mapM fun item => (text? item).map Path.mk) = some dirs ↔
      items = dirs.map fun dir => .string dir.text := by
  induction items generalizing dirs with
  | nil => cases dirs <;> simp
  | cons item items ih =>
    rw [List.mapM_cons]
    simp only [Option.bind_eq_bind, Option.bind_eq_some_iff, Option.pure_def, Option.some.injEq]
    constructor
    · rintro ⟨dir, hhead, rest, htail, rfl⟩
      rcases textThat?_eq_some_iff.1 hhead with ⟨text, rfl, rfl⟩
      rw [ih.1 htail]
      rfl
    · intro hitems
      cases dirs with
      | nil => cases hitems
      | cons dir dirs =>
        rcases List.cons.inj hitems with ⟨hhead, htail⟩
        exact ⟨dir, textThat?_eq_some_iff.2 ⟨dir.text, hhead, rfl⟩, dirs, ih.2 htail, rfl⟩

theorem paths?_eq_some_iff {v : Toml.Value} {dirs : List Path} :
    paths? v = some dirs ↔ v = .array (dirs.map fun dir => .string dir.text) := by
  cases v with
  | array items => simpa [paths?] using directories?_eq_some_iff
  | _ => simp [paths?]

namespace Setting

variable {s : Setting} {v : Toml.Value}

/-- The readers read what the types say. -/
theorem decode?_eq_some_iff {a : s.Value} : s.decode? v = some a ↔ s.Spells v a := by
  cases s with
  | version => exact text?_eq_some_iff
  | includeDirs => exact paths?_eq_some_iff
  | libName => exact textThat?_eq_some_iff
  | sourceName => exact text?_eq_some_iff
  | headerName => exact text?_eq_some_iff
  | emitHeader => exact truth?_eq_some_iff

/-- A value in a document stands for one value. -/
theorem Spells.unique {a b : s.Value} (ha : s.Spells v a) (hb : s.Spells v b) : a = b :=
  Option.some.inj ((decode?_eq_some_iff.2 ha).symm.trans (decode?_eq_some_iff.2 hb))

/-- What a setting comes to: the value that is given, or the default. -/
def Takes (s : Setting) (given : Toml.Value → Prop) (a : s.Value) : Prop :=
  (∃ v, given v ∧ s.Spells v a) ∨ (∀ v, ¬ given v) ∧ a = s.default

variable {given given' : Toml.Value → Prop} {a : s.Value}

theorem takes_congr (h : ∀ v, given v ↔ given' v) : s.Takes given a ↔ s.Takes given' a := by
  unfold Takes
  simp only [h]

/-- A default may be given or not. -/
theorem takes_iff_of_default (h : ∀ v, given v → s.Spells v s.default) :
    s.Takes given a ↔ a = s.default := by
  constructor
  · rintro (⟨v, hgiven, hspells⟩ | ⟨-, ha⟩)
    · exact hspells.unique (h v hgiven)
    · exact ha
  · rintro rfl
    by_cases hsome : ∃ v, given v
    · rcases hsome with ⟨v, hgiven⟩
      exact .inl ⟨v, hgiven, h v hgiven⟩
    · exact .inr ⟨not_exists.1 hsome, rfl⟩

theorem takes_congr_of_default (h : ∀ v, given v → s.Spells v s.default)
    (h' : ∀ v, given' v → s.Spells v s.default) : s.Takes given a ↔ s.Takes given' a := by
  rw [takes_iff_of_default h, takes_iff_of_default h']

end Setting

/-! ## Sections -/

/-- The value has the shape of a section. -/
def IsSection : Toml.Value → Prop
  | .table _ => True
  | .array _ => True
  | .dateTime _ => True
  | _ => False

/-- A section gives a value by its key in a table, or by its position in an array. -/
inductive Gives : Toml.Value → String → Nat → Toml.Value → Prop
  | byKey {entries : List (String × Toml.Value)} {key : String} {position : Nat}
    {v : Toml.Value} (hv : entries.lookup key = some v) : Gives (.table entries) key position v
  | byPosition {items : List Toml.Value} {key : String} {position : Nat} {v : Toml.Value}
    (hv : items[position]? = some v) : Gives (.array items) key position v

theorem gives_table_iff {entries : List (String × Toml.Value)} {key : String} {position : Nat}
    {v : Toml.Value} : Gives (.table entries) key position v ↔ entries.lookup key = some v := by
  constructor
  · rintro ⟨hv⟩
    exact hv
  · exact .byKey

theorem gives_array_iff {items : List Toml.Value} {key : String} {position : Nat}
    {v : Toml.Value} : Gives (.array items) key position v ↔ items[position]? = some v := by
  constructor
  · rintro (_ | ⟨hv⟩)
    exact hv
  · exact .byPosition

theorem Gives.unique {v w w' : Toml.Value} {key : String} {position : Nat}
    (h : Gives v key position w) (h' : Gives v key position w') : w = w' := by
  cases h with
  | byKey hv => exact Option.some.inj (hv.symm.trans (gives_table_iff.1 h'))
  | byPosition hv => exact Option.some.inj (hv.symm.trans (gives_array_iff.1 h'))

theorem Gives.isSection {v w : Toml.Value} {key : String} {position : Nat}
    (h : Gives v key position w) : IsSection v := by
  cases h <;> exact trivial

/-- The fields of a section are what it gives, and only sections have fields. -/
theorem sectionFields?_cases (v : Toml.Value) :
    (¬ IsSection v ∧ sectionFields? v = none) ∨
      (IsSection v ∧ ∃ field, sectionFields? v = some field ∧
        ∀ key position w, field key position = some w ↔ Gives v key position w) := by
  cases v with
  | table entries => exact .inr ⟨trivial, _, rfl, fun _ _ _ => gives_table_iff.symm⟩
  | array items => exact .inr ⟨trivial, _, rfl, fun _ _ _ => gives_array_iff.symm⟩
  | dateTime literal => exact .inr ⟨trivial, _, rfl, fun _ _ _ => ⟨nofun, nofun⟩⟩
  | _ => exact .inl ⟨id, rfl⟩

section Fields

variable {a b c : Setting} {α : Type} {mk : a.Value → b.Value → c.Value → α} {x : α}
  {v : Toml.Value} {t : Toml.Table} {name : String}

theorem fieldOr_eq_some_iff {s : Setting} {found : Option Toml.Value}
    {given : Toml.Value → Prop} {y : s.Value} (hgiven : ∀ w, found = some w ↔ given w) :
    fieldOr s.default s.decode? found = some y ↔ s.Takes given y := by
  unfold Setting.Takes
  simp only [← hgiven, ← Setting.decode?_eq_some_iff]
  cases found with
  | none => simp [fieldOr, eq_comm]
  | some w => simp [fieldOr]

/-- A section of three settings. -/
def threeFields? (a b c : Setting) (mk : a.Value → b.Value → c.Value → α) (v : Toml.Value) :
    Option α := do
  let field ← sectionFields? v
  return mk (← fieldOr a.default a.decode? (field a.key a.position))
    (← fieldOr b.default b.decode? (field b.key b.position))
    (← fieldOr c.default c.decode? (field c.key c.position))

theorem runtimeOf?_eq : runtimeOf? = threeFields? .version .includeDirs .libName
    RuntimeSettings.mk := rfl

theorem outputOf?_eq : outputOf? = threeFields? .sourceName .headerName .emitHeader
    OutputSettings.mk := rfl

theorem threeFields?_eq_some_iff : threeFields? a b c mk v = some x ↔
    IsSection v ∧ ∃ p q r, a.Takes (Gives v a.key a.position) p ∧
      b.Takes (Gives v b.key b.position) q ∧ c.Takes (Gives v c.key c.position) r ∧
      x = mk p q r := by
  unfold threeFields?
  rcases sectionFields?_cases v with ⟨hno, hnone⟩ | ⟨hsection, field, hsome, hfield⟩
  · rw [hnone]
    exact iff_of_false nofun fun h => hno h.1
  · rw [hsome]
    simp only [Option.bind_eq_bind, Option.bind_some, Option.bind_eq_some_iff, Option.pure_def,
      Option.some.injEq, fieldOr_eq_some_iff (hfield _ _)]
    constructor
    · rintro ⟨p, hp, q, hq, r, hr, rfl⟩
      exact ⟨hsection, p, q, r, hp, hq, hr, rfl⟩
    · rintro ⟨-, p, q, r, hp, hq, hr, rfl⟩
      exact ⟨p, hp, q, hq, r, hr, rfl⟩

end Fields

/-! ## Documents -/

/-- The keys of a document that are looked at. -/
def sectionNames : List String := ["guile", "codegen"]

/-- What stands at the key of a section, if anything does, has the shape of a section. -/
def SectionShaped (found : Option Toml.Value) : Prop := ∀ v, found = some v → IsSection v

/-- All that stands at keys of sections has the shape of a section. -/
def WellShaped (t : Toml.Table) : Prop := ∀ name ∈ sectionNames, SectionShaped (t.lookup name)

namespace Setting

variable {s : Setting} {t : Toml.Table} {v w : Toml.Value}

theorem sectionName_mem (s : Setting) : s.sectionName ∈ sectionNames := by
  cases s <;> decide

/-- The document gives the setting a value. -/
def Given (s : Setting) (t : Toml.Table) (v : Toml.Value) : Prop :=
  ∃ w, t.lookup s.sectionName = some w ∧ Gives w s.key s.position v

/-- What a document makes of the setting. -/
def Reads (s : Setting) (t : Toml.Table) (a : s.Value) : Prop := s.Takes (s.Given t) a

theorem given_iff (hlookup : t.lookup s.sectionName = some w) :
    s.Given t v ↔ Gives w s.key s.position v := by
  unfold Given
  simp [hlookup]

theorem not_given (hlookup : t.lookup s.sectionName = none) : ¬ s.Given t v := by
  unfold Given
  simp [hlookup]

end Setting

section Fields

variable {α : Type} {x : α} {t : Toml.Table} {name : String}

/-- A section that is there or not. -/
theorem sectionOr_eq_some_iff (a b c : Setting) (mk : a.Value → b.Value → c.Value → α)
    (ha : a.sectionName = name) (hb : b.sectionName = name) (hc : c.sectionName = name) :
    fieldOr (mk a.default b.default c.default) (threeFields? a b c mk) (t.lookup name) = some x ↔
      SectionShaped (t.lookup name) ∧
        ∃ p q r, a.Reads t p ∧ b.Reads t q ∧ c.Reads t r ∧ x = mk p q r := by
  unfold SectionShaped
  cases hlookup : t.lookup name with
  | none =>
    -- nothing is given, so that every setting of the section has its default
    have hdefault : ∀ s : Setting, s.sectionName = name → ∀ y, s.Reads t y ↔ y = s.default := by
      rintro s rfl y
      exact Setting.takes_iff_of_default fun v hv => absurd hv (Setting.not_given hlookup)
    simp only [hdefault a ha, hdefault b hb, hdefault c hc, fieldOr, Option.some.injEq]
    constructor
    · rintro rfl
      exact ⟨nofun, _, _, _, rfl, rfl, rfl, rfl⟩
    · rintro ⟨-, p, q, r, rfl, rfl, rfl, rfl⟩
      rfl
  | some w =>
    have hreads : ∀ s : Setting, s.sectionName = name → ∀ y,
        s.Reads t y ↔ s.Takes (Gives w s.key s.position) y := by
      rintro s rfl y
      exact Setting.takes_congr fun v => Setting.given_iff hlookup
    simp only [hreads a ha, hreads b hb, hreads c hc, Option.some.injEq, forall_eq']
    exact threeFields?_eq_some_iff

end Fields

/-- A configuration is read from a document when its sections are well shaped and each
setting is what the document makes of it. -/
theorem ofTable?_eq_some_iff {t : Toml.Table} {c : Config} :
    ofTable? t = some c ↔ WellShaped t ∧ ∀ s : Setting, s.Reads t (c.get s) := by
  -- each section by itself: the settings of the other one do not come into it
  have hruntime : fieldOr {} runtimeOf? (t.lookup "guile") = some c.runtime ↔
      SectionShaped (t.lookup "guile") ∧
        ∃ p q r, Setting.version.Reads t p ∧ Setting.includeDirs.Reads t q ∧
          Setting.libName.Reads t r ∧ c.runtime = ⟨p, q, r⟩ := by
    rw [runtimeOf?_eq]
    exact sectionOr_eq_some_iff .version .includeDirs .libName RuntimeSettings.mk rfl rfl rfl
  have houtput : fieldOr {} outputOf? (t.lookup "codegen") = some c.output ↔
      SectionShaped (t.lookup "codegen") ∧
        ∃ p q r, Setting.sourceName.Reads t p ∧ Setting.headerName.Reads t q ∧
          Setting.emitHeader.Reads t r ∧ c.output = ⟨p, q, r⟩ := by
    rw [outputOf?_eq]
    exact sectionOr_eq_some_iff .sourceName .headerName .emitHeader OutputSettings.mk rfl rfl rfl
  have hsections : ofTable? t = some c ↔
      fieldOr {} runtimeOf? (t.lookup "guile") = some c.runtime ∧
        fieldOr {} outputOf? (t.lookup "codegen") = some c.output := by
    unfold ofTable?
    simp only [Option.bind_eq_bind, Option.bind_eq_some_iff, Option.pure_def, Option.some.injEq]
    constructor
    · rintro ⟨runtime, hr, output, ho, rfl⟩
      exact ⟨hr, ho⟩
    · rintro ⟨hr, ho⟩
      exact ⟨_, hr, _, ho, rfl⟩
  rw [hsections, hruntime, houtput]
  constructor
  · rintro ⟨⟨hguile, p, q, r, hp, hq, hr, hc⟩, hcodegen, p', q', r', hp', hq', hr', hc'⟩
    refine ⟨List.forall_mem_cons.2 ⟨hguile, List.forall_mem_singleton.2 hcodegen⟩, ?_⟩
    rcases c with ⟨runtime, output⟩
    cases hc
    cases hc'
    rintro (_ | _ | _ | _ | _ | _) <;> assumption
  · rintro ⟨hshape, hreads⟩
    exact ⟨⟨hshape "guile" (by decide), _, _, _, hreads .version, hreads .includeDirs,
      hreads .libName, rfl⟩, hshape "codegen" (by decide), _, _, _, hreads .sourceName,
      hreads .headerName, hreads .emitHeader, rfl⟩

end ProxyForge.Config
