import ProxyForge.Proofs.Config.Settings
import Mathlib.Logic.Relation

/-!
# ProxyForge.Proofs.Config.Documents — documents that mean the same

A document is read when its sections are well shaped and what it gives has its type
(`exists_ofTable?_iff`). Two documents give the same configuration when their sections are
as well shaped and every setting comes to the same in both (`Alike`), which need not mean
that the settings are given in the same way.

`Edit` lists the changes that a document does not notice: at the top and in a section, a
key that is not looked at; a setting or a section at its default; and a section written as
an array. Any chain of them, in both directions, leaves the configuration as it is.
-/

namespace ProxyForge.Config

variable {t t' : Toml.Table} {c : Config} {v w : Toml.Value} {name key : String}

/-! ## Documents that are read -/

theorem Setting.Given.unique {s : Setting} (hv : s.Given t v) (hw : s.Given t w) : v = w := by
  rcases hv with ⟨found, hlookup, hv⟩
  exact hv.unique ((Setting.given_iff hlookup).1 hw)

/-- A document is read when all that it gives has its type. -/
theorem exists_ofTable?_iff : (∃ c, ofTable? t = some c) ↔
    WellShaped t ∧ ∀ (s : Setting) (v : Toml.Value), s.Given t v → ∃ a, s.Spells v a := by
  constructor
  · rintro ⟨c, hc⟩
    rcases ofTable?_eq_some_iff.1 hc with ⟨hshape, hreads⟩
    refine ⟨hshape, ?_⟩
    intro s v hgiven
    rcases hreads s with ⟨v', hgiven', hspells⟩ | ⟨hnone, -⟩
    · rw [hgiven.unique hgiven']
      exact ⟨_, hspells⟩
    · exact absurd hgiven (hnone v)
  · rintro ⟨hshape, htyped⟩
    -- every setting comes to something: what is given has its type, and the rest a default
    have hvalue : ∀ s : Setting, ∃ a, s.Reads t a := by
      intro s
      by_cases hgiven : ∃ v, s.Given t v
      · rcases hgiven with ⟨v, hgiven⟩
        rcases htyped s v hgiven with ⟨a, hspells⟩
        exact ⟨a, .inl ⟨v, hgiven, hspells⟩⟩
      · exact ⟨s.default, .inr ⟨not_exists.1 hgiven, rfl⟩⟩
    choose value hreads using hvalue
    refine ⟨ofSettings value, ofTable?_eq_some_iff.2 ⟨hshape, fun s => ?_⟩⟩
    rw [get_ofSettings]
    exact hreads s

/-! ## Documents that are read alike -/

/-- Two documents whose sections are as well shaped and whose settings come to the same. -/
structure Alike (t t' : Toml.Table) : Prop where
  shaped_iff : ∀ name ∈ sectionNames,
    SectionShaped (t.lookup name) ↔ SectionShaped (t'.lookup name)
  reads_iff : ∀ (s : Setting) (a : s.Value), s.Reads t a ↔ s.Reads t' a

theorem Alike.ofTable?_eq (h : Alike t t') : ofTable? t = ofTable? t' := by
  refine Option.ext fun c => ?_
  have hshape : WellShaped t ↔ WellShaped t' := forall₂_congr h.shaped_iff
  rw [ofTable?_eq_some_iff, ofTable?_eq_some_iff, hshape]
  exact and_congr_right fun _ => forall_congr' fun s => h.reads_iff s _

/-- Each section is the same, or one that nothing tells from it. -/
theorem Alike.of_sections (h : ∀ name ∈ sectionNames, t'.lookup name = t.lookup name ∨
    (SectionShaped (t.lookup name) ↔ SectionShaped (t'.lookup name)) ∧
      ∀ s : Setting, s.sectionName = name → ∀ a, s.Reads t a ↔ s.Reads t' a) : Alike t t' := by
  constructor
  · intro name hname
    rcases h name hname with hsame | ⟨hshape, -⟩
    · rw [hsame]
    · exact hshape
  · intro s a
    rcases h s.sectionName s.sectionName_mem with hsame | ⟨-, hreads⟩
    · refine Setting.takes_congr fun v => ?_
      unfold Setting.Given
      rw [hsame]
    · exact hreads s rfl a

/-! ## Tables with one more entry -/

section Lookup

variable {front back : Toml.Table}

theorem lookup_insert_of_ne (hkey : key ≠ name) :
    (front ++ (name, v) :: back).lookup key = (front ++ back).lookup key := by
  rw [List.lookup_append, List.lookup_append, List.lookup_cons, beq_false_of_ne hkey]

theorem lookup_middle (hfront : front.lookup name = none) :
    (front ++ (name, v) :: back).lookup name = some v := by
  rw [List.lookup_append, hfront, List.lookup_cons_self]
  rfl

theorem lookup_insert_self (hnew : (front ++ back).lookup name = none) :
    (front ++ (name, v) :: back).lookup name = some v := by
  rw [List.lookup_append, Option.or_eq_none_iff] at hnew
  exact lookup_middle hnew.1

theorem getElem?_concat_of_ne {items : List Toml.Value} {i : Nat} (hi : i ≠ items.length) :
    (items ++ [v])[i]? = items[i]? := by
  rcases Nat.lt_or_gt_of_ne hi with hlt | hgt
  · exact List.getElem?_append_left hlt
  · have hle : (items ++ [v]).length ≤ i := by
      rw [List.length_append]
      exact hgt
    rw [List.getElem?_eq_none hle, List.getElem?_eq_none (Nat.le_of_lt hgt)]

end Lookup

/-! ## Changes that are not noticed -/

/-- Changes of a section that leave its settings as they are: a key of no setting, a setting
at its default, by its key or as the last of an array, and the array of the settings that
are given, when these are the first ones. -/
inductive SectionEdit (name : String) : Toml.Value → Toml.Value → Prop
  | unknownKey {front back : Toml.Table} {key : String} {v : Toml.Value}
    (hkey : ∀ s : Setting, s.sectionName = name → s.key ≠ key) :
    SectionEdit name (.table (front ++ back)) (.table (front ++ (key, v) :: back))
  | default {front back : Toml.Table} {s : Setting} {v : Toml.Value}
    (hsection : s.sectionName = name) (hnew : (front ++ back).lookup s.key = none)
    (hv : s.Spells v s.default) :
    SectionEdit name (.table (front ++ back)) (.table (front ++ (s.key, v) :: back))
  | lastDefault {items : List Toml.Value} {s : Setting} {v : Toml.Value}
    (hsection : s.sectionName = name) (hposition : s.position = items.length)
    (hv : s.Spells v s.default) :
    SectionEdit name (.array items) (.array (items ++ [v]))
  | asArray {entries : Toml.Table} {items : List Toml.Value} {first rest : List Setting}
    (hfields : Setting.ofSection name = first ++ rest)
    (hfirst : first.map (fun s => entries.lookup s.key) = items.map some)
    (hrest : ∀ s ∈ rest, entries.lookup s.key = none) :
    SectionEdit name (.table entries) (.array items)

/-- Changes of a document that leave its settings as they are: a key that is not looked at,
a section whose settings have their defaults, and changes of one section. -/
inductive Edit : Toml.Table → Toml.Table → Prop
  | unknownKey {front back : Toml.Table} {key : String} {v : Toml.Value}
    (hkey : key ∉ sectionNames) : Edit (front ++ back) (front ++ (key, v) :: back)
  | defaultSection {front back : Toml.Table} {name : String} {v : Toml.Value}
    (hnew : (front ++ back).lookup name = none) (hsection : IsSection v)
    (hdefault : ∀ s : Setting, s.sectionName = name → ∀ w, Gives v s.key s.position w →
      s.Spells w s.default) : Edit (front ++ back) (front ++ (name, v) :: back)
  | inSection {front back : Toml.Table} {name : String} {v w : Toml.Value}
    (h : SectionEdit name v w) : Edit (front ++ (name, v) :: back) (front ++ (name, w) :: back)

/-- The array of the first settings gives each setting what the table gave it. -/
theorem getElem?_eq_lookup {entries : Toml.Table} {items : List Toml.Value} {s : Setting}
    {first rest : List Setting} (hfields : Setting.ofSection s.sectionName = first ++ rest)
    (hfirst : first.map (fun s => entries.lookup s.key) = items.map some)
    (hrest : ∀ s ∈ rest, entries.lookup s.key = none) :
    items[s.position]? = entries.lookup s.key := by
  have hs : (first ++ rest)[s.position]? = some s := hfields ▸ s.getElem?_ofSection
  have hlength : first.length = items.length := by simpa using congrArg List.length hfirst
  by_cases hposition : s.position < first.length
  · rw [List.getElem?_append_left hposition] at hs
    have hitem : some (entries.lookup s.key) = items[s.position]?.map some := by
      rw [← List.getElem?_map, ← hfirst, List.getElem?_map, hs]
      rfl
    rcases Option.map_eq_some_iff.1 hitem.symm with ⟨v, hv, hlookup⟩
    rw [hv, hlookup]
  · have hle : first.length ≤ s.position := Nat.le_of_not_lt hposition
    rw [List.getElem?_append_right hle] at hs
    rw [hrest s (List.mem_of_getElem? hs), List.getElem?_eq_none (hlength ▸ hle)]

theorem SectionEdit.isSection (h : SectionEdit name v w) : IsSection v ∧ IsSection w := by
  cases h <;> exact ⟨trivial, trivial⟩

/-- A table may give a setting its default. -/
theorem takes_insert_default {front back : Toml.Table} {s other : Setting} {a : s.Value}
    (hnew : (front ++ back).lookup other.key = none) (hv : other.Spells v other.default) :
    s.Takes (Gives (.table (front ++ back)) s.key s.position) a ↔
      s.Takes (Gives (.table (front ++ (other.key, v) :: back)) s.key s.position) a := by
  by_cases hs : s = other
  · subst hs
    refine Setting.takes_congr_of_default ?_ ?_
    · intro u hu
      rw [gives_table_iff, hnew] at hu
      cases hu
    · intro u hu
      rw [gives_table_iff, lookup_insert_self hnew] at hu
      exact Option.some.inj hu ▸ hv
  · have hkey : s.key ≠ other.key := fun hkey => hs (Setting.key_injective hkey)
    refine Setting.takes_congr fun u => ?_
    rw [gives_table_iff, gives_table_iff, lookup_insert_of_ne hkey]

/-- So may an array give it to the last setting that it gives. -/
theorem takes_concat_default {items : List Toml.Value} {s other : Setting} {a : s.Value}
    (hsection : other.sectionName = s.sectionName) (hposition : other.position = items.length)
    (hv : other.Spells v other.default) :
    s.Takes (Gives (.array items) s.key s.position) a ↔
      s.Takes (Gives (.array (items ++ [v])) s.key s.position) a := by
  by_cases hs : s = other
  · subst hs
    refine Setting.takes_congr_of_default ?_ ?_
    · intro u hu
      rw [gives_array_iff, hposition, List.getElem?_eq_none (Nat.le_refl _)] at hu
      cases hu
    · intro u hu
      rw [gives_array_iff, hposition, List.getElem?_concat_length] at hu
      exact Option.some.inj hu ▸ hv
  · have hne : s.position ≠ items.length := by
      intro heq
      -- two settings of one section have two positions
      have hsame := s.getElem?_ofSection
      rw [← hsection, heq, ← hposition, other.getElem?_ofSection] at hsame
      exact hs (Option.some.inj hsame).symm
    refine Setting.takes_congr fun u => ?_
    rw [gives_array_iff, gives_array_iff, getElem?_concat_of_ne hne]

theorem SectionEdit.takes_iff {s : Setting} {a : s.Value} (h : SectionEdit s.sectionName v w) :
    s.Takes (Gives v s.key s.position) a ↔ s.Takes (Gives w s.key s.position) a := by
  cases h with
  | unknownKey hkey =>
    refine Setting.takes_congr fun u => ?_
    rw [gives_table_iff, gives_table_iff, lookup_insert_of_ne (hkey s rfl)]
  | default _ hnew hv => exact takes_insert_default hnew hv
  | lastDefault hsection hposition hv => exact takes_concat_default hsection hposition hv
  | asArray hfields hfirst hrest =>
    refine Setting.takes_congr fun u => ?_
    rw [gives_table_iff, gives_array_iff, getElem?_eq_lookup hfields hfirst hrest]

/-- A change of one section is a change of the settings in it. -/
theorem SectionEdit.alike {front back : Toml.Table} (h : SectionEdit name v w)
    (hfront : front.lookup name = none) :
    (SectionShaped ((front ++ (name, v) :: back).lookup name) ↔
      SectionShaped ((front ++ (name, w) :: back).lookup name)) ∧
    ∀ s : Setting, s.sectionName = name → ∀ a,
      s.Reads (front ++ (name, v) :: back) a ↔ s.Reads (front ++ (name, w) :: back) a := by
  constructor
  · rw [lookup_middle hfront, lookup_middle hfront]
    exact iff_of_true (fun u hu => Option.some.inj hu ▸ h.isSection.1)
      fun u hu => Option.some.inj hu ▸ h.isSection.2
  · rintro s rfl a
    have hreads : ∀ u : Toml.Value, s.Reads (front ++ (s.sectionName, u) :: back) a ↔
        s.Takes (Gives u s.key s.position) a :=
      fun u => Setting.takes_congr fun _ => Setting.given_iff (lookup_middle hfront)
    rw [hreads v, hreads w]
    exact h.takes_iff

theorem Edit.alike (h : Edit t t') : Alike t t' := by
  refine Alike.of_sections fun name hname => ?_
  cases h with
  | unknownKey hkey =>
    left
    exact lookup_insert_of_ne fun heq => hkey (heq ▸ hname)
  | @defaultSection front back other v hnew hsection hdefault =>
    by_cases hother : name = other
    · subst hother
      right
      have hafter : (front ++ (name, v) :: back).lookup name = some v := lookup_insert_self hnew
      constructor
      · rw [hnew, hafter]
        exact iff_of_true nofun fun u hu => Option.some.inj hu ▸ hsection
      · rintro s rfl a
        refine Setting.takes_congr_of_default (fun w hw => absurd hw (Setting.not_given hnew)) ?_
        intro w hw
        exact hdefault s rfl w ((Setting.given_iff hafter).1 hw)
    · left
      exact lookup_insert_of_ne hother
  | @inSection front back other v w h =>
    by_cases hother : name = other
    · subst hother
      cases hfront : front.lookup name with
      | some u =>
        -- a key counts where it first stands, which is before the change
        left
        rw [List.lookup_append, List.lookup_append, hfront]
        rfl
      | none => exact .inr (h.alike hfront)
    · left
      rw [lookup_insert_of_ne hother, lookup_insert_of_ne hother]

/-- Changes that are not noticed, one after the other and in both directions. -/
theorem ofTable?_eq_of_edits (h : Relation.EqvGen Edit t t') : ofTable? t' = ofTable? t := by
  induction h with
  | rel t t' h => exact h.alike.ofTable?_eq.symm
  | refl t => rfl
  | symm t t' _ ih => exact ih.symm
  | trans t t' t'' _ _ ih ih' => exact ih'.trans ih

/-! ## Documents that say everything -/

/-- The document gives every setting of the configuration. A library that there is not can
only be left out. -/
def SpellsOut (t : Toml.Table) (c : Config) : Prop :=
  ∀ s : Setting, (∃ v, s.Given t v ∧ s.Spells v (c.get s)) ∨
    (s = .libName ∧ c.runtime.libName = none ∧ ∀ v, ¬ s.Given t v)

theorem SpellsOut.ofTable?_eq (h : SpellsOut t c) : ofTable? t = some c := by
  -- a section that gives anything has the shape of a section
  have hshaped : ∀ s : Setting, s ≠ .libName → SectionShaped (t.lookup s.sectionName) := by
    intro s hs v hv
    rcases h s with ⟨w, hgiven, -⟩ | ⟨heq, -⟩
    · exact ((Setting.given_iff hv).1 hgiven).isSection
    · exact absurd heq hs
  refine ofTable?_eq_some_iff.2 ⟨?_, ?_⟩
  · exact List.forall_mem_cons.2 ⟨hshaped .version (by decide),
      List.forall_mem_singleton.2 (hshaped .sourceName (by decide))⟩
  · intro s
    rcases h s with hgiven | ⟨rfl, hnone, hleft⟩
    · exact .inl hgiven
    · exact .inr ⟨hleft, hnone⟩

/-- A document that says everything. -/
def document (c : Config) : Toml.Table :=
  [("guile", .table ([("version", .string c.runtime.version),
      ("include_dirs", .array (c.runtime.includeDirs.map fun dir => .string dir.text))] ++
      c.runtime.libName.toList.map fun name => ("lib_name", .string name))),
    ("codegen", .table [("source_name", .string c.output.sourceName),
      ("header_name", .string c.output.headerName), ("emit_header", .boolean c.output.emitHeader)])]

theorem document_spellsOut (c : Config) : SpellsOut (document c) c := by
  rcases c with ⟨⟨version, includeDirs, libName⟩, output⟩
  intro s
  cases s with
  | version => exact .inl ⟨_, (Setting.given_iff rfl).2 (.byKey rfl), rfl⟩
  | includeDirs => exact .inl ⟨_, (Setting.given_iff rfl).2 (.byKey rfl), rfl⟩
  | libName =>
    cases libName with
    | none =>
      refine .inr ⟨rfl, rfl, fun v hv => ?_⟩
      have hlookup := gives_table_iff.1 ((Setting.given_iff rfl).1 hv)
      cases hlookup
    | some name => exact .inl ⟨_, (Setting.given_iff rfl).2 (.byKey rfl), name, rfl, rfl⟩
  | sourceName => exact .inl ⟨_, (Setting.given_iff rfl).2 (.byKey rfl), rfl⟩
  | headerName => exact .inl ⟨_, (Setting.given_iff rfl).2 (.byKey rfl), rfl⟩
  | emitHeader => exact .inl ⟨_, (Setting.given_iff rfl).2 (.byKey rfl), rfl⟩

/-- A text is read through its document, and of the document only the two sections count. It
is read when each section that is there is well shaped and each field that is given has its
type; each field is then the one that is given, or its own default. Changes that add a key
that is not looked at, leave out a default, or write the first fields of a section as an
array do not change the configuration, and a document that gives every field of a
configuration is read as that configuration. -/
theorem documents_read_field_by_field (t : Toml.Table) :
    (∀ text, parse? text = (Toml.parse? text).bind ofTable?) ∧
      (∀ t', (∀ name ∈ sectionNames, t'.lookup name = t.lookup name) →
        ofTable? t' = ofTable? t) ∧
      ((∃ c, ofTable? t = some c) ↔
        WellShaped t ∧ ∀ (s : Setting) (v : Toml.Value), s.Given t v → ∃ a, s.Spells v a) ∧
      (∀ c, ofTable? t = some c ↔ WellShaped t ∧ ∀ s : Setting, s.Reads t (c.get s)) ∧
      (∀ t', Relation.EqvGen Edit t t' → ofTable? t' = ofTable? t) ∧
      (∀ c, SpellsOut t c → ofTable? t = some c) ∧ ∀ c, SpellsOut (document c) c := by
  refine ⟨fun _ => rfl, ?_, exists_ofTable?_iff, fun c => ofTable?_eq_some_iff,
    fun t' => ofTable?_eq_of_edits, fun c => SpellsOut.ofTable?_eq, document_spellsOut⟩
  intro t' hsame
  exact (Alike.of_sections fun name hname => .inl (hsame name hname)).ofTable?_eq.symm

/-- A document with keys that are not looked at, and a section that is not needed. -/
def longForm : Toml.Table :=
  [("title", .integer 1), ("guile", .table [("version", .string "2.2"), ("width", .integer 80)]),
    ("codegen", .table [("emit_header", .boolean true)])]

/-- What is left of it. -/
def shortForm : Toml.Table := [("guile", .array [.string "2.2"])]

/-- The long form is read as the short one, the order of its sections does not matter, and a
configuration is read back from the document that says everything. -/
theorem documents_read_field_by_field_in_short_form :
    ofTable? longForm = ofTable? shortForm ∧ ofTable? longForm.reverse = ofTable? longForm ∧
      ofTable? shortForm = some { runtime := { version := "2.2" } } ∧
      ofTable? (document { runtime := { libName := some "guile" } }) =
        some { runtime := { libName := some "guile" } } := by
  rcases documents_read_field_by_field shortForm with ⟨-, -, -, -, hedits, -⟩
  rcases documents_read_field_by_field longForm with ⟨-, hlookup, -⟩
  rcases documents_read_field_by_field (document { runtime := { libName := some "guile" } }) with
    ⟨-, -, -, -, -, hspelled, hdocument⟩
  -- the long form loses the title, the section of defaults and the width, and then its keys
  have htitle : Edit (longForm.drop 1) longForm :=
    @Edit.unknownKey [] _ "title" (.integer 1) (by decide)
  have hcodegen : Edit ((longForm.drop 1).take 1) (longForm.drop 1) := by
    refine @Edit.defaultSection ((longForm.drop 1).take 1) [] "codegen" _ rfl trivial ?_
    intro s hs w hw
    have hgiven := gives_table_iff.1 hw
    cases s with
    | emitHeader =>
      cases hgiven
      rfl
    | sourceName => cases hgiven
    | headerName => cases hgiven
    | _ => exact absurd hs (by decide)
  have hwidth : Edit [("guile", .table [("version", .string "2.2")])]
      ((longForm.drop 1).take 1) := by
    refine @Edit.inSection [] [] "guile" _ _ ?_
    refine @SectionEdit.unknownKey "guile" [("version", .string "2.2")] [] "width" (.integer 80) ?_
    intro s _
    cases s <;> decide
  have harray : Edit [("guile", .table [("version", .string "2.2")])] shortForm := by
    refine @Edit.inSection [] [] "guile" _ _ ?_
    exact @SectionEdit.asArray "guile" _ _ [.version] [.includeDirs, .libName] rfl rfl (by decide)
  have hchain : Relation.EqvGen Edit shortForm longForm :=
    .trans _ _ _ (.symm _ _ (.rel _ _ harray)) (.trans _ _ _ (.rel _ _ hwidth)
      (.trans _ _ _ (.rel _ _ hcodegen) (.rel _ _ htitle)))
  have hsame : ∀ name ∈ sectionNames, longForm.reverse.lookup name = longForm.lookup name :=
    List.forall_mem_cons.2 ⟨rfl, List.forall_mem_singleton.2 rfl⟩
  exact ⟨hedits _ hchain, hlookup _ hsame, rfl, hspelled _ (hdocument _)⟩

end ProxyForge.Config
