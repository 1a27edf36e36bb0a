import ProxyForge.Artifacts
import ProxyForge.Proofs.Files.Writing

/-!
# ProxyForge.Proofs.Artifacts — what is left of a written table

`Artifacts.Ending` lists the five ways in which `writeArtifacts` can end, each with the
tree that is left. The system may refuse any write for reasons of its own.

A run that succeeds leaves the header in its file, and the source in its own unless that
is the same file (`written_files_hold_texts`). A run that fails leaves the source at most
(`failed_run_leaves_source_at_most`).
-/

namespace ProxyForge

/-! ## Tables without a source -/

/-- Only entries with more arguments than parameter names have no definition. -/
theorem Primitive.definition?_eq_none_iff {p : Primitive} :
    p.definition? = none ↔ 2 < p.arity := by
  have hlength : CText.paramNames.length = 2 := rfl
  rw [definition?, Option.map_eq_none_iff, expression?, hlength]
  by_cases hconstant : p.isConstant = true
  · have harity : p.arity = 0 := by
      rw [arity, List.isEmpty_iff.1 hconstant, List.length_nil]
    simp [hconstant, harity]
  · by_cases harity : p.arity ≤ 2
    · simp [hconstant, harity]
    · simp [hconstant, harity, Nat.lt_of_not_le harity]

namespace Registry

variable {r : Registry}

theorem source?_eq_none_iff : r.source? = none ↔ ∃ p ∈ r, 2 < p.arity := by
  have hdefinitions : r.definitions? = none ↔ ∃ p ∈ r, 2 < p.arity := by
    induction r with
    | nil => simp [definitions?]
    | cons p rest ih =>
      simp only [List.mem_cons, exists_eq_or_imp]
      rw [← ih, ← Primitive.definition?_eq_none_iff, definitions?]
      cases p.definition? <;> cases definitions? rest <;> simp
  rw [source?, Option.map_eq_none_iff, hdefinitions]

/-- The source goes on with `#include` where the header has its guard. -/
theorem source?_ne_header {text : String} (htext : r.source? = some text) (headerName : String) :
    text ≠ r.header headerName := by
  rcases Option.map_eq_some_iff.1 htext with ⟨definitions, -, rfl⟩
  intro heq
  have hheader : ∃ rest, r.header headerName = CText.banner ++ ("#ifndef " ++ rest) := by
    delta header
    simp only [String.append_assoc]
    exact ⟨_, rfl⟩
  rcases hheader with ⟨rest, hheader⟩
  rw [hheader, String.append_assoc, ← String.toList_inj] at heq
  simp only [String.toList_append, List.append_cancel_left_eq] at heq
  cases heq

end Registry

/-! ## Runs -/

namespace OutputSettings

/-- The path of the source. -/
def sourcePath (settings : OutputSettings) (outDir : Path) : Path :=
  outDir.join ⟨settings.sourceName⟩

/-- The path of the header. -/
def headerPath (settings : OutputSettings) (outDir : Path) : Path :=
  outDir.join ⟨settings.headerName⟩

/-- The path of the header, if there is to be one. -/
def headerPath? (settings : OutputSettings) (outDir : Path) : Option Path :=
  if settings.emitHeader then some (settings.headerPath outDir) else none

end OutputSettings

open FileTree

/-- What becomes of writing the files of a table on a tree, and the tree that is left. -/
def writeArtifactsUnder (refuse : Refusals) (outDir : Path) (r : Registry)
    (settings : OutputSettings) (t : FileTree) : Except ArtifactError Artifacts × FileTree :=
  ((writeArtifacts outDir r settings : Guarded (Except ArtifactError Artifacts)).run refuse).run t

variable {refuse : Refusals} {outDir : Path} {r : Registry} {settings : OutputSettings}
  {t t' : FileTree} {e : OsError}

/-- A system that refuses nothing leaves it to the tree which writes fail. -/
theorem writeArtifactsUnder_none (outDir : Path) (r : Registry) (settings : OutputSettings)
    (t : FileTree) :
    writeArtifactsUnder (fun _ _ _ => none) outDir r settings t =
      (writeArtifacts outDir r settings : StateM FileTree _).run t := by
  unfold writeArtifactsUnder writeArtifacts
  cases r.source? with
  | none => rfl
  | some text =>
    -- both runs go through the same two writes
    simp only
    rw [guarded_run_bind, guarded_run_write, run_bind, run_write, writeUnder_none]
    cases t.write (outDir.join ⟨settings.sourceName⟩) text with
    | error e => rfl
    | ok t' =>
      cases settings.emitHeader with
      | false => rfl
      | true =>
        simp only [if_true]
        rw [guarded_run_bind, guarded_run_write, run_bind, run_write, writeUnder_none]
        cases t'.write (outDir.join ⟨settings.headerName⟩) (r.header settings.headerName) <;> rfl

namespace Artifacts

/-- The ways in which writing the files of a table can end, with the tree that is left. -/
inductive Ending (refuse : Refusals) (outDir : Path) (r : Registry) (settings : OutputSettings)
    (t : FileTree) : Except ArtifactError Artifacts × FileTree → Prop
  | noSource (hnone : r.source? = none) :
      Ending refuse outDir r settings t (.error .noDefinition, t)
  | sourceRefused {text : String} {e : OsError} (htext : r.source? = some text)
      (hsource : t.writeUnder refuse (settings.sourcePath outDir) text = .error e) :
      Ending refuse outDir r settings t (.error (.os e), t)
  | sourceAlone {text : String} {t' : FileTree} (htext : r.source? = some text)
      (hsource : t.writeUnder refuse (settings.sourcePath outDir) text = .ok t')
      (hheader : settings.emitHeader = false) :
      Ending refuse outDir r settings t
        (.ok { source := settings.sourcePath outDir, header := none }, t')
  | headerRefused {text : String} {t' : FileTree} {e : OsError} (htext : r.source? = some text)
      (hsource : t.writeUnder refuse (settings.sourcePath outDir) text = .ok t')
      (hheader : settings.emitHeader = true)
      (hrefused : t'.writeUnder refuse (settings.headerPath outDir)
        (r.header settings.headerName) = .error e) :
      Ending refuse outDir r settings t (.error (.os e), t')
  | both {text : String} {t' t'' : FileTree} (htext : r.source? = some text)
      (hsource : t.writeUnder refuse (settings.sourcePath outDir) text = .ok t')
      (hheader : settings.emitHeader = true)
      (hwritten : t'.writeUnder refuse (settings.headerPath outDir)
        (r.header settings.headerName) = .ok t'') :
      Ending refuse outDir r settings t
        (.ok { source := settings.sourcePath outDir,
               header := some (settings.headerPath outDir) }, t'')

/-- Every run has one of these endings. -/
theorem ending (refuse : Refusals) (outDir : Path) (r : Registry) (settings : OutputSettings)
    (t : FileTree) :
    Ending refuse outDir r settings t (writeArtifactsUnder refuse outDir r settings t) := by
  have hsourcePath : outDir.join ⟨settings.sourceName⟩ = settings.sourcePath outDir := rfl
  have hheaderPath : outDir.join ⟨settings.headerName⟩ = settings.headerPath outDir := rfl
  unfold writeArtifactsUnder writeArtifacts
  rw [hsourcePath, hheaderPath]
  cases htext : r.source? with
  | none => exact .noSource htext
  | some text =>
    simp only
    rw [guarded_run_bind, guarded_run_write]
    cases hsource : t.writeUnder refuse (settings.sourcePath outDir) text with
    | error e => exact .sourceRefused htext hsource
    | ok t' =>
      cases hheader : settings.emitHeader with
      | false => exact .sourceAlone htext hsource hheader
      | true =>
        simp only [if_true]
        rw [guarded_run_bind, guarded_run_write]
        cases hwritten : t'.writeUnder refuse (settings.headerPath outDir)
            (r.header settings.headerName) with
        | error e => exact .headerRefused htext hsource hheader hwritten
        | ok t'' => exact .both htext hsource hheader hwritten

/-- An ending whose conditions hold is the one that the run has. -/
theorem Ending.run_eq {run : Except ArtifactError Artifacts × FileTree}
    (hrun : Ending refuse outDir r settings t run) :
    writeArtifactsUnder refuse outDir r settings t = run := by
  have hending := ending refuse outDir r settings t
  generalize writeArtifactsUnder refuse outDir r settings t = actual at hending ⊢
  -- the conditions of any two endings contradict each other
  cases hrun <;> cases hending <;> simp_all

/-! ## What is there afterwards -/

/-- After both writes the header is read back, and so is the source unless the header went
into the same file. No other file has changed. -/
theorem texts_of_both {text : String} {t'' : FileTree} (htext : r.source? = some text)
    (hsource : t.writeUnder refuse (settings.sourcePath outDir) text = .ok t')
    (hwritten : t'.writeUnder refuse (settings.headerPath outDir)
      (r.header settings.headerName) = .ok t'') :
    t''.read (settings.headerPath outDir) = .ok (r.header settings.headerName).toUTF8 ∧
    (t''.read (settings.sourcePath outDir) = .ok text.toUTF8 ↔
      t.target (settings.headerPath outDir) ≠ t.target (settings.sourcePath outDir)) ∧
    SameDirs t t'' ∧
    ∀ p, t.target p ≠ t.target (settings.sourcePath outDir) →
      t.target p ≠ t.target (settings.headerPath outDir) →
      ∀ content, t''.read p = .ok content ↔ t.read p = .ok content := by
  have hfirst : Replaced t t' (settings.sourcePath outDir) text :=
    replaced_of_write (write_of_writeUnder hsource)
  have hsecond : Replaced t' t'' (settings.headerPath outDir) (r.header settings.headerName) :=
    replaced_of_write (write_of_writeUnder hwritten)
  have hdirs : SameDirs t t'' := hfirst.sameDirs.trans hsecond.sameDirs
  rcases hfirst.node?_eq with ⟨place, htarget, -⟩
  rcases hsecond.node?_eq with ⟨headerPlace, hheaderTarget', -⟩
  have hheaderTarget : t.target (settings.headerPath outDir) = .ok headerPlace :=
    hfirst.sameDirs.target_iff.1 hheaderTarget'
  refine ⟨hsecond.read_eq, ?_, hdirs, ?_⟩
  · constructor
    · -- one file would have to hold both texts
      intro hread hsame
      have hboth := (read_congr ((hdirs.target_eq_iff htarget).2 hsame)).1 hsecond.read_eq
      rw [hread] at hboth
      exact Registry.source?_ne_header htext _ (String.toByteArray_inj.1 (Except.ok.inj hboth))
    · intro hne
      rw [hsecond.read_iff, hfirst.read_eq]
      intro hsame
      exact hne ((hfirst.sameDirs.target_eq_iff htarget).1 hsame.symm)
  · intro p hsourceNe hheaderNe content
    have hne : t'.target p ≠ t'.target (settings.headerPath outDir) := by
      intro hsame
      exact hheaderNe ((hfirst.sameDirs.target_eq_iff hheaderTarget).1 hsame)
    rw [hsecond.read_iff hne, hfirst.read_iff hsourceNe]

/-! ## Failures -/

/-- The source cannot be written. -/
def SourceFails (refuse : Refusals) (outDir : Path) (r : Registry) (settings : OutputSettings)
    (t : FileTree) (e : OsError) : Prop :=
  ∃ text, r.source? = some text ∧
    t.writeUnder refuse (settings.sourcePath outDir) text = .error e

/-- The header is asked for and cannot be written once the source is there. -/
def HeaderFails (refuse : Refusals) (outDir : Path) (r : Registry) (settings : OutputSettings)
    (t : FileTree) (e : OsError) : Prop :=
  settings.emitHeader = true ∧ ∃ text t', r.source? = some text ∧
    t.writeUnder refuse (settings.sourcePath outDir) text = .ok t' ∧
    t'.writeUnder refuse (settings.headerPath outDir) (r.header settings.headerName) = .error e

/-- A table without a source stops a run before it writes anything. -/
theorem run_of_noSource (hnone : r.source? = none) :
    writeArtifactsUnder refuse outDir r settings t = (.error .noDefinition, t) :=
  (Ending.noSource hnone).run_eq

/-- A source that cannot be written stops a run before it has written anything. -/
theorem run_of_sourceFails (hfails : SourceFails refuse outDir r settings t e) :
    writeArtifactsUnder refuse outDir r settings t = (.error (.os e), t) := by
  rcases hfails with ⟨text, htext, hsource⟩
  exact (Ending.sourceRefused htext hsource).run_eq

/-- A header that cannot be written leaves the source behind. -/
theorem run_of_headerFails (hfails : HeaderFails refuse outDir r settings t e) :
    ∃ text t', r.source? = some text ∧ Replaced t t' (settings.sourcePath outDir) text ∧
      writeArtifactsUnder refuse outDir r settings t = (.error (.os e), t') := by
  rcases hfails with ⟨hheader, text, t', htext, hsource, hrefused⟩
  exact ⟨text, t', htext, replaced_of_write (write_of_writeUnder hsource),
    (Ending.headerRefused htext hsource hheader hrefused).run_eq⟩

/-- Any error but those of the system means that there is no source. -/
theorem error_noDefinition_iff :
    (writeArtifactsUnder refuse outDir r settings t).1 = .error .noDefinition ↔
      r.source? = none := by
  constructor
  · have hending := ending refuse outDir r settings t
    generalize writeArtifactsUnder refuse outDir r settings t = run at hending
    intro hrun
    cases hending with
    | noSource hnone => exact hnone
    | _ => cases hrun
  · intro hnone
    rw [run_of_noSource hnone]

/-- The errors of the system are those of the two writes. -/
theorem error_os_iff :
    (writeArtifactsUnder refuse outDir r settings t).1 = .error (.os e) ↔
      SourceFails refuse outDir r settings t e ∨ HeaderFails refuse outDir r settings t e := by
  constructor
  · have hending := ending refuse outDir r settings t
    generalize writeArtifactsUnder refuse outDir r settings t = run at hending
    intro hrun
    cases hending with
    | sourceRefused htext hsource =>
      cases hrun
      exact .inl ⟨_, htext, hsource⟩
    | headerRefused htext hsource hheader hrefused =>
      cases hrun
      exact .inr ⟨hheader, _, _, htext, hsource, hrefused⟩
    | _ => cases hrun
  · rintro (hfails | hfails)
    · rw [run_of_sourceFails hfails]
    · rcases run_of_headerFails hfails with ⟨_, _, -, -, hrun⟩
      rw [hrun]

/-- Where no header is asked for, at most the source is written. -/
theorem tree_of_no_header (hheader : settings.emitHeader = false) :
    (writeArtifactsUnder refuse outDir r settings t).2 = t ∨
      ∃ text, r.source? = some text ∧ Replaced t (writeArtifactsUnder refuse outDir r settings t).2
        (settings.sourcePath outDir) text := by
  have hending := ending refuse outDir r settings t
  generalize writeArtifactsUnder refuse outDir r settings t = run at hending ⊢
  cases hending with
  | noSource => exact .inl rfl
  | sourceRefused => exact .inl rfl
  | sourceAlone htext hsource =>
    exact .inr ⟨_, htext, replaced_of_write (write_of_writeUnder hsource)⟩
  | headerRefused _ _ hon => simp [hheader] at hon
  | both _ _ hon => simp [hheader] at hon

/-- Where no header is asked for, its name is not looked at. -/
theorem run_headerName (hheader : settings.emitHeader = false) (headerName : String) :
    writeArtifactsUnder refuse outDir r { settings with headerName } t =
      writeArtifactsUnder refuse outDir r settings t := by
  unfold writeArtifactsUnder writeArtifacts
  simp only [hheader]
  rfl

end Artifacts

/-- When the files of a table were written, they are the ones that the settings name, the
header is in its file, and no file has changed but these. The source is in its file just
when the header did not go into the same one, which no check prevents. -/
theorem written_files_hold_texts (refuse : Refusals) (outDir : Path) (r : Registry)
    (settings : OutputSettings) (t : FileTree) {artifacts : Artifacts} {t' : FileTree}
    (hrun : writeArtifactsUnder refuse outDir r settings t = (.ok artifacts, t')) :
    ∃ text, r.source? = some text ∧
      artifacts.source = settings.sourcePath outDir ∧
      artifacts.header = settings.headerPath? outDir ∧
      (∀ header, artifacts.header = some header →
        t'.read header = .ok (r.header settings.headerName).toUTF8) ∧
      (t'.read artifacts.source = .ok text.toUTF8 ↔
        ∀ header, artifacts.header = some header → t.target header ≠ t.target artifacts.source) ∧
      SameDirs t t' ∧
      ∀ p, t.target p ≠ t.target artifacts.source →
        (∀ header, artifacts.header = some header → t.target p ≠ t.target header) →
        ∀ content, t'.read p = .ok content ↔ t.read p = .ok content := by
  have hending := Artifacts.ending refuse outDir r settings t
  rw [hrun] at hending
  cases hending with
  | sourceAlone htext hsource hheader =>
    have hreplaced := replaced_of_write (write_of_writeUnder hsource)
    refine ⟨_, htext, rfl, ?_, nofun, ?_, hreplaced.sameDirs, ?_⟩
    · simp [OutputSettings.headerPath?, hheader]
    · exact iff_of_true hreplaced.read_eq nofun
    · intro p hne _ content
      exact hreplaced.read_iff hne
  | both htext hsource hheader hwritten =>
    rcases Artifacts.texts_of_both htext hsource hwritten with
      ⟨hheaderRead, hsourceRead, hdirs, hothers⟩
    refine ⟨_, htext, rfl, ?_, ?_, ?_, hdirs, ?_⟩
    · simp [OutputSettings.headerPath?, hheader]
    · rintro _ ⟨⟩
      exact hheaderRead
    · rw [hsourceRead]
      simp
    · intro p hsourceNe hheaderNe
      exact hothers p hsourceNe (hheaderNe _ rfl)

/-- A directory for the files of a table, with another directory and two files in it. -/
def yard : FileTree :=
  { workingDir := ["w"],
    nodes := [(["w"], .directory), (["w", "out"], .directory), (["w", "out", "gen"], .directory),
      (["w", "out", "a"], .file "a".toUTF8), (["w", "out", "b"], .file "b".toUTF8)] }

/-- A table of one constant. -/
def oneConstant : Registry := [Registry.constantEntry "SCM_EOL" "eol"]

/-- The source takes the place of a file to which its name leads in a roundabout way, the
header is a new file, and the other file is left alone. -/
theorem written_files_hold_texts_in_yard :
    ∃ artifacts t' text, writeArtifactsUnder (fun _ _ _ => none) ⟨"out"⟩ oneConstant
        { sourceName := "gen/../a", headerName := "gen/./a.h" } yard = (.ok artifacts, t') ∧
      oneConstant.source? = some text ∧ t'.read artifacts.source = .ok text.toUTF8 ∧
      t'.read ⟨"out/gen/a.h"⟩ = .ok (oneConstant.header "gen/./a.h").toUTF8 ∧
      t'.read ⟨"out/b"⟩ = .ok "b".toUTF8 := by
  have hrun : ∃ artifacts t', writeArtifactsUnder (fun _ _ _ => none) ⟨"out"⟩ oneConstant
      { sourceName := "gen/../a", headerName := "gen/./a.h" } yard = (.ok artifacts, t') :=
    ⟨_, _, rfl⟩
  rcases hrun with ⟨artifacts, t', hrun⟩
  rcases written_files_hold_texts _ _ _ _ _ hrun with
    ⟨text, htext, hsource, hheader, hheaderRead, hsourceRead, hdirs, hothers⟩
  have hheaderPath : artifacts.header = some ⟨"out/gen/./a.h"⟩ := hheader.trans (by decide +kernel)
  have hsourcePath : artifacts.source = ⟨"out/gen/../a"⟩ := hsource.trans (by decide +kernel)
  have hsourceTarget : yard.target artifacts.source = .ok ["w", "out", "a"] := by
    rw [hsourcePath]
    decide +kernel
  have hheaderTarget : yard.target ⟨"out/gen/./a.h"⟩ = .ok ["w", "out", "gen", "a.h"] := by
    decide +kernel
  have hotherTarget : yard.target ⟨"out/b"⟩ = .ok ["w", "out", "b"] := by decide +kernel
  have hshort : yard.target ⟨"out/gen/a.h"⟩ = yard.target ⟨"out/gen/./a.h"⟩ := by decide +kernel
  refine ⟨artifacts, t', text, hrun, htext, hsourceRead.2 ?_, ?_, (hothers _ ?_ ?_ _).2 ?_⟩
  · intro header hsome
    cases hheaderPath.symm.trans hsome
    rw [hheaderTarget, hsourceTarget]
    decide
  · rw [read_congr ((hdirs.target_eq_iff hheaderTarget).2 hshort)]
    exact hheaderRead _ hheaderPath
  · rw [hotherTarget, hsourceTarget]
    decide
  · intro header hsome
    cases hheaderPath.symm.trans hsome
    rw [hotherTarget, hheaderTarget]
    decide
  · decide +kernel

/-- With one name for both files the run succeeds, and the file that it says is the source
holds the header. -/
theorem header_takes_place_of_source :
    ∃ artifacts t' text, (writeArtifacts ⟨"out"⟩ oneConstant
        { sourceName := "x.c", headerName := "x.c" } :
          StateM FileTree (Except ArtifactError Artifacts)).run yard = (.ok artifacts, t') ∧
      oneConstant.source? = some text ∧
      t'.read artifacts.source = .ok (oneConstant.header "x.c").toUTF8 ∧
      t'.read artifacts.source ≠ .ok text.toUTF8 := by
  have htarget : yard.target ⟨"out/x.c"⟩ = .ok ["w", "out", "x.c"] := by decide +kernel
  -- the second write goes where the first one went
  have hagain : ∀ content,
      (yard.put ["w", "out", "x.c"] (.file content)).target ⟨"out/x.c"⟩ = .ok ["w", "out", "x.c"] :=
    fun content => (sameDirs_put htarget).target_iff.2 htarget
  refine ⟨_, _, _, rfl, rfl, read_write (hagain _), ?_⟩
  intro hsame
  have heq := (read_write (hagain _)).symm.trans hsame
  exact Registry.source?_ne_header rfl "x.c" (String.toByteArray_inj.1 (Except.ok.inj heq)).symm

/-- Whatever makes a run fail, it leaves no more than the source behind. A table with an
entry that has no definition, and no other table, stops it before it writes; the first
write that fails stops it with its cause, and what was written before it is the source if
it was the header's. A header that is not asked for is neither written nor a cause of
failure. -/
theorem failed_run_leaves_source_at_most (refuse : Refusals) (outDir : Path) (r : Registry)
    (settings : OutputSettings) (t : FileTree) :
    ∃ result t', writeArtifactsUnder refuse outDir r settings t = (result, t') ∧
      (result = .error .noDefinition ↔ ∃ p ∈ r, 2 < p.arity) ∧
      ((∃ p ∈ r, 2 < p.arity) → t' = t) ∧
      (∀ e, result = .error (.os e) ↔ Artifacts.SourceFails refuse outDir r settings t e ∨
        Artifacts.HeaderFails refuse outDir r settings t e) ∧
      (∀ e, Artifacts.SourceFails refuse outDir r settings t e → t' = t) ∧
      (∀ e, Artifacts.HeaderFails refuse outDir r settings t e → ∃ text, r.source? = some text ∧
        Replaced t t' (settings.sourcePath outDir) text) ∧
      (settings.emitHeader = false →
        (∀ e, result = .error (.os e) ↔ Artifacts.SourceFails refuse outDir r settings t e) ∧
        (t' = t ∨ ∃ text, r.source? = some text ∧
          Replaced t t' (settings.sourcePath outDir) text) ∧
        ∀ headerName,
          writeArtifactsUnder refuse outDir r { settings with headerName } t = (result, t')) := by
  rw [← Registry.source?_eq_none_iff]
  refine ⟨(writeArtifactsUnder refuse outDir r settings t).1,
    (writeArtifactsUnder refuse outDir r settings t).2, rfl, Artifacts.error_noDefinition_iff, ?_,
    fun e => Artifacts.error_os_iff, ?_, ?_, ?_⟩
  · intro hnone
    rw [Artifacts.run_of_noSource hnone]
  · intro e hfails
    rw [Artifacts.run_of_sourceFails hfails]
  · intro e hfails
    rcases Artifacts.run_of_headerFails hfails with ⟨text, t', htext, hreplaced, hrun⟩
    rw [hrun]
    exact ⟨text, htext, hreplaced⟩
  · intro hheader
    refine ⟨?_, Artifacts.tree_of_no_header hheader, Artifacts.run_headerName hheader⟩
    intro e
    rw [Artifacts.error_os_iff]
    refine or_iff_left ?_
    rintro ⟨hon, -⟩
    rw [hheader] at hon
    cases hon

/-- A system in which a file of the directory must not be written. -/
def lockedYard : Refusals := fun _ p _ =>
  if p = ⟨"out/b"⟩ then some (.other 13 "PermissionDenied" "Permission denied") else none

/-- A table of one entry with three arguments. -/
def oneWide : Registry :=
  [{ name := "scm_list_3", method := "list_3", args := [.value, .value, .value], ret := .value }]

/-- Rights that are missing for the header leave the source behind; and a table with an
entry of three arguments leaves everything as it was. -/
theorem failed_run_leaves_source_at_most_in_locked_yard :
    (∃ e t' text, writeArtifactsUnder lockedYard ⟨"out"⟩ oneConstant
        { sourceName := "a", headerName := "b" } yard = (.error (.os e), t') ∧
      oneConstant.source? = some text ∧ Replaced yard t' ⟨"out/a"⟩ text) ∧
    writeArtifactsUnder lockedYard ⟨"out"⟩ oneWide {} yard = (.error .noDefinition, yard) := by
  constructor
  · rcases failed_run_leaves_source_at_most lockedYard ⟨"out"⟩ oneConstant
      { sourceName := "a", headerName := "b" } yard with ⟨result, t', hrun, -, -, hos, -, hleft, -⟩
    have htarget : yard.target ⟨"out/a"⟩ = .ok ["w", "out", "a"] := by decide +kernel
    have hfails : Artifacts.HeaderFails lockedYard ⟨"out"⟩ oneConstant
        { sourceName := "a", headerName := "b" } yard
        (.other 13 "PermissionDenied" "Permission denied") :=
      ⟨rfl, _, _, rfl, write_of_target htarget, rfl⟩
    rw [(hos _).2 (.inr hfails)] at hrun
    rcases hleft _ hfails with ⟨text, htext, hreplaced⟩
    exact ⟨_, t', text, hrun, htext, hreplaced⟩
  · rcases failed_run_leaves_source_at_most lockedYard ⟨"out"⟩ oneWide {} yard with
      ⟨result, t', hrun, hwide, htree, -⟩
    have hthree : ∃ p ∈ oneWide, 2 < p.arity := by decide
    rw [hrun, hwide.2 hthree, htree hthree]

end ProxyForge
