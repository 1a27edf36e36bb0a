import ProxyForge.CommandLine.Options
import Mathlib.Tactic.Common

/-!
# ProxyForge.Proofs.CommandLine.Arguments — the last one counts

`Options.groups` cuts the arguments into options and commands. `Options.Given` says which
options these stand for: the last command, the last file of each kind, and JSON if it is
asked for anywhere. `parse_eq_ok_iff` says that parsing gives exactly these.
-/

namespace ProxyForge.Options

namespace Group

/-- The command of a group. -/
def command? : Group → Option Command
  | .command c => some c
  | _ => none

/-- The configuration file of a group. -/
def config? : Group → Option Path
  | .config file => some ⟨file⟩
  | _ => none

/-- The output file of a group. -/
def out? : Group → Option Path
  | .out file => some ⟨file⟩
  | _ => none

end Group

/-- The arguments are made up of groups, and the options are the last of each kind. -/
def Given (args : List String) (o : Options) : Prop :=
  ∃ gs, groups args = .ok gs ∧ (gs.filterMap Group.command?).getLast? = some o.command ∧
    (gs.filterMap Group.config?).getLast? = o.config ∧
    (gs.filterMap Group.out?).getLast? = o.out ∧ (o.json = true ↔ .json ∈ gs)

/-- What groups add to a draft. -/
theorem foldl_add (gs : List Group) (d : Draft) :
    gs.foldl Draft.add d =
      { command := (gs.filterMap Group.command?).getLast?.or d.command
        config := (gs.filterMap Group.config?).getLast?.or d.config
        out := (gs.filterMap Group.out?).getLast?.or d.out
        json := d.json || gs.contains .json } := by
  induction gs generalizing d with
  | nil => simp
  | cons g gs ih =>
    rw [List.foldl_cons, ih]
    cases g <;> simp [Draft.add, Group.command?, Group.config?, Group.out?, List.getLast?_cons]

theorem parse_of_groups {args : List String} {gs : List Group} (hgs : groups args = .ok gs) :
    parse args =
      match (gs.filterMap Group.command?).getLast? with
      | none => .error .noCommand
      | some command =>
        .ok { command
              config := (gs.filterMap Group.config?).getLast?
              out := (gs.filterMap Group.out?).getLast?
              json := gs.contains .json } := by
  have hdraft := foldl_add gs {}
  simp only [Option.or_none, Bool.false_or] at hdraft
  unfold parse
  rw [hgs]
  show (match (gs.foldl Draft.add {}).command with
    | none => _
    | some command => _) = _
  rw [hdraft]
  cases (gs.filterMap Group.command?).getLast? <;> rfl

/-- Parsing gives the options that the arguments stand for, and refuses all others. -/
theorem parse_eq_ok_iff {args : List String} {o : Options} : parse args = .ok o ↔ Given args o := by
  constructor
  · intro h
    cases hgroups : groups args with
    | error e =>
      rw [parse, hgroups] at h
      cases h
    | ok gs =>
      rw [parse_of_groups hgroups] at h
      refine ⟨gs, hgroups, ?_⟩
      cases hcommand : (gs.filterMap Group.command?).getLast? with
      | none =>
        rw [hcommand] at h
        cases h
      | some command =>
        rw [hcommand] at h
        cases h
        exact ⟨rfl, rfl, rfl, by simp⟩
  · rintro ⟨gs, hgs, hcommand, hconfig, hout, hjson⟩
    rw [parse_of_groups hgs, hcommand, hconfig, hout]
    have hjson' : gs.contains .json = o.json := by
      rw [Bool.eq_iff_iff, hjson, List.contains_iff_mem]
    rw [hjson']

end ProxyForge.Options
