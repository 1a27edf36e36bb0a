import ProxyForge.Proofs.CommandLine.Arguments

/-!
# ProxyForge.Proofs.CommandLine.Grammar — arguments as groups

`Group.Spelling` lists the ways to write a group, and `Splits` cuts arguments from left to
right into groups. What a group takes can be any token, so that only the position of a
token says what it means. `groups` finds the groups if there are any (`groups_of_splits`),
and else stops at the first token that begins none (`groups_cases`).

What the groups stand for is the last of each kind, so that only groups of one kind have
an order that counts (`parse_append_of_reordered`).
-/

namespace ProxyForge.Options

/-- The tokens of a group. What it takes can be any token, also one that looks like an
option or a command. -/
inductive Group.Spelling : Group → List String → Prop
  | json : Spelling .json ["--json"]
  | config (file : String) : Spelling (.config file) ["--config", file]
  | outLong (file : String) : Spelling (.out file) ["--out", file]
  | outShort (file : String) : Spelling (.out file) ["-o", file]
  | list : Spelling (.command .list) ["list"]
  | emitSource : Spelling (.command .emitSource) ["emit-c"]
  | emitHeader : Spelling (.command .emitHeader) ["emit-header"]
  | check : Spelling (.command .check) ["check"]
  | describe (name : String) : Spelling (.command (.describe name)) ["show", name]

/-- Arguments split from left to right into groups. -/
inductive Splits : List String → List Group → Prop
  | nil : Splits [] []
  | cons {g : Group} {gs : List Group} {tokens rest : List String} (hg : g.Spelling tokens)
      (hrest : Splits rest gs) : Splits (tokens ++ rest) (g :: gs)

/-- Arguments begin with a group. -/
def Starts (args : List String) : Prop :=
  ∃ (g : Group) (tokens rest : List String), g.Spelling tokens ∧ args = tokens ++ rest

/-- What a token is answered with where a group is due and it begins none. -/
def complaint (program token : String) : String :=
  if token = "--help" ∨ token = "-h" then usage program
  else if token = "--config" then "--config needs a file"
  else if token = "--out" ∨ token = "-o" then "--out needs a file"
  else if token = "show" then "show needs a primitive name"
  else "Unknown argument: " ++ token ++ "\n\n" ++ usage program

variable {args args' rest done tokens : List String} {g : Group} {gs gs' : List Group}
  {token : String} {e : UsageError}

/-! ## One token -/

/-- A token that is a group by itself. -/
theorem spelling_of_whole (htoken : Head.ofToken token = .whole g) : g.Spelling [token] := by
  unfold Head.ofToken at htoken
  split at htoken <;> cases htoken <;> constructor

/-- A token that is a group together with any token behind it. -/
theorem spelling_of_needs {make : String → Group} (htoken : Head.ofToken token = .needs e make)
    (taken : String) : (make taken).Spelling [token, taken] := by
  unfold Head.ofToken at htoken
  split at htoken <;> cases htoken <;> constructor

theorem message_of_needs {make : String → Group} (htoken : Head.ofToken token = .needs e make)
    (program : String) : e.message program = complaint program token := by
  unfold Head.ofToken at htoken
  split at htoken <;> cases htoken <;> simp [complaint] <;> rfl

theorem message_of_refused (htoken : Head.ofToken token = .refused e) (program : String) :
    e.message program = complaint program token := by
  unfold Head.ofToken at htoken
  split at htoken <;> cases htoken <;> simp_all [complaint] <;> rfl

/-- A token that is refused begins no group. -/
theorem not_starts_of_refused (htoken : Head.ofToken token = .refused e) :
    ¬ Starts (token :: rest) := by
  rintro ⟨g, tokens, rest', hg, heq⟩
  cases hg <;> cases heq <;> cases htoken

/-- A token that takes another one begins no group at the end. -/
theorem not_starts_of_needs {make : String → Group}
    (htoken : Head.ofToken token = .needs e make) : ¬ Starts [token] := by
  rintro ⟨g, tokens, rest, hg, heq⟩
  cases hg <;> cases heq <;> cases htoken

/-! ## All tokens -/

/-- A group is read wherever it stands. -/
theorem groups_of_spelling (hg : g.Spelling tokens) (rest : List String) :
    groups (tokens ++ rest) = (groups rest).map (g :: ·) := by
  cases hg <;> rfl

theorem groups_append_of_splits (hargs : Splits args gs) (rest : List String) :
    groups (args ++ rest) = (groups rest).map (gs ++ ·) := by
  induction hargs with
  | nil =>
    show groups rest = (groups rest).map fun gs' => gs'
    cases groups rest <;> rfl
  | cons hg hrest ih =>
    rw [List.append_assoc, groups_of_spelling hg, ih]
    cases groups rest <;> rfl

theorem groups_of_splits (hargs : Splits args gs) : groups args = .ok gs := by
  have hgroups := groups_append_of_splits hargs []
  rw [List.append_nil] at hgroups
  rw [hgroups]
  show Except.ok (gs ++ []) = _
  rw [List.append_nil]

/-- A nonempty list of arguments that splits begins with a group. -/
theorem Splits.starts (hargs : Splits args gs) (hne : args ≠ []) (rest : List String) :
    Starts (args ++ rest) := by
  cases hargs with
  | nil => exact absurd rfl hne
  | cons hg hrest => exact ⟨_, _, _, hg, List.append_assoc _ _ _⟩

/-- The arguments up to a token that begins no group. -/
structure Stuck (args done : List String) (gs : List Group) (token : String)
    (rest : List String) : Prop where
  eq_append : args = done ++ token :: rest
  splits : Splits done gs
  not_starts : ¬ Starts (token :: rest)

/-- One group more in front of the place where the arguments are stuck. -/
theorem Stuck.cons (hg : g.Spelling tokens) (hstuck : Stuck args done gs token rest) :
    Stuck (tokens ++ args) (tokens ++ done) (g :: gs) token rest where
  eq_append := by rw [hstuck.eq_append, List.append_assoc]
  splits := .cons hg hstuck.splits
  not_starts := hstuck.not_starts

/-- Either the arguments split into the groups that are read, or reading them ends at a
token that begins no group, with what that token is answered with. -/
theorem groups_cases (args : List String) :
    (∃ gs, groups args = .ok gs ∧ Splits args gs) ∨
      ∃ e done gs token rest, groups args = .error e ∧ Stuck args done gs token rest ∧
        ∀ program, e.message program = complaint program token := by
  induction args using groups.induct with
  | case1 => exact .inl ⟨[], rfl, .nil⟩
  | case2 token g rest htoken ih =>
    have hg : g.Spelling [token] := spelling_of_whole htoken
    have hgroups := groups_of_spelling hg rest
    rcases ih with ⟨gs, hrest, hsplits⟩ | ⟨e, done, gs, last, rest', hrest, hstuck, htext⟩
    · rw [hrest] at hgroups
      exact .inl ⟨g :: gs, hgroups, .cons hg hsplits⟩
    · rw [hrest] at hgroups
      exact .inr ⟨e, _, _, last, rest', hgroups, hstuck.cons hg, htext⟩
  | case3 token absent make taken rest htoken ih =>
    have hg : (make taken).Spelling [token, taken] := spelling_of_needs htoken taken
    have hgroups := groups_of_spelling hg rest
    rcases ih with ⟨gs, hrest, hsplits⟩ | ⟨e, done, gs, last, rest', hrest, hstuck, htext⟩
    · rw [hrest] at hgroups
      exact .inl ⟨make taken :: gs, hgroups, .cons hg hsplits⟩
    · rw [hrest] at hgroups
      exact .inr ⟨e, _, _, last, rest', hgroups, hstuck.cons hg, htext⟩
  | case4 token absent make htoken =>
    have hgroups : groups [token] = .error absent := by
      rw [groups.eq_def]
      simp only [htoken]
    exact .inr ⟨absent, [], [], token, [], hgroups, ⟨rfl, .nil, not_starts_of_needs htoken⟩,
      message_of_needs htoken⟩
  | case5 token rest e htoken =>
    have hgroups : groups (token :: rest) = .error e := by
      rw [groups.eq_def]
      simp only [htoken]
    exact .inr ⟨e, [], [], token, rest, hgroups, ⟨rfl, .nil, not_starts_of_refused htoken⟩,
      message_of_refused htoken⟩

theorem groups_eq_ok_iff : groups args = .ok gs ↔ Splits args gs := by
  refine ⟨fun hgroups => ?_, groups_of_splits⟩
  rcases groups_cases args with ⟨gs', hgroups', hsplits⟩ | ⟨e, _, _, _, _, hgroups', -⟩
  · rw [hgroups] at hgroups'
    cases hgroups'
    exact hsplits
  · rw [hgroups] at hgroups'
    cases hgroups'

/-- Arguments that begin with no group are answered for their first token. -/
theorem groups_of_not_starts (hstarts : ¬ Starts (token :: rest)) :
    ∃ e, groups (token :: rest) = .error e ∧
      ∀ program, e.message program = complaint program token := by
  rcases groups_cases (token :: rest) with
    ⟨gs, -, hsplits⟩ | ⟨e, done, gs, last, rest', hgroups, hstuck, htext⟩
  · have hstart := hsplits.starts (List.cons_ne_nil _ _) []
    rw [List.append_nil] at hstart
    exact absurd hstart hstarts
  · -- nothing was read before the token, since no group begins there
    have hdone : done = [] := by
      by_contra hne
      apply hstarts
      rw [hstuck.eq_append]
      exact hstuck.splits.starts hne _
    have heq := hstuck.eq_append
    rw [hdone] at heq
    cases heq
    exact ⟨e, hgroups, htext⟩

/-- Reading stops only at a token that begins no group. -/
theorem groups_eq_error_iff {program text : String} :
    (∃ e, groups args = .error e ∧ e.message program = text) ↔
      ∃ done gs token rest, Stuck args done gs token rest ∧ text = complaint program token := by
  constructor
  · rintro ⟨e, hgroups, rfl⟩
    rcases groups_cases args with
      ⟨gs, hgroups', -⟩ | ⟨e', done, gs, token, rest, hgroups', hstuck, htext⟩
    · rw [hgroups] at hgroups'
      cases hgroups'
    · rw [hgroups] at hgroups'
      cases hgroups'
      exact ⟨done, gs, token, rest, hstuck, htext program⟩
  · rintro ⟨done, gs, token, rest, hstuck, rfl⟩
    rcases groups_of_not_starts hstuck.not_starts with ⟨e, hgroups, htext⟩
    refine ⟨e, ?_, htext program⟩
    rw [hstuck.eq_append, groups_append_of_splits hstuck.splits, hgroups]
    rfl

/-! ## What the groups stand for -/

/-- What a group sets. -/
inductive Field where
  | json
  | config
  | out
  | command
deriving DecidableEq

/-- The field that a group sets. -/
def Group.field : Group → Field
  | .json => .json
  | .config _ => .config
  | .out _ => .out
  | .command _ => .command

/-- The options that groups stand for: the last command and the last file of each kind, if
there is one, and JSON if it is asked for anywhere. -/
structure Meant (gs : List Group) (o : Options) : Prop where
  command : (gs.filterMap Group.command?).getLast? = some o.command
  config : (gs.filterMap Group.config?).getLast? = o.config
  out : (gs.filterMap Group.out?).getLast? = o.out
  json : o.json = true ↔ .json ∈ gs

/-- Two lists of groups that differ only in how the groups that set different fields follow
each other: those that set one field are the same in the same order. -/
def Reordered (gs gs' : List Group) : Prop :=
  ∀ field, gs.filter (fun g => g.field = field) = gs'.filter (fun g => g.field = field)

/-- Neighbours that set different fields can change places. -/
theorem reordered_swap {h : Group} (hfield : g.field ≠ h.field) :
    Reordered [g, h] [h, g] := by
  intro field
  by_cases hg : g.field = field
  · have hh : h.field ≠ field := fun hh => hfield (hg.trans hh.symm)
    simp [hg, hh]
  · by_cases hh : h.field = field <;> simp [hg, hh]

/-- What is read off the groups of one field is read off all groups. -/
theorem filterMap_filter_field {α : Type} {f : Group → Option α} {field : Field}
    (hf : ∀ g a, f g = some a → g.field = field) (gs : List Group) :
    (gs.filter fun g => g.field = field).filterMap f = gs.filterMap f := by
  induction gs with
  | nil => rfl
  | cons g gs ih =>
    by_cases hg : g.field = field
    · rw [List.filter_cons_of_pos (by simpa using hg), List.filterMap_cons, List.filterMap_cons, ih]
    · have hnone : f g = none :=
        Option.eq_none_iff_forall_not_mem.2 fun a ha => hg (hf g a ha)
      rw [List.filter_cons_of_neg (by simpa using hg), List.filterMap_cons_none hnone, ih]

theorem Reordered.filterMap_eq {α : Type} {f : Group → Option α} (hgs : Reordered gs gs')
    (field : Field) (hf : ∀ g a, f g = some a → g.field = field) :
    gs.filterMap f = gs'.filterMap f := by
  rw [← filterMap_filter_field hf gs, hgs field, filterMap_filter_field hf gs']

theorem Reordered.contains_json (hgs : Reordered gs gs') :
    gs.contains .json = gs'.contains .json := by
  have hmem : ∀ gs : List Group, .json ∈ gs ↔ .json ∈ gs.filter fun g => g.field = .json := by
    intro gs
    simp [List.mem_filter, Group.field]
  rw [Bool.eq_iff_iff, List.contains_iff_mem, List.contains_iff_mem, hmem gs, hgs .json,
    ← hmem gs']

theorem parse_of_groups_error (hgroups : groups args = .error e) : parse args = .error e := by
  rw [parse, hgroups]
  rfl

/-- Groups can be reordered in front of anything, as long as those that set the same field
keep their order. -/
theorem parse_append_of_reordered (hargs : Splits args gs) (hargs' : Splits args' gs')
    (hgs : Reordered gs gs') (rest : List String) :
    parse (args ++ rest) = parse (args' ++ rest) := by
  have hgroups := groups_append_of_splits hargs rest
  have hgroups' := groups_append_of_splits hargs' rest
  cases hrest : groups rest with
  | error e =>
    rw [hrest] at hgroups hgroups'
    rw [parse_of_groups_error hgroups, parse_of_groups_error hgroups']
  | ok more =>
    rw [hrest] at hgroups hgroups'
    -- each of the four fields is read off the groups that set it
    have hcommand : gs.filterMap Group.command? = gs'.filterMap Group.command? :=
      hgs.filterMap_eq .command (by rintro ⟨⟩ _ ⟨⟩; rfl)
    have hconfig : gs.filterMap Group.config? = gs'.filterMap Group.config? :=
      hgs.filterMap_eq .config (by rintro ⟨⟩ _ ⟨⟩; rfl)
    have hout : gs.filterMap Group.out? = gs'.filterMap Group.out? :=
      hgs.filterMap_eq .out (by rintro ⟨⟩ _ ⟨⟩; rfl)
    rw [parse_of_groups hgroups, parse_of_groups hgroups']
    simp only [List.filterMap_append, hcommand, hconfig, hout, List.contains_append,
      hgs.contains_json]

/-! ## Parsing -/

theorem mem_commands {c : Command} : c ∈ gs.filterMap Group.command? ↔ .command c ∈ gs := by
  rw [List.mem_filterMap]
  constructor
  · rintro ⟨g, hg, hc⟩
    cases g with
    | command => cases hc; exact hg
    | _ => cases hc
  · intro hc
    exact ⟨.command c, hc, rfl⟩

/-- Groups have no last command just when they have none. -/
theorem no_command_iff :
    (gs.filterMap Group.command?).getLast? = none ↔ ∀ c, .command c ∉ gs := by
  rw [List.getLast?_eq_none_iff, List.eq_nil_iff_forall_not_mem]
  exact forall_congr' fun c => not_congr mem_commands

/-- Arguments are refused where they are stuck, or because they hold no command. -/
theorem parse_eq_error_iff :
    parse args = .error e ↔ groups args = .error e ∨
      ∃ gs, Splits args gs ∧ (∀ c, .command c ∉ gs) ∧ e = .noCommand := by
  cases hgroups : groups args with
  | error e' =>
    have hsplits : ∀ gs, ¬ Splits args gs := by
      intro gs hargs
      rw [groups_of_splits hargs] at hgroups
      cases hgroups
    simp [parse_of_groups_error hgroups, hsplits]
  | ok gs =>
    have hargs : ∀ gs', Splits args gs' ↔ gs' = gs := by
      intro gs'
      rw [← groups_eq_ok_iff, hgroups, Except.ok.injEq, eq_comm]
    rw [parse_of_groups hgroups]
    simp only [hargs, exists_eq_left, ← no_command_iff]
    cases (gs.filterMap Group.command?).getLast? <;> simp [eq_comm]

/-- Parsing reads arguments from left to right as groups. It accepts those that are groups
and hold a command, and they stand for the last group of each kind. Any others are
answered for the first token where a group is due and none begins, or with the usage of
the program if there is none. The order of groups counts within one kind only, whatever
stands behind them. -/
theorem arguments_read_as_groups (program : String) (args : List String) :
    ((∃ o, parse args = .ok o) ↔ ∃ gs, Splits args gs ∧ ∃ c, .command c ∈ gs) ∧
    (∀ o gs, parse args = .ok o → Splits args gs → Meant gs o) ∧
    (∀ text, (∃ e, parse args = .error e ∧ e.message program = text) ↔
      (∃ done gs token rest, Stuck args done gs token rest ∧ text = complaint program token) ∨
        ∃ gs, Splits args gs ∧ (∀ c, .command c ∉ gs) ∧ text = usage program) ∧
    (∀ gs args' gs' rest, Splits args gs → Splits args' gs' → Reordered gs gs' →
      parse (args ++ rest) = parse (args' ++ rest)) := by
  refine ⟨?_, ?_, ?_, ?_⟩
  · constructor
    · rintro ⟨o, ho⟩
      rcases parse_eq_ok_iff.1 ho with ⟨gs, hgroups, hcommand, -⟩
      have hmem : o.command ∈ gs.filterMap Group.command? := List.mem_of_getLast? hcommand
      exact ⟨gs, groups_eq_ok_iff.1 hgroups, o.command, mem_commands.1 hmem⟩
    · rintro ⟨gs, hargs, c, hc⟩
      rw [parse_of_groups (groups_of_splits hargs)]
      cases hlast : (gs.filterMap Group.command?).getLast? with
      | none => exact absurd hc (no_command_iff.1 hlast c)
      | some command => exact ⟨_, rfl⟩
  · intro o gs ho hargs
    rcases parse_eq_ok_iff.1 ho with ⟨gs', hgroups, hcommand, hconfig, hout, hjson⟩
    rw [groups_of_splits hargs] at hgroups
    cases hgroups
    exact ⟨hcommand, hconfig, hout, hjson⟩
  · intro text
    rw [← groups_eq_error_iff]
    constructor
    · rintro ⟨e, he, rfl⟩
      rcases parse_eq_error_iff.1 he with hgroups | ⟨gs, hargs, hnone, rfl⟩
      · exact .inl ⟨e, hgroups, rfl⟩
      · exact .inr ⟨gs, hargs, hnone, rfl⟩
    · rintro (⟨e, hgroups, rfl⟩ | ⟨gs, hargs, hnone, rfl⟩)
      · exact ⟨e, parse_eq_error_iff.2 (.inl hgroups), rfl⟩
      · exact ⟨.noCommand, parse_eq_error_iff.2 (.inr ⟨gs, hargs, hnone, rfl⟩), rfl⟩
  · intro gs args' gs' rest hargs hargs' hgs
    exact parse_append_of_reordered hargs hargs' hgs rest

/-- A file named like an option, a primitive named like a command, and two files for the
text; a command behind which its name is missing; and two groups that change places in
front of a token that begins none. -/
theorem arguments_read_as_groups_under_lookalikes :
    (∃ o, parse ["--out", "--help", "show", "list", "-o", "-o"] = .ok o ∧
      o.command = .describe "list" ∧ o.out = some ⟨"-o"⟩ ∧ o.json = false) ∧
    (∃ e, parse ["check", "--json", "show"] = .error e ∧
      e.message "guile-shim" = "show needs a primitive name") ∧
    parse ["--json", "check", "help"] = parse ["check", "--json", "help"] := by
  have hsplits : Splits ["--out", "--help", "show", "list", "-o", "-o"]
      [.out "--help", .command (.describe "list"), .out "-o"] :=
    .cons (.outLong "--help") (.cons (.describe "list") (.cons (.outShort "-o") .nil))
  have hjson : Splits ["--json"] [.json] := .cons .json .nil
  have hcheck : Splits ["check"] [.command .check] := .cons .check .nil
  refine ⟨?_, ?_, ?_⟩
  · rcases arguments_read_as_groups "guile-shim"
      ["--out", "--help", "show", "list", "-o", "-o"] with ⟨haccepted, hmeant, -, -⟩
    rcases haccepted.2 ⟨_, hsplits, .describe "list", by simp⟩ with ⟨o, ho⟩
    have hmeant := hmeant o _ ho hsplits
    have hcommand : some (Command.describe "list") = some o.command := hmeant.command
    have hnotJson : ¬ o.json = true := by
      rw [hmeant.json]
      simp
    exact ⟨o, ho, (Option.some.inj hcommand).symm, hmeant.out.symm, by simpa using hnotJson⟩
  · rcases arguments_read_as_groups "guile-shim" ["check", "--json", "show"] with
      ⟨-, -, hrefused, -⟩
    have hread : Splits ["check", "--json"] [.command .check, .json] := .cons .check hjson
    have hstuck : Stuck ["check", "--json", "show"] _ _ "show" [] :=
      ⟨rfl, hread, not_starts_of_needs rfl⟩
    exact (hrefused _).2 (.inl ⟨_, _, _, _, hstuck, by simp [complaint]⟩)
  · rcases arguments_read_as_groups "guile-shim" ["--json", "check"] with ⟨-, -, -, hreordered⟩
    exact hreordered _ ["check", "--json"] _ ["help"] (.cons .json hcheck) (.cons .check hjson)
      (reordered_swap (by decide))

end ProxyForge.Options
