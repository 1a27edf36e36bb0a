import ProxyForge.Proofs.Registry.Validation
import Mathlib.Data.List.Perm.Subperm

/-!
# ProxyForge.Proofs.Registry.Faults — what is wrong with a refused table

`Fault` lists everything that can be wrong with an entry, by itself or because its name
stands earlier in the table, and `FirstFault` picks the one that counts before the others.
The walk of `Registry.validate` ends at the first entry at which the table up to and with
that entry is not valid, and reports that entry's first fault (`validate_eq_error_iff`).
-/

namespace ProxyForge

/-- Which of two faults of one entry is reported: the one with the smaller number. -/
def RegistryError.rank : RegistryError → Nat
  | duplicate _ => 0
  | arity _ _ => 1
  | constantKind _ => 2
  | argumentKind _ _ => 3

namespace Registry

/-- What can be wrong with an entry that follows the entries `before`. Of the arguments that
are no values the first one is named. -/
inductive Fault (before : Registry) (p : Primitive) : RegistryError → Prop
  | duplicate (hname : p.name ∈ before.map Primitive.name) : Fault before p (.duplicate p.name)
  | arity (harity : 2 < p.arity) : Fault before p (.arity p.name p.arity)
  | constantKind (hargs : p.args = []) (hret : p.ret ≠ .value) :
      Fault before p (.constantKind p.name)
  | argumentKind {front back : List Kind} {kind : Kind} (hargs : p.args = front ++ kind :: back)
      (hfront : ∀ k ∈ front, k = .value) (hkind : kind ≠ .value) :
      Fault before p (.argumentKind p.name kind)

/-- The fault of an entry that is reported. -/
structure FirstFault (before : Registry) (p : Primitive) (e : RegistryError) : Prop where
  fault : Fault before p e
  rank_le : ∀ e', Fault before p e' → e.rank ≤ e'.rank

variable {r s before : Registry} {p : Primitive} {e e' : RegistryError} {seen : List String}

/-! ## One entry -/

/-- The first argument that is no value is one argument. -/
theorem find?_args_eq_some_iff {kind : Kind} :
    p.args.find? (· != .value) = some kind ↔
      ∃ front back, p.args = front ++ kind :: back ∧ (∀ k ∈ front, k = .value) ∧
        kind ≠ .value := by
  rw [List.find?_eq_some_iff_append]
  simp only [bne_iff_ne, Bool.not_eq_true', bne_eq_false_iff_eq]
  constructor
  · rintro ⟨hkind, front, back, hargs, hfront⟩
    exact ⟨front, back, hargs, hfront, hkind⟩
  · rintro ⟨front, back, hargs, hfront, hkind⟩
    exact ⟨hkind, front, back, hargs, hfront⟩

/-- An entry has at most one fault of each rank. -/
theorem Fault.eq_of_rank_eq (he : Fault before p e) (he' : Fault before p e')
    (hrank : e.rank = e'.rank) : e = e' := by
  cases he with
  | duplicate =>
    cases he' with
    | duplicate => rfl
    | _ => cases hrank
  | arity =>
    cases he' with
    | arity => rfl
    | _ => cases hrank
  | constantKind =>
    cases he' with
    | constantKind => rfl
    | _ => cases hrank
  | argumentKind hargs hfront hkind =>
    cases he' with
    | argumentKind hargs' hfront' hkind' =>
      have hfind := find?_args_eq_some_iff.2 ⟨_, _, hargs, hfront, hkind⟩
      rw [find?_args_eq_some_iff.2 ⟨_, _, hargs', hfront', hkind'⟩] at hfind
      rw [Option.some.inj hfind]
    | _ => cases hrank

theorem FirstFault.unique (he : FirstFault before p e) (he' : FirstFault before p e') :
    e = e' :=
  he.fault.eq_of_rank_eq he'.fault
    (Nat.le_antisymm (he.rank_le e' he'.fault) (he'.rank_le e he.fault))

variable (hseen : ∀ name, name ∈ seen ↔ name ∈ before.map Primitive.name)

include hseen

/-- An entry in which nothing is found has no fault. -/
theorem not_fault_of_faultOf? (hnone : faultOf? seen p = none) : ¬ Fault before p e := by
  rcases faultOf?_eq_none_iff.1 hnone with ⟨hnew, hp⟩
  intro hfault
  cases hfault with
  | duplicate hname => exact hnew ((hseen p.name).2 hname)
  | arity harity => exact absurd hp.arity_le (Nat.not_le.2 harity)
  | constantKind hargs hret => exact hret (hp.constant_value hargs)
  | argumentKind hargs hfront hkind =>
    apply hkind
    apply hp.args_value
    rw [hargs]
    exact List.mem_append_right _ List.mem_cons_self

/-- What is found is the first fault: each of the checks comes after those that count
before it have passed. -/
theorem firstFault_of_faultOf? (hsome : faultOf? seen p = some e) : FirstFault before p e := by
  unfold faultOf? at hsome
  split_ifs at hsome with hname harity hconstant
  · cases hsome
    rw [List.contains_iff_mem, hseen] at hname
    exact ⟨.duplicate hname, fun e' _ => Nat.zero_le _⟩
  all_goals rw [List.contains_iff_mem, hseen] at hname
  · cases hsome
    refine ⟨.arity harity, ?_⟩
    intro e' he'
    cases he' with
    | duplicate hname' => exact absurd hname' hname
    | _ => simp [RegistryError.rank]
  · cases hsome
    rw [Bool.and_eq_true, bne_iff_ne] at hconstant
    refine ⟨.constantKind (List.isEmpty_iff.1 hconstant.1) hconstant.2, ?_⟩
    intro e' he'
    cases he' with
    | duplicate hname' => exact absurd hname' hname
    | arity harity' => exact absurd harity' harity
    | _ => simp [RegistryError.rank]
  · rcases Option.map_eq_some_iff.1 hsome with ⟨kind, hfind, rfl⟩
    rcases find?_args_eq_some_iff.1 hfind with ⟨front, back, hargs, hfront, hkind⟩
    refine ⟨.argumentKind hargs hfront hkind, ?_⟩
    intro e' he'
    cases he' with
    | duplicate hname' => exact absurd hname' hname
    | arity harity' => exact absurd harity' harity
    | constantKind hnil => simp [hnil] at hargs
    | argumentKind => exact Nat.le_refl _

theorem faultOf?_eq_some_iff : faultOf? seen p = some e ↔ FirstFault before p e := by
  refine ⟨firstFault_of_faultOf? hseen, ?_⟩
  intro he
  cases hfault : faultOf? seen p with
  | none => exact absurd he.fault (not_fault_of_faultOf? hseen hfault)
  | some e' => rw [(firstFault_of_faultOf? hseen hfault).unique he]

omit hseen

/-! ## The walk -/

/-- The walk ends at the first entry that has a fault behind those before it. -/
theorem validateAfter_eq_error_iff
    (hseen : ∀ name, name ∈ seen ↔ name ∈ before.map Primitive.name) :
    validateAfter seen r = .error e ↔ ∃ front p back, r = front ++ p :: back ∧
      validateAfter seen front = .ok () ∧ FirstFault (before ++ front) p e := by
  induction r generalizing seen before with
  | nil =>
    refine iff_of_false (by simp [validateAfter]) ?_
    rintro ⟨front, p, back, hr, -⟩
    cases front <;> cases hr
  | cons q rest ih =>
    have hfirst : ∀ e, faultOf? seen q = some e ↔ FirstFault before q e :=
      fun e => faultOf?_eq_some_iff hseen
    rw [validateAfter]
    cases hfault : faultOf? seen q with
    | some e' =>
      constructor
      · intro he
        cases he
        refine ⟨[], q, rest, rfl, rfl, ?_⟩
        rw [List.append_nil]
        exact (hfirst e).1 hfault
      · rintro ⟨front, p, back, hr, hfront, hp⟩
        cases front with
        | nil =>
          cases hr
          rw [List.append_nil] at hp
          rw [(hfirst e).2 hp] at hfault
          cases hfault
          rfl
        | cons q' front =>
          -- the walk does not get past the first entry
          cases hr
          rw [validateAfter, hfault] at hfront
          cases hfront
    | none =>
      have hseen' : ∀ name, name ∈ q.name :: seen ↔
          name ∈ (before ++ [q]).map Primitive.name := by
        intro name
        rw [List.mem_cons, hseen, List.map_append, List.mem_append, List.map_singleton,
          List.mem_singleton, or_comm]
      show validateAfter (q.name :: seen) rest = .error e ↔ _
      rw [ih hseen']
      constructor
      · rintro ⟨front, p, back, rfl, hfront, hp⟩
        refine ⟨q :: front, p, back, rfl, ?_, ?_⟩
        · rw [validateAfter, hfault]
          exact hfront
        · rwa [List.append_assoc] at hp
      · rintro ⟨front, p, back, hr, hfront, hp⟩
        cases front with
        | nil =>
          cases hr
          rw [List.append_nil] at hp
          rw [(hfirst e).2 hp] at hfault
          cases hfault
        | cons q' front =>
          cases hr
          rw [validateAfter, hfault] at hfront
          refine ⟨front, p, back, rfl, hfront, ?_⟩
          rwa [List.append_assoc]

/-- A table is refused for the first fault of the first entry behind a valid beginning. -/
theorem validate_eq_error_iff :
    r.validate = .error e ↔
      ∃ (front : Registry) (p : Primitive) (back : Registry),
        r = front ++ p :: back ∧ front.Valid ∧ FirstFault front p e := by
  have hseen : ∀ name, name ∈ ([] : List String) ↔ name ∈ ([] : Registry).map Primitive.name :=
    fun _ => Iff.rfl
  rw [validate, validateAfter_eq_error_iff hseen]
  simp only [List.nil_append, ← validate_eq_ok_iff, validate]

/-! ## Parts of a table -/

theorem Valid.sublist (hr : r.Valid) (hs : s.Sublist r) : s.Valid where
  names_nodup := hr.names_nodup.sublist (hs.map Primitive.name)
  wellFormed := fun p hp => hr.wellFormed p (hs.subset hp)

theorem Valid.perm (hr : r.Valid) (hs : s.Perm r) : s.Valid where
  names_nodup := (hs.map Primitive.name).nodup_iff.2 hr.names_nodup
  wellFormed := fun p hp => hr.wellFormed p (hs.subset hp)

theorem Valid.subperm (hr : r.Valid) (hs : s.Subperm r) : s.Valid := by
  rcases hs with ⟨l, hperm, hsub⟩
  exact (hr.sublist hsub).perm hperm.symm

/-- An entry with a fault makes the table up to it invalid. -/
theorem not_valid_of_firstFault (hp : FirstFault before p e) (hbefore : before.Valid) :
    ¬ Valid (before ++ [p]) := by
  rw [← validate_eq_ok_iff]
  have herror : validate (before ++ [p]) = .error e :=
    validate_eq_error_iff.2 ⟨before, p, [], rfl, hbefore, hp⟩
  rw [herror]
  simp

/-- Exactly the valid tables are accepted. Any other is refused at the first entry with
which its beginning is not valid any more, for the first of that entry's faults: its name
came before, or there are more than two arguments, or it is a constant and no value, or it
takes an argument that is no value. So a part of an accepted table in any order is
accepted, and entries behind a refused table change nothing. -/
theorem refused_for_first_fault (r : Registry) :
    (r.validate = .ok () ↔ r.Valid) ∧
    (∀ e, r.validate = .error e ↔ ∃ (front : Registry) (p : Primitive) (back : Registry),
      r = front ++ p :: back ∧ front.Valid ∧ ¬ Valid (front ++ [p]) ∧ FirstFault front p e) ∧
    (∀ s : Registry, s.Subperm r → r.validate = .ok () → s.validate = .ok ()) ∧
    (∀ e more, r.validate = .error e → Registry.validate (r ++ more) = .error e) := by
  refine ⟨validate_eq_ok_iff, ?_, ?_, ?_⟩
  · intro e
    rw [validate_eq_error_iff]
    constructor
    · rintro ⟨front, p, back, hr, hfront, hp⟩
      exact ⟨front, p, back, hr, hfront, not_valid_of_firstFault hp hfront, hp⟩
    · rintro ⟨front, p, back, hr, hfront, -, hp⟩
      exact ⟨front, p, back, hr, hfront, hp⟩
  · intro s hs hr
    exact validate_eq_ok_iff.2 ((validate_eq_ok_iff.1 hr).subperm hs)
  · intro e more hr
    rcases validate_eq_error_iff.1 hr with ⟨front, p, back, rfl, hfront, hp⟩
    refine validate_eq_error_iff.2 ⟨front, p, back ++ more, ?_, hfront, hp⟩
    rw [List.append_assoc, List.cons_append]

/-- Two entries with two faults each: a wide entry with bits among its arguments, and then
the name of the first entry for a constant that is no value. The wide one is refused for
its arguments' number, whatever follows it; and a table keeps being accepted backwards and
without its last entry. -/
theorem refused_for_first_fault_of_two :
    (∀ more, validate ([unaryEntry "scm_car" "car" .value,
        { name := "scm_list_3", method := "list_3", args := [.value, .bits, .value], ret := .unit },
        { name := "scm_car", method := "car", args := [], ret := .truth }] ++ more) =
      .error (.arity "scm_list_3" 3)) ∧
    validate builtin.dropLast.reverse = .ok () := by
  constructor
  · intro more
    have hbefore : Valid [unaryEntry "scm_car" "car" .value] := validate_eq_ok_iff.1 rfl
    have hwide : FirstFault [unaryEntry "scm_car" "car" .value]
        { name := "scm_list_3", method := "list_3", args := [.value, .bits, .value], ret := .unit }
        (.arity "scm_list_3" 3) := by
      refine ⟨.arity (by decide), ?_⟩
      intro e' he'
      cases he' with
      | duplicate hname => revert hname; decide
      | _ => simp [RegistryError.rank]
    refine (refused_for_first_fault _).2.2.2 _ more ?_
    exact ((refused_for_first_fault _).2.1 _).2
      ⟨_, _, _, rfl, hbefore, not_valid_of_firstFault hwide hbefore, hwide⟩
  · have hpart : List.Subperm builtin.dropLast.reverse builtin :=
      ⟨builtin.dropLast, (List.reverse_perm _).symm, List.dropLast_sublist _⟩
    exact (refused_for_first_fault builtin).2.2.1 _ hpart rfl

end Registry

end ProxyForge
