import ProxyForge.Registry.Validation
import Mathlib.Data.List.Basic

/-!
# ProxyForge.Proofs.Registry.Validation — what an accepted table is

The walk of `Registry.validate` finds no fault just when the table is valid
(`validate_eq_ok_iff`). A walk that has seen some names already asks in addition
that none of them comes again.
-/

namespace ProxyForge

/-- A well-formed entry has none of the faults that an entry can have by itself. -/
theorem Primitive.wellFormed_iff {p : Primitive} :
    p.WellFormed ↔
      ¬ p.arity > Primitive.maxArity ∧ ¬ (p.isConstant && p.ret != .value) = true ∧
        p.args.find? (· != .value) = none := by
  constructor
  · intro hp
    refine ⟨Nat.not_lt.2 hp.arity_le, ?_, ?_⟩
    · intro hconstant
      rw [Bool.and_eq_true, bne_iff_ne] at hconstant
      exact hconstant.2 (hp.constant_value (List.isEmpty_iff.1 hconstant.1))
    · rw [List.find?_eq_none]
      intro k hk hne
      exact bne_iff_ne.1 hne (hp.args_value k hk)
  · rintro ⟨harity, hconstant, hargs⟩
    refine ⟨Nat.not_lt.1 harity, ?_, ?_⟩
    · intro hnil
      by_contra hret
      apply hconstant
      rw [Bool.and_eq_true, bne_iff_ne]
      exact ⟨List.isEmpty_iff.2 hnil, hret⟩
    · intro k hk
      by_contra hne
      exact List.find?_eq_none.1 hargs k hk (bne_iff_ne.2 hne)

namespace Registry

variable {r : Registry} {p : Primitive} {seen : List String}

/-- An entry has no fault just when its name is new and it is well formed. -/
theorem faultOf?_eq_none_iff : faultOf? seen p = none ↔ p.name ∉ seen ∧ p.WellFormed := by
  rw [Primitive.wellFormed_iff, faultOf?]
  by_cases hseen : p.name ∈ seen
  · simp [hseen]
  by_cases harity : p.arity > Primitive.maxArity
  · simp [hseen, harity]
  by_cases hconstant : (p.isConstant && p.ret != .value) = true
  · simp [hseen, harity, hconstant]
  · simp [hseen, harity, hconstant]

/-- The walk finds no fault just when the table is valid and uses none of the names that
were seen before it. -/
theorem validateAfter_eq_ok_iff :
    validateAfter seen r = .ok () ↔ (∀ p ∈ r, p.name ∉ seen) ∧ r.Valid := by
  induction r generalizing seen with
  | nil =>
    refine iff_of_true rfl ⟨?_, List.nodup_nil, ?_⟩ <;> simp
  | cons p rest ih =>
    rw [validateAfter]
    cases hfault : faultOf? seen p with
    | some e =>
      -- the faulty entry stops the walk, and by its fault the table is not valid
      have hnot : ¬ (p.name ∉ seen ∧ p.WellFormed) := by
        rw [← faultOf?_eq_none_iff, hfault]
        simp
      refine iff_of_false (by simp) ?_
      rintro ⟨hnew, hvalid⟩
      exact hnot ⟨hnew p List.mem_cons_self, hvalid.wellFormed p List.mem_cons_self⟩
    | none =>
      rcases faultOf?_eq_none_iff.1 hfault with ⟨hnew, hp⟩
      rw [ih]
      constructor
      · rintro ⟨hrest, hvalid⟩
        refine ⟨?_, ?_, ?_⟩
        · intro q hq
          rcases List.mem_cons.1 hq with rfl | hq
          · exact hnew
          · exact fun hseen => hrest q hq (List.mem_cons_of_mem _ hseen)
        · rw [List.map_cons, List.nodup_cons]
          refine ⟨?_, hvalid.names_nodup⟩
          intro hmem
          rcases List.mem_map.1 hmem with ⟨q, hq, hname⟩
          exact hrest q hq (hname ▸ List.mem_cons_self)
        · intro q hq
          rcases List.mem_cons.1 hq with rfl | hq
          · exact hp
          · exact hvalid.wellFormed q hq
      · rintro ⟨hseen, hvalid⟩
        have hnodup := hvalid.names_nodup
        rw [List.map_cons, List.nodup_cons] at hnodup
        refine ⟨?_, hnodup.2, fun q hq => hvalid.wellFormed q (List.mem_cons_of_mem p hq)⟩
        intro q hq hmem
        rcases List.mem_cons.1 hmem with hname | hmem
        · exact hnodup.1 (hname ▸ List.mem_map_of_mem hq)
        · exact hseen q (List.mem_cons_of_mem p hq) hmem

/-- A table is accepted just when it is valid. -/
theorem validate_eq_ok_iff : r.validate = .ok () ↔ r.Valid := by
  rw [validate, validateAfter_eq_ok_iff]
  simp

end Registry

end ProxyForge
