import ProxyForge.Proofs.Text.Lines
import Mathlib.Algebra.BigOperators.Group.List.Basic
import Mathlib.Algebra.GroupWithZero.Nat
import Mathlib.Data.List.Infix

/-!
# ProxyForge.Proofs.Text.Occurrences — how often a pattern stands in a text

`Text.occurrences` counts the places of a text at which a pattern begins, those
that overlap included. A pattern without line feeds never runs over the end of a
line, so its occurrences can be counted line by line (`occurrences_unlines`).
-/

namespace ProxyForge.Text

/-- The number of places at which a text goes on with the pattern. -/
def occurrences (pattern text : List Char) : Nat :=
  text.tails.countP fun tail => pattern.isPrefixOf tail

variable {sep c : Char} {pattern part text : List Char}

theorem occurrences_nil (hpattern : pattern ≠ []) : occurrences pattern [] = 0 := by
  cases pattern with
  | nil => exact absurd rfl hpattern
  | cons c pattern => rfl

theorem occurrences_cons : occurrences pattern (c :: text) =
    (if pattern <+: c :: text then 1 else 0) + occurrences pattern text := by
  rw [occurrences, List.tails, List.countP_cons, Nat.add_comm]
  simp only [List.isPrefixOf_iff_prefix]
  rfl

/-- A pattern that is no part of a text occurs nowhere in it. -/
theorem occurrences_eq_zero (hpattern : ¬ pattern <:+: text) : occurrences pattern text = 0 := by
  apply List.countP_eq_zero.2
  intro tail htail hprefix
  apply hpattern
  rw [List.infix_iff_prefix_suffix]
  exact ⟨tail, List.isPrefixOf_iff_prefix.1 hprefix, (List.mem_tails ..).1 htail⟩

/-- A pattern occurs once in itself. -/
theorem occurrences_self (hpattern : pattern ≠ []) : occurrences pattern pattern = 1 := by
  cases pattern with
  | nil => exact absurd rfl hpattern
  | cons c pattern =>
    have hrest : occurrences (c :: pattern) pattern = 0 := by
      apply occurrences_eq_zero
      intro hinfix
      have hlength := hinfix.length_le
      rw [List.length_cons] at hlength
      omega
    rw [occurrences_cons, if_pos (List.prefix_refl _), hrest]

/-- A pattern without separators that begins before a separator ends before it. -/
theorem prefix_append_cons_iff (hpattern : sep ∉ pattern) (rest : List Char) :
    pattern <+: part ++ sep :: rest ↔ pattern <+: part := by
  induction pattern generalizing part with
  | nil => simp
  | cons c pattern ih =>
    rw [List.mem_cons, not_or] at hpattern
    cases part with
    | nil =>
      simp only [List.nil_append, List.cons_prefix_cons, List.prefix_nil, reduceCtorEq, iff_false]
      rintro ⟨hc, -⟩
      exact hpattern.1 hc.symm
    | cons d part =>
      rw [List.cons_append, List.cons_prefix_cons, List.cons_prefix_cons, ih hpattern.2]

/-- A pattern without separators occurs on one side of a separator or on the other. -/
theorem occurrences_append_cons (hpattern : sep ∉ pattern) (hne : pattern ≠ [])
    (part rest : List Char) : occurrences pattern (part ++ sep :: rest) =
      occurrences pattern part + occurrences pattern rest := by
  have hcut : ∀ part, pattern <+: part ++ sep :: rest ↔ pattern <+: part :=
    fun part => prefix_append_cons_iff hpattern rest
  induction part with
  | nil =>
    have hsep : ¬ pattern <+: sep :: rest := by
      have := hcut []
      simpa [hne] using this
    rw [List.nil_append, occurrences_cons, if_neg hsep, occurrences_nil hne]
  | cons c part ih =>
    have hhead := hcut (c :: part)
    rw [List.cons_append] at hhead ⊢
    rw [occurrences_cons, occurrences_cons, ih, if_congr hhead rfl rfl, Nat.add_assoc]

/-- A pattern without line feeds occurs on the lines. -/
theorem occurrences_unlines (hpattern : '\n' ∉ pattern) (hne : pattern ≠ [])
    (lines : List String) : occurrences pattern (unlines lines).toList =
      (lines.map fun l => occurrences pattern l.toList).sum := by
  induction lines with
  | nil => exact occurrences_nil hne
  | cons l lines ih =>
    rw [toList_unlines] at ih ⊢
    rw [List.flatMap_cons, List.append_assoc, List.singleton_append,
      occurrences_append_cons hpattern hne, ih, List.map_cons, List.sum_cons]

end ProxyForge.Text
