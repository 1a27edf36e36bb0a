import ProxyForge.Config.Discovery
import Mathlib.Tactic.Common

/-!
# ProxyForge.Proofs.Paths — the parents of a path

A parent is a text, cut from the end of the path (`parent?_length_lt`), so that every
path has finitely many: `Lineage` is the path, its parent and so on until there is none,
without a bound. The bound in `Path.ancestors` is never met (`lineage_ancestors`).
-/

namespace ProxyForge.Text

variable {sep : Char}

theorem joinWith_append {front back : List (List Char)} (hfront : front ≠ []) (hback : back ≠ []) :
    joinWith sep (front ++ back) = joinWith sep front ++ sep :: joinWith sep back := by
  induction front with
  | nil => exact absurd rfl hfront
  | cons part front ih =>
    cases front with
    | nil => exact joinWith_cons sep part hback
    | cons next front =>
      have hcut := ih (List.cons_ne_nil next front)
      rw [List.cons_append, joinWith_cons sep part (by simp), hcut,
        joinWith_cons sep part (List.cons_ne_nil next front), List.append_assoc, List.cons_append]

/-- A list that loses parts at its end loses at least a separator. -/
theorem length_joinStrings_lt {front back : List String} (hfront : front ≠ []) (hback : back ≠ []) :
    (joinStrings sep front).length < (joinStrings sep (front ++ back)).length := by
  have hjoin : joinWith sep (front.map String.toList ++ back.map String.toList) =
      joinWith sep (front.map String.toList) ++ sep :: joinWith sep (back.map String.toList) :=
    joinWith_append (by simpa using hfront) (by simpa using hback)
  rw [joinStrings, joinStrings, List.map_append, hjoin]
  simp only [String.length_ofList, List.length_append, List.length_cons]
  omega

end ProxyForge.Text

namespace ProxyForge.Path

variable {p q : Path} {dirs : List Path}

/-! ## One parent -/

theorem dropBlank_suffix (segments : List String) : dropBlank segments <:+ segments := by
  fun_induction dropBlank segments with
  | case1 => exact List.suffix_refl []
  | case2 => exact List.nil_suffix
  | case3 first => exact List.suffix_refl [first]
  | case4 s rest _ _ ih => exact ih.trans (List.suffix_cons s rest)
  | case5 s rest => exact List.suffix_refl (s :: rest)

theorem joinStrings_segments (p : Path) : Text.joinStrings '/' p.segments = p.text :=
  Text.joinStrings_splitString '/' p.text

/-- Neither the empty path nor the root has a parent. -/
theorem text_ne_of_parent? (hparent : p.parent? = some q) : p.text ≠ "" ∧ p.text ≠ "/" := by
  rcases p with ⟨text⟩
  constructor
  · rintro rfl
    cases hparent
  · rintro rfl
    cases hparent

/-- A path with a parent is longer than the start that all its names share. -/
theorem length_start_lt (hparent : p.parent? = some q) :
    (if p.isAbsolute then "/" else "").length < p.text.length := by
  rcases text_ne_of_parent? hparent with ⟨hempty, hroot⟩
  split_ifs with habsolute
  · cases hchars : p.text.toList with
    | nil => simp [isAbsolute, hchars] at habsolute
    | cons c rest =>
      -- a path of a slash alone is the root, so something comes behind the slash
      have hc : c = '/' := by simpa [isAbsolute, hchars] using habsolute
      cases rest with
      | nil =>
        rw [hc] at hchars
        exact absurd (String.toList_inj.1 hchars) hroot
      | cons d rest =>
        have hlength : p.text.length = rest.length + 2 := by
          rw [← String.length_toList, hchars, List.length_cons, List.length_cons]
        rw [hlength]
        exact Nat.lt_add_left rest.length Nat.one_lt_two
  · exact Nat.pos_of_ne_zero fun hlength => hempty (by simpa using hlength)

theorem parent?_length_lt (hparent : p.parent? = some q) : q.text.length < p.text.length := by
  have hstart := length_start_lt hparent
  unfold parent? at hparent
  split at hparent
  · cases hparent
  · next s rest hnames =>
    split at hparent
    · cases hparent
      exact hstart
    · next kept hkept =>
      cases hparent
      -- what is kept stands before the last name
      rcases dropBlank_suffix p.segments.reverse with ⟨blank, hblank⟩
      rcases dropBlank_suffix rest with ⟨blank', hblank'⟩
      have hsegments : p.segments =
          (dropBlank rest).reverse ++ (blank'.reverse ++ s :: blank.reverse) := by
        rw [← List.reverse_reverse p.segments, ← hblank, hnames]
        conv_lhs => rw [← hblank']
        simp
      have hshorter : (Text.joinStrings '/' (dropBlank rest).reverse).length <
          (Text.joinStrings '/' p.segments).length := by
        rw [hsegments]
        exact Text.length_joinStrings_lt (by simpa using hkept) (by simp)
      rw [joinStrings_segments] at hshorter
      exact hshorter

/-! ## All parents -/

/-- The path, its parent, the parent of that, and so on until there is none. -/
inductive Lineage : Path → List Path → Prop
  | last {p : Path} (hparent : p.parent? = none) : Lineage p [p]
  | more {p q : Path} {dirs : List Path} (hparent : p.parent? = some q) (rest : Lineage q dirs) :
    Lineage p (p :: dirs)

/-- A bound above the length of the path cuts nothing off. -/
theorem lineage_ancestorsWithin {bound : Nat} (hbound : p.text.length < bound) :
    p.Lineage (ancestorsWithin bound p) := by
  induction bound generalizing p with
  | zero => cases hbound
  | succ bound ih =>
    unfold ancestorsWithin
    cases hparent : p.parent? with
    | none => exact .last hparent
    | some q => exact .more hparent (ih (by have := parent?_length_lt hparent; omega))

theorem lineage_ancestors (p : Path) : p.Lineage p.ancestors :=
  lineage_ancestorsWithin (Nat.lt_succ_self p.text.length)

/-- There is one way to the last parent. -/
theorem Lineage.eq_ancestors (h : p.Lineage dirs) : dirs = p.ancestors := by
  suffices hunique : ∀ others, p.Lineage others → dirs = others from
    hunique p.ancestors (lineage_ancestors p)
  -- the induction is on one way, and a path has one parent or none for the other way too
  induction h with
  | last hnone =>
    rintro others (_ | ⟨hsome, _⟩)
    · rfl
    · exact absurd (hnone.symm.trans hsome) (by simp)
  | more hsome _ ih =>
    rintro others (hnone | ⟨hsome', hrest⟩)
    · exact absurd (hnone.symm.trans hsome) (by simp)
    · cases hsome.symm.trans hsome'
      rw [ih _ hrest]

end ProxyForge.Path
