import ProxyForge.Text.Split
import Mathlib.Data.List.Basic

/-!
# ProxyForge.Proofs.Text.Lines — texts written and read line by line

`Text.unlines` writes a line feed behind each line. Splitting such a text at the
line feeds gives the lines back, and behind them the empty rest after the last
line feed (`split_unlines`), as long as no line holds a line feed of its own.

For any separator the parts of a text are told by two things: they hold no separator, and
joined they give the text back (`splitString_eq_iff`).
-/

namespace ProxyForge.Text

variable {sep : Char} {part s : List Char} {lines : List String}

/-! ## Splitting -/

/-- The parts before a separator are those of the text before it, and likewise behind it. -/
theorem split_append (before after : List Char) :
    split sep (before ++ sep :: after) = split sep before ++ split sep after := by
  induction before with
  | nil => simp [split]
  | cons c before ih =>
    rw [List.cons_append, split, split]
    split
    · rw [ih, List.cons_append]
    · rw [ih]
      cases hbefore : split sep before with
      | nil => exact absurd hbefore (split_ne_nil sep before)
      | cons part parts => rfl

/-- The first part of a text ends at the first separator. -/
theorem split_append_cons (hpart : sep ∉ part) (rest : List Char) :
    split sep (part ++ sep :: rest) = part :: split sep rest := by
  induction part with
  | nil => simp [split]
  | cons c part ih =>
    rw [List.mem_cons, not_or] at hpart
    rw [List.cons_append, split, if_neg (Ne.symm hpart.1), ih hpart.2]

/-- A text without separators is one part. -/
theorem split_of_notMem (hs : sep ∉ s) : split sep s = [s] := by
  induction s with
  | nil => rfl
  | cons c s ih =>
    rw [List.mem_cons, not_or] at hs
    rw [split, if_neg (Ne.symm hs.1), ih hs.2]

/-- No part holds a separator. -/
theorem notMem_of_mem_split (hpart : part ∈ split sep s) : sep ∉ part := by
  induction s generalizing part with
  | nil =>
    rw [split, List.mem_singleton] at hpart
    rw [hpart]
    exact List.not_mem_nil
  | cons c s ih =>
    unfold split at hpart
    split at hpart
    · rcases List.mem_cons.1 hpart with rfl | hpart
      · exact List.not_mem_nil
      · exact ih hpart
    · next hc =>
      split at hpart
      · next hnone => exact absurd hnone (split_ne_nil sep s)
      · next first rest hsplit =>
        rw [hsplit] at ih
        rcases List.mem_cons.1 hpart with rfl | hpart
        · rw [List.mem_cons, not_or]
          exact ⟨Ne.symm hc, ih List.mem_cons_self⟩
        · exact ih (List.mem_cons_of_mem _ hpart)

/-- Parts without separators are the ones that their join is split into. -/
theorem split_joinWith {parts : List (List Char)} (hne : parts ≠ [])
    (hparts : ∀ part ∈ parts, sep ∉ part) : split sep (joinWith sep parts) = parts := by
  induction parts with
  | nil => exact absurd rfl hne
  | cons part parts ih =>
    have hpart : sep ∉ part := hparts part List.mem_cons_self
    cases parts with
    | nil => exact split_of_notMem hpart
    | cons next parts =>
      have hrest := ih (List.cons_ne_nil next parts) fun q hq =>
        hparts q (List.mem_cons_of_mem _ hq)
      rw [joinWith_cons sep part (List.cons_ne_nil next parts), split_append_cons hpart, hrest]

/-- The parts of a string: they hold no separator, and joined they give it back. -/
theorem splitString_eq_iff {s : String} {parts : List String} :
    splitString sep s = parts ↔
      parts ≠ [] ∧ (∀ part ∈ parts, sep ∉ part.toList) ∧ joinStrings sep parts = s := by
  constructor
  · rintro rfl
    refine ⟨?_, ?_, joinStrings_splitString sep s⟩
    · simpa [splitString] using split_ne_nil sep s.toList
    · intro part hpart
      rcases List.mem_map.1 hpart with ⟨chars, hchars, rfl⟩
      rw [String.toList_ofList]
      exact notMem_of_mem_split hchars
  · rintro ⟨hne, hparts, rfl⟩
    have hsplit : split sep (joinWith sep (parts.map String.toList)) = parts.map String.toList := by
      refine split_joinWith (by simpa using hne) ?_
      intro chars hchars
      rcases List.mem_map.1 hchars with ⟨part, hpart, rfl⟩
      exact hparts part hpart
    rw [splitString, joinStrings, String.toList_ofList, hsplit, List.map_map]
    simp

/-! ## Leads and spans -/

variable {f : Char → Bool} {c : Char}

/-- A lead is taken off the text that it was put before. -/
theorem isPrefixOf?_append {α : Type} [BEq α] [LawfulBEq α] (lead rest : List α) :
    lead.isPrefixOf? (lead ++ rest) = some rest :=
  List.isPrefixOf?_eq_some_iff_append_eq.2 rfl

/-- A span of characters of one kind ends before the first character of another. -/
theorem takeWhile_append_cons (hs : s.all f) (hc : f c = false) (rest : List Char) :
    (s ++ c :: rest).takeWhile f = s := by
  rw [List.takeWhile_append_of_pos (List.all_eq_true.1 hs), List.takeWhile_cons, hc]
  simp

/-- What is left behind a span begins with the character that ended it. -/
theorem dropWhile_append_cons (hs : s.all f) (hc : f c = false) (rest : List Char) :
    (s ++ c :: rest).dropWhile f = c :: rest := by
  rw [List.dropWhile_append_of_pos (List.all_eq_true.1 hs), List.dropWhile_cons, hc]
  simp

/-! ## Lines -/

/-- The lines, each with a line feed behind it. -/
def unlines (lines : List String) : String := String.join (lines.map (· ++ "\n"))

theorem toList_unlines (lines : List String) :
    (unlines lines).toList = lines.flatMap fun l => l.toList ++ ['\n'] := by
  simp [unlines, String.toList_join, List.flatMap_map]

theorem unlines_nil : unlines [] = "" := rfl

theorem unlines_cons (l : String) (lines : List String) :
    unlines (l :: lines) = l ++ "\n" ++ unlines lines := by
  simp [← String.toList_inj, toList_unlines]

theorem unlines_append (first last : List String) :
    unlines (first ++ last) = unlines first ++ unlines last := by
  simp [← String.toList_inj, toList_unlines]

/-- Reading gives back what was written, and the empty rest behind the last line feed. -/
theorem split_unlines (hlines : ∀ l ∈ lines, '\n' ∉ l.toList) :
    split '\n' (unlines lines).toList = lines.map String.toList ++ [[]] := by
  induction lines with
  | nil => rfl
  | cons l lines ih =>
    have hl : '\n' ∉ l.toList := hlines l List.mem_cons_self
    have hrest := ih fun m hm => hlines m (List.mem_cons_of_mem l hm)
    rw [toList_unlines] at hrest ⊢
    rw [List.flatMap_cons, List.append_assoc, List.singleton_append, split_append_cons hl, hrest]
    rfl

theorem splitString_unlines (hlines : ∀ l ∈ lines, '\n' ∉ l.toList) :
    splitString '\n' (unlines lines) = lines ++ [""] := by
  rw [splitString, split_unlines hlines]
  simp

end ProxyForge.Text
