/-!
# ProxyForge.Text.Split — lists separated by one character

Paths separate names by slashes, search lists separate directories by colons,
and files separate lines by line feeds. In all three every separator ends a
part, so that empty parts are kept: `joinWith_split` says that nothing is lost.
-/

namespace ProxyForge.Text

/-- The parts between the separators. There is one part more than separators. -/
def split (sep : Char) : List Char → List (List Char)
  | [] => [[]]
  | c :: rest =>
    if c = sep then [] :: split sep rest
    else
      match split sep rest with
      | [] => [[c]]
      | part :: parts => (c :: part) :: parts

/-- The parts with a separator between each two. -/
def joinWith (sep : Char) : List (List Char) → List Char
  | [] => []
  | [part] => part
  | part :: parts => part ++ sep :: joinWith sep parts

theorem split_ne_nil (sep : Char) (s : List Char) : split sep s ≠ [] := by
  fun_cases split sep s <;> simp_all

theorem joinWith_cons (sep : Char) (part : List Char) {parts : List (List Char)}
    (h : parts ≠ []) : joinWith sep (part :: parts) = part ++ sep :: joinWith sep parts := by
  cases parts with
  | nil => exact absurd rfl h
  | cons => rfl

/-- Joining the parts gives the text back. -/
theorem joinWith_split (sep : Char) (s : List Char) : joinWith sep (split sep s) = s := by
  fun_induction split sep s with
  | case1 => rfl
  | case2 rest ih => simp [joinWith_cons sep [] (split_ne_nil sep rest), ih]
  | case3 c rest _ h => exact absurd h (split_ne_nil sep rest)
  | case4 c rest hc part parts h ih =>
    rw [h] at ih
    cases parts <;> simp_all [joinWith]

/-- The parts of a string between the separators. -/
def splitString (sep : Char) (s : String) : List String :=
  (split sep s.toList).map String.ofList

/-- The strings with a separator between each two. -/
def joinStrings (sep : Char) (parts : List String) : String :=
  String.ofList (joinWith sep (parts.map String.toList))

theorem joinStrings_splitString (sep : Char) (s : String) :
    joinStrings sep (splitString sep s) = s := by
  simp [joinStrings, splitString, Function.comp_def, joinWith_split]

end ProxyForge.Text
