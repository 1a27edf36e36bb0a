import ProxyForge.Compiler.CType

/-!
# ProxyForge.Compiler.Records — what records hold, and the sizes of types

A table keeps the members of the records of a source. From it follow the sizes of all
types, on a machine with pointers of 64 bits (`Records.size?`), and the types of
members (`Records.member?`).
-/

namespace ProxyForge.Compiler

/-- What a record holds. Before its members are known it is incomplete. -/
structure RecordInfo where
  isUnion : Bool
  /-- The members in order; those without a name are records themselves. -/
  members : Option (List (String × CType)) := none
  size : Nat := 0
  alignment : Nat := 1

/-- The records of a source by their numbers. -/
abbrev Records := Array RecordInfo

namespace Records

/-- A number rounded up to a multiple. -/
def roundUp (n alignment : Nat) : Nat := (n + alignment - 1) / max alignment 1 * alignment

/-- The size of the values of a type and the multiple that their places are; `none`
when not enough is known of it. -/
def layout? (rs : Records) : CType → Option (Nat × Nat)
  | .void => none
  | .number n => some (n.size, n.size)
  | .pointer _ => some (8, 8)
  | .array element length => do
    let (size, alignment) ← rs.layout? element
    return (size * (← length), alignment)
  | .function .. | .openFunction _ => none
  | .record id => do
    let info ← rs[id]?
    let _ ← info.members
    return (info.size, info.alignment)
  | .const t => rs.layout? t

/-- The size of the values of a type. Functions and the type without values count
as one. -/
def size? (rs : Records) (t : CType) : Option Nat :=
  if t.isVoid ∨ t.isFunction then some 1 else (rs.layout? t).map Prod.fst

/-- Whether a type is known well enough to have values. -/
def isComplete (rs : Records) (t : CType) : Bool := (rs.layout? t).isSome

/-- A record with the given members. -/
def describe (rs : Records) (isUnion : Bool) (members : List (String × CType)) : RecordInfo :=
  let layouts := members.map fun m => (rs.layout? m.2).getD (0, 1)
  let alignment := (layouts.map Prod.snd).foldl max 1
  let size :=
    if isUnion then (layouts.map Prod.fst).foldl max 0
    else layouts.foldl (fun offset l => roundUp offset l.2 + l.1) 0
  { isUnion, members := some members, size := roundUp size alignment, alignment }

/-- The type of a member of a record, also of one inside its members without a name.
The number bounds how deep records without a name lie in each other. -/
def member? (rs : Records) (id : Nat) (name : String) : Option CType :=
  go 64 id
where
  go : Nat → Nat → Option CType
    | 0, _ => none
    | depth + 1, id => do
      let members ← (← rs[id]?).members
      match members.lookup name with
      | some t => return t
      | none =>
        members.findSome? fun (inner, t) =>
          match t.unqualified with
          | .record id => if inner = "" then go depth id else none
          | _ => none

end Records

end ProxyForge.Compiler
