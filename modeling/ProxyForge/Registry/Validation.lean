import ProxyForge.Registry.Basic

/-!
# ProxyForge.Registry.Validation — which tables can be turned into proxies

`Registry.validate` walks a table once and stops at the first entry that the
generators cannot express, with the first fault of that entry.
`Registry.Valid` says in one sentence which tables pass.
-/

namespace ProxyForge

/-- Why a table is refused. -/
inductive RegistryError where
  | duplicate (name : String)
  | arity (name : String) (count : Nat)
  | constantKind (name : String)
  | argumentKind (name : String) (kind : Kind)
deriving DecidableEq, Repr

/-- The text of the error. -/
def RegistryError.message : RegistryError → String
  | duplicate name => "primitive `" ++ name ++ "` is registered more than once"
  | arity name count =>
    "primitive `" ++ name ++ "` has arity " ++ toString count ++ "; proxies take at most 2 arguments"
  | constantKind name => "constant `" ++ name ++ "` must denote a runtime value"
  | argumentKind name kind =>
    "primitive `" ++ name ++ "` takes a " ++ kind.name
      ++ " argument; only runtime values are passed through"

/-- The most arguments that a proxy takes. -/
def Primitive.maxArity : Nat := 2

/-- What the generators ask of an entry by itself. -/
structure Primitive.WellFormed (p : Primitive) : Prop where
  arity_le : p.arity ≤ Primitive.maxArity
  constant_value : p.args = [] → p.ret = .value
  args_value : ∀ k ∈ p.args, k = .value

namespace Registry

/-- What the generators ask of a table: names that differ and entries that are
well formed. -/
structure Valid (r : Registry) : Prop where
  names_nodup : (r.map Primitive.name).Nodup
  wellFormed : ∀ p ∈ r, p.WellFormed

/-- The first fault of an entry that follows entries with the names `seen`. -/
def faultOf? (seen : List String) (p : Primitive) : Option RegistryError :=
  if seen.contains p.name then some (.duplicate p.name)
  else if p.arity > Primitive.maxArity then some (.arity p.name p.arity)
  else if p.isConstant && p.ret != .value then some (.constantKind p.name)
  else (p.args.find? (· != .value)).map (.argumentKind p.name)

/-- Checks the entries in order, after entries with the names `seen`. -/
def validateAfter (seen : List String) : Registry → Except RegistryError Unit
  | [] => .ok ()
  | p :: rest =>
    match faultOf? seen p with
    | some e => .error e
    | none => validateAfter (p.name :: seen) rest

/-- Accepts the valid tables; any other gets the first fault of its first faulty
entry. -/
def validate (r : Registry) : Except RegistryError Unit :=
  validateAfter [] r

end Registry

end ProxyForge
