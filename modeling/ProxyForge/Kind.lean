import ProxyForge.Word

/-!
# ProxyForge.Kind — what crosses a proxy

A proxy passes runtime values, C truth values, raw words or nothing at all.
`Kind` names these four; `Kind.Carrier` is the Lean type of the things
themselves, so that the kind a primitive declares fixes the type of its
answer.
-/

namespace ProxyForge

/-- The kind of an argument or result of a primitive. -/
inductive Kind where
  | value
  | truth
  | bits
  | unit
deriving DecidableEq, Repr

namespace Kind

/-- The things of a kind. -/
@[reducible] def Carrier : Kind → Type
  | value => Word
  | truth => Bool
  | bits => UInt64
  | unit => Unit

/-- The name of the kind in listings and messages. -/
def name : Kind → String
  | value => "value"
  | truth => "truth"
  | bits => "bits"
  | unit => "unit"

/-- The C type of the kind. -/
def cType : Kind → String
  | value => "SCM"
  | truth => "bool"
  | bits => "scm_t_bits"
  | unit => "void"

/-- The type of the kind in binding signatures. -/
def signatureType : Kind → String
  | value => "Scm"
  | truth => "bool"
  | bits => "ScmBits"
  | unit => "()"

/-- The kind with the given name. -/
def ofName? : String → Option Kind
  | "value" => some value
  | "truth" => some truth
  | "bits" => some bits
  | "unit" => some unit
  | _ => none

end Kind

end ProxyForge
