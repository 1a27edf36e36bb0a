import ProxyForge.Text.Digits
import ProxyForge.Toml.Value

/-!
# ProxyForge.Toml.Number — integers and numbers with a fraction

Single underscores may stand between digits. A decimal integer has no leading
zeros; other radices have neither sign nor leading-zero rule. Integers fit into
64 bits. A number with a fraction or an exponent must be finite after rounding
to double precision, unless it is negative or written `inf` or `nan`.
-/

namespace ProxyForge.Toml

/-- The digits after the ones in `acc`, the last first. -/
def moreDigits (radix : Nat) (acc : List Nat) : List Char → List Nat × List Char
  | '_' :: c :: rest =>
    match Text.digit? radix c with
    | some d => moreDigits radix (d :: acc) rest
    | none => (acc.reverse, '_' :: c :: rest)
  | c :: rest =>
    match Text.digit? radix c with
    | some d => moreDigits radix (d :: acc) rest
    | none => (acc.reverse, c :: rest)
  | [] => (acc.reverse, [])

/-- One digit or more. -/
def digits? (radix : Nat) : Reader (List Nat)
  | [] => none
  | c :: rest => (Text.digit? radix c).map fun d => moreDigits radix [d] rest

/-- The digits of a decimal integer: a zero stands alone. -/
def decimalDigits? : Reader (List Nat)
  | '0' :: rest => some ([0], rest)
  | s => digits? 10 s

/-- The integer, if it fits into 64 bits. -/
def integer? (n : Int) : Option Value :=
  if Int64.minValue.toInt ≤ n ∧ n ≤ Int64.maxValue.toInt then some (.integer n) else none

/-- The digits behind a decimal point. -/
def fraction? : Reader (List Nat)
  | '.' :: rest => digits? 10 rest
  | _ => none

/-- The power of ten behind the letter `e`. -/
def exponent? : Reader Int
  | [] => none
  | c :: rest =>
    if c = 'e' ∨ c = 'E' then
      match rest with
      | '-' :: rest => (digits? 10 rest).map fun (ds, rest) => (-(Text.ofDigits 10 ds : Int), rest)
      | '+' :: rest => (digits? 10 rest).map fun (ds, rest) => ((Text.ofDigits 10 ds : Int), rest)
      | rest => (digits? 10 rest).map fun (ds, rest) => ((Text.ofDigits 10 ds : Int), rest)
    else none

/-- The least number that double precision rounds to infinity. -/
def overflowBound : Nat := Nat.pow 2 1024 - Nat.pow 2 970

/-- Whether `mantissa * 10 ^ power` overflows double precision. The number of digits
of the mantissa decides alone unless it comes close. -/
def overflows (mantissa : Nat) (power : Int) : Bool :=
  let size := (Nat.toDigits 10 mantissa).length + power
  if mantissa = 0 ∨ size < 300 then false
  else if size > 320 then true
  else if power ≥ 0 then decide (overflowBound ≤ mantissa * Nat.pow 10 power.toNat)
  else decide (overflowBound * Nat.pow 10 (-power).toNat ≤ mantissa)

/-- A fraction and exponent behind the integral digits `whole`, at least one of
them. -/
def floatTail? (negative : Bool) (whole : List Nat) (s : List Char) : Option (List Char) := do
  let (fraction, rest) := (fraction? s).getD ([], s)
  let (power, rest) ←
    match exponent? rest with
    | some (power, rest) => some (power, rest)
    | none => if fraction.isEmpty then none else some (0, rest)
  let mantissa := Text.ofDigits 10 (whole ++ fraction)
  if !negative && overflows mantissa (power - fraction.length) then none else some rest

/-- A number without its sign; `literal` gives the text of the number, from what is
left behind it. -/
def unsigned? (sign : Option Bool) (literal : List Char → String) (s : List Char) :
    Option (Value × List Char) :=
  let negative := sign == some true
  let radix (r : Nat) (rest : List Char) : Option (Value × List Char) := do
    let (ds, rest) ← digits? r rest
    return (← integer? (Text.ofDigits r ds), rest)
  match sign, s with
  | _, 'i' :: 'n' :: 'f' :: rest => some (.float (literal rest), rest)
  | _, 'n' :: 'a' :: 'n' :: rest => some (.float (literal rest), rest)
  | none, '0' :: 'x' :: rest => radix 16 rest
  | none, '0' :: 'o' :: rest => radix 8 rest
  | none, '0' :: 'b' :: rest => radix 2 rest
  | _, s => do
    let (whole, rest) ← decimalDigits? s
    match floatTail? negative whole rest with
    | some rest => return (.float (literal rest), rest)
    | none =>
      let n : Int := Text.ofDigits 10 whole
      return (← integer? (if negative then -n else n), rest)

/-- A number. -/
def number? : Reader Value := fun s =>
  let literal (rest : List Char) : String := String.ofList (s.take (s.length - rest.length))
  match s with
  | '+' :: rest => unsigned? (some false) literal rest
  | '-' :: rest => unsigned? (some true) literal rest
  | rest => unsigned? none literal rest

end ProxyForge.Toml
