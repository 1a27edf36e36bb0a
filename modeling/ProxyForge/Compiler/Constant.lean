import ProxyForge.Text.Digits

/-!
# ProxyForge.Compiler.Constant — the values of written constants

Integers are written in four radices with letters at the end for their type;
floating numbers are recognised only, since no answer depends on their values.
A character stands for its code, several ones for the number that their bytes
make up.
-/

namespace ProxyForge.Compiler

/-- An integer constant: its value, whether it is decimal, whether it is said to be
unsigned, and how often it is said to be long. -/
structure IntegerText where
  value : Nat
  isDecimal : Bool
  isUnsigned : Bool
  longs : Nat
deriving DecidableEq, Repr

namespace IntegerText

/-- The letters at the end of an integer: how often it is long. -/
def longs? : List Char → Option Nat
  | [] => some 0
  | ['l'] | ['L'] => some 1
  | ['l', 'l'] | ['L', 'L'] => some 2
  | _ => none

/-- The letters at the end of an integer: whether it is unsigned and how often it is
long. -/
def suffix? (s : List Char) : Option (Bool × Nat) :=
  let isU (c : Char) : Bool := c == 'u' || c == 'U'
  match s with
  | [] => some (false, 0)
  | c :: rest =>
    if isU c then (longs? rest).map (true, ·)
    else if s.getLast?.any isU then (longs? s.dropLast).map (true, ·)
    else (longs? s).map (false, ·)

/-- Reads digits of a radix and the letters behind them. -/
def ofDigits? (radix : Nat) (isDecimal : Bool) (s : List Char) : Option IntegerText := do
  let isDigit (c : Char) : Bool := (Text.digit? radix c).isSome
  let value ← Text.numeral? radix (s.takeWhile isDigit)
  let (isUnsigned, longs) ← suffix? (s.dropWhile isDigit)
  return { value, isDecimal, isUnsigned, longs }

/-- Reads an integer constant. -/
def parse? (s : String) : Option IntegerText :=
  match s.toList with
  | '0' :: 'x' :: rest | '0' :: 'X' :: rest => ofDigits? 16 false rest
  | '0' :: 'b' :: rest | '0' :: 'B' :: rest => ofDigits? 2 false rest
  | '0' :: rest => ofDigits? 8 false ('0' :: rest)
  | chars => ofDigits? 10 true chars

end IntegerText

/-- Whether a text is an exponent behind its letter. -/
def isExponent (s : List Char) : Bool :=
  let digits := match s with
    | '+' :: rest | '-' :: rest => rest
    | s => s
  (Text.numeral? 10 digits).isSome

/-- Whether a text is a floating constant, whose digits are of a radix and whose
exponent starts with one of the letters. Without a point there must be an
exponent, and with `needsExponent` always. -/
def isFloatingIn (radix : Nat) (letters : List Char) (needsExponent : Bool) (s : List Char) :
    Bool :=
  let isDigit (c : Char) : Bool := (Text.digit? radix c).isSome
  let isSuffix (c : Char) : Bool := ['f', 'F', 'l', 'L'].contains c
  let whole := s.takeWhile isDigit
  let rest := s.dropWhile isDigit
  let hasPoint := rest.head? == some '.'
  let rest := if hasPoint then rest.drop 1 else rest
  let fraction := if hasPoint then rest.takeWhile isDigit else []
  let rest := rest.drop fraction.length
  let ending (s : List Char) : Bool := s.isEmpty || (s.length == 1 && s.all isSuffix)
  if whole.isEmpty && fraction.isEmpty then false
  else
    match rest with
    | c :: exponent =>
      if letters.contains c then
        isExponent exponent || (exponent.getLast?.any isSuffix && isExponent exponent.dropLast)
      else hasPoint && !needsExponent && ending rest
    | [] => hasPoint && !needsExponent

/-- Whether a text is a floating constant. -/
def isFloating (s : String) : Bool :=
  match s.toList with
  | '0' :: 'x' :: rest | '0' :: 'X' :: rest => isFloatingIn 16 ['p', 'P'] true rest
  | chars => isFloatingIn 10 ['e', 'E'] false chars

/-- The code that a backslash and this character stand for. Unknown ones stand for
themselves. -/
def escapeCode (c : Char) : Nat :=
  match c with
  | 'n' => 10
  | 't' => 9
  | 'r' => 13
  | 'a' => 7
  | 'b' => 8
  | 'f' => 12
  | 'v' => 11
  | 'e' | 'E' => 27
  | c => c.toNat

/-- The codes of the characters between quotes, with escapes read; `none` for a
number without digits. There is at most one code for each character. -/
def codes? (s : List Char) : Option (List Nat) :=
  go s.length s
where
  go : Nat → List Char → Option (List Nat)
    | _, [] => some []
    | 0, _ => none
    | fuel + 1, '\\' :: c :: rest =>
      let isHex (c : Char) : Bool := (Text.hexDigit? c).isSome
      let isOctal (c : Char) : Bool := (Text.digit? 8 c).isSome
      if c = 'x' then do
        let n ← Text.numeral? 16 (rest.takeWhile isHex)
        return n % 256 :: (← go fuel (rest.dropWhile isHex))
      else if isOctal c then do
        let digits := c :: (rest.take 2).takeWhile isOctal
        let n ← Text.numeral? 8 digits
        return n % 256 :: (← go fuel (rest.drop (digits.length - 1)))
      else do return escapeCode c :: (← go fuel rest)
    | fuel + 1, c :: rest => do
      let bytes := (String.singleton c).toUTF8.toList.map UInt8.toNat
      return bytes ++ (← go fuel rest)

/-- The value of a character constant with its quotes; `none` when nothing stands
between them. -/
def characterValue? (s : String) : Option Int := do
  let chars := s.toList
  let isWide := chars.head? == some 'L'
  let codes ← codes? ((chars.drop (if isWide then 2 else 1)).dropLast)
  match codes with
  | [] => none
  | [n] => return if isWide ∨ n < 128 then (n : Int) else (n : Int) - 256
  | codes =>
    let n : Nat := codes.foldl (fun n code => (256 * n + code) % Nat.pow 2 32) 0
    return if n < Nat.pow 2 31 then (n : Int) else (n : Int) - Nat.pow 2 32

end ProxyForge.Compiler
