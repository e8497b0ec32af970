import AnchorOutline.Json.Token

/-!
# Numbers

A number without point and exponent is an integer if it fits into 64 bits. Any other becomes a
double: its digits, as far as 64 bits hold them, make an integer, which is then scaled by a power of
ten in double arithmetic. That is not always the nearest double, but it is what the text stands for.

* `Json.readNumber` : a number behind its sign.
-/

namespace AnchorOutline.Json

inductive Number where
  | integer (value : Int)
  | double (bits : UInt64)
  deriving Repr, DecidableEq

def digitValue (c : Char) : Nat := c.toNat - '0'.toNat

def largestInteger : Nat := Nat.pow 2 64 - 1

/-- Takes digits as long as their number fits into 64 bits; gives the number, how many digits it
took, and the rest. -/
def takeDigits (value count : Nat) : List Char → Nat × Nat × List Char
  | [] => (value, count, [])
  | c :: cs =>
    if c.isDigit && value * 10 + digitValue c ≤ largestInteger then
      takeDigits (value * 10 + digitValue c) (count + 1) cs
    else (value, count, c :: cs)

/-- The digits that come next, by number, and the rest. -/
def dropDigits (cs : List Char) : Nat × List Char :=
  ((cs.takeWhile Char.isDigit).length, cs.dropWhile Char.isDigit)

/-- `f` divided by `10 ^ n`, in steps that a double can hold. -/
def divideByTenPow (f : Float) (n : Nat) : Float :=
  if n ≤ 308 then f / Float.ofScientific 1 false n
  else if f == 0.0 then f
  else divideByTenPow (f / Float.ofScientific 1 false 308) (n - 308)
termination_by n

/-- The double nearest to `value`, scaled by a power of ten in double arithmetic. Too large a
number is a failure at the place reached. -/
def doubleOf (negative : Bool) (value : Nat) (exponent : Int) : Reader Number := fun rest => do
  let f := Float.ofNat value
  let scaled ←
    if exponent < 0 then pure (divideByTenPow f exponent.natAbs)
    else if exponent ≤ 308 then do
      let g := f * Float.ofScientific 1 false exponent.natAbs
      if g.isInf then failAt .numberOutOfRange rest else pure g
    else if value = 0 then pure f
    else failAt .numberOutOfRange rest
  return (.double (if negative then -scaled else scaled).toBits, rest)

def largestExponent : Nat := Nat.pow 2 31 - 1

/-- Digits of an exponent while their number fits into 31 bits; otherwise what is behind the digit
that goes too far. -/
def takeExponent (value : Nat) : List Char → Except (List Char) (Nat × List Char)
  | [] => .ok (value, [])
  | c :: cs =>
    if c.isDigit then
      if value * 10 + digitValue c ≤ largestExponent then
        takeExponent (value * 10 + digitValue c) cs
      else .error cs
    else .ok (value, c :: cs)

/-- Keeps an exponent within 32 bits. -/
def clampExponent (e : Int) : Int := max (-largestExponent - 1) (min largestExponent e)

def readExponent (negative : Bool) (value : Nat) (exponent : Int) : Reader Number := fun cs =>
  let (down, cs) := match cs with
    | '+' :: cs => (false, cs)
    | '-' :: cs => (true, cs)
    | cs => (false, cs)
  match cs with
  | [] => failAt .eofInValue []
  | c :: rest =>
    if !c.isDigit then failNext .invalidNumber (c :: rest)
    else match takeExponent (digitValue c) rest with
      | .ok (e, rest) =>
        let total := clampExponent (if down then exponent - e else exponent + e)
        doubleOf negative value total rest
      | .error rest =>
        if value ≠ 0 ∧ !down then failAt .numberOutOfRange rest
        else doubleOf negative 0 0 (dropDigits rest).2

/-- What follows the digits of a number that is no integer. -/
def readScale (negative : Bool) (value : Nat) (exponent : Int) : Reader Number
  | 'e' :: rest | 'E' :: rest => readExponent negative value exponent rest
  | rest => doubleOf negative value exponent rest

/-- The digits behind the point. Those that do not fit any more are dropped. -/
def readFraction (negative : Bool) (value : Nat) (exponent : Int) : Reader Number := fun cs =>
  let (value, count, rest) := takeDigits value 0 cs
  let exponent := exponent - count
  match rest with
  | c :: _ =>
    if c.isDigit then readScale negative value exponent (dropDigits rest).2
    else if count = 0 then failNext .invalidNumber rest
    else readScale negative value exponent rest
  | [] => if count = 0 then failAt .eofInValue [] else readScale negative value exponent []

/-- An integer if it fits into 64 bits, and otherwise a double; minus zero is one. -/
def integerOf (negative : Bool) (value : Nat) : Reader Number := fun rest =>
  if !negative then .ok (.integer value, rest)
  else if value = 0 ∨ Nat.pow 2 63 < value then
    .ok (.double (-(Float.ofNat value)).toBits, rest)
  else .ok (.integer (-value), rest)

def readNumber (negative : Bool) : Reader Number
  | [] => failAt .eofInValue []
  | c :: rest =>
    if !c.isDigit then failNext .invalidNumber (c :: rest)
    else if c = '0' ∧ (rest.head?.any Char.isDigit) then failNext .invalidNumber rest
    else
      let (value, _, rest) := takeDigits 0 0 (c :: rest)
      let (dropped, rest) := dropDigits rest
      match rest with
      | '.' :: rest => readFraction negative value dropped rest
      | 'e' :: rest | 'E' :: rest => readExponent negative value dropped rest
      | rest =>
        if dropped = 0 then integerOf negative value rest
        else doubleOf negative value dropped rest

end AnchorOutline.Json
