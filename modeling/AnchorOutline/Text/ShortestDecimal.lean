/-!
# Shortest decimals of binary fractions

A double stands for the real numbers that round to it. Among the decimals in that interval the one
with the fewest digits is chosen, and of those with that many digits the nearest to the double.

* `Binary` : a number `m * 2 ^ q`, and `Binary.ofBits` for the finite doubles;
* `Binary.shortest` : its shortest decimal, as an integer times a power of ten;
* `Decimal.render` : a decimal in positional notation, or in scientific notation when it is very
  large or very small.
-/

namespace AnchorOutline.Text

/-- A number that is not negative, as a fraction. -/
structure Ratio where
  num : Nat
  den : Nat
  deriving Repr, DecidableEq

namespace Ratio

/-- The number `n * 2 ^ q`. -/
def scaled (n : Nat) (q : Int) : Ratio :=
  if 0 ≤ q then ⟨n * Nat.pow 2 q.toNat, 1⟩ else ⟨n, Nat.pow 2 (-q).toNat⟩

/-- The number divided by `10 ^ k`. -/
def perTenPow (r : Ratio) (k : Int) : Ratio :=
  if 0 ≤ k then ⟨r.num, r.den * Nat.pow 10 k.toNat⟩
  else ⟨r.num * Nat.pow 10 (-k).toNat, r.den⟩

def compare (a b : Ratio) : Ordering := Ord.compare (a.num * b.den) (b.num * a.den)

def floor (r : Ratio) : Nat := r.num / r.den

/-- How many digits a number has before its point: `k` when it lies from `10 ^ (k - 1)` up to, not
including, `10 ^ k`. -/
def magnitude (r : Ratio) : Int :=
  let digits := fun n : Nat => (Nat.toDigits 10 n).length
  if r.den ≤ r.num then digits r.floor
  else 1 - (digits ((r.den + r.num - 1) / r.num - 1) : Int)

end Ratio

/-- The number `mantissa * 2 ^ exponent`. The flag tells whether the doubles below it are closer
together than those above. -/
structure Binary where
  mantissa : Nat
  exponent : Int
  narrowBelow : Bool
  deriving Repr, DecidableEq

/-- The number `digits * 10 ^ exponent`. -/
structure Decimal where
  digits : Nat
  exponent : Int
  deriving Repr, DecidableEq

namespace Binary

/-- The number that the bits of a finite double stand for, without its sign. -/
def ofBits (bits : UInt64) : Binary :=
  let n := bits.toNat
  let fraction := n % Nat.pow 2 52
  let biased : Nat := n / Nat.pow 2 52 % Nat.pow 2 11
  if biased = 0 then ⟨fraction, -1074, false⟩
  else ⟨Nat.pow 2 52 + fraction, Int.ofNat biased - 1075, fraction == 0 && 1 < biased⟩

def value (b : Binary) : Ratio := .scaled b.mantissa b.exponent

/-- The ends of the interval of numbers that round to `b`: half way to its neighbours. -/
def interval (b : Binary) : Ratio × Ratio :=
  let low := if b.narrowBelow then Ratio.scaled (4 * b.mantissa - 1) (b.exponent - 2)
    else .scaled (2 * b.mantissa - 1) (b.exponent - 1)
  (low, .scaled (2 * b.mantissa + 1) (b.exponent - 1))

/-- Whether a number rounds to `b`: the ends of the interval do when the mantissa is even. -/
def covers (b : Binary) (r : Ratio) : Bool :=
  let (low, high) := b.interval
  let even := b.mantissa % 2 == 0
  match low.compare r, r.compare high with
  | .lt, .lt => true
  | .eq, .lt | .lt, .eq => even
  | _, _ => false

/-- The nearest decimal with `n` digits that rounds to `b`, if there is one. -/
def withDigits? (b : Binary) (n : Nat) : Option Decimal :=
  let unit := b.value.magnitude - n
  let v := b.value.perTenPow unit
  let below := v.floor
  let fits := fun c : Nat => b.covers ((Ratio.mk c 1).perTenPow (-unit))
  let nearer := 2 * v.num < (2 * below + 1) * v.den
  match fits below, fits (below + 1) with
  | true, true => some ⟨if nearer then below else below + 1, unit⟩
  | true, false => some ⟨below, unit⟩
  | false, true => some ⟨below + 1, unit⟩
  | false, false => none

/-- The shortest decimal that rounds to `b`; seventeen digits always do. -/
def shortest (b : Binary) : Decimal :=
  if b.mantissa = 0 then ⟨0, 0⟩
  else ((List.range 17).findSome? fun i => b.withDigits? (i + 1)).getD ⟨0, 0⟩

end Binary

namespace Decimal

/-- Digits with a point behind the first `point` of them. -/
def positional (digits : List Char) (point : Int) : List Char :=
  if point ≤ 0 then ['0', '.'] ++ List.replicate (-point).toNat '0' ++ digits
  else
    let whole := point.toNat
    if digits.length ≤ whole then
      digits ++ List.replicate (whole - digits.length) '0' ++ ['.', '0']
    else digits.take whole ++ '.' :: digits.drop whole

/-- The first digit, a point and the others, with the power of ten and its sign. -/
def scientific (digits : List Char) (point : Int) : List Char :=
  let power := point - 1
  let sign := if power < 0 then '-' else '+'
  let mantissa := match digits with
    | d :: (e :: rest) => d :: '.' :: e :: rest
    | ds => ds
  mantissa ++ 'e' :: sign :: Nat.toDigits 10 power.natAbs

/-- Positional from `10 ^ -5` up to, not including, `10 ^ 16`. -/
def render (d : Decimal) : List Char :=
  let all := Nat.toDigits 10 d.digits
  let digits := (all.reverse.dropWhile (· == '0')).reverse
  let point : Int := d.exponent + all.length
  if d.digits = 0 then ['0', '.', '0']
  else if -5 < point ∧ point ≤ 16 then positional digits point
  else scientific digits point

end Decimal

def renderDouble (bits : UInt64) : String :=
  let sign := if bits.toNat / Nat.pow 2 63 == 1 then ['-'] else []
  String.ofList (sign ++ (Binary.ofBits bits).shortest.render)

end AnchorOutline.Text
