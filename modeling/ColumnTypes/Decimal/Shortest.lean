/-!
# Shortest decimal digits of a binary number

A finite positive binary64 number is `m · 2^q` with natural `m`.  Every real between the midpoints
to its two neighbours rounds to it, the midpoints themselves exactly when `m` is even.  The
**shortest digits** are found on the coarsest decimal grid that has a point in this interval; of
two such points the nearer one is taken.

The arithmetic is exact on naturals.  A number is held as a fraction whose denominator is a power
of two, so a comparison with a grid point is a comparison of products.
-/

namespace ColumnTypes.Decimal

/-- A power of two. -/
def twoTo (n : Nat) : Nat :=
  Nat.pow 2 n

/-- A power of ten. -/
def tenTo (n : Nat) : Nat :=
  Nat.pow 10 n

/-- A finite positive binary number `mantissa · 2^exponent`, with the facts that decide which reals
round to it. -/
structure Binary where
  mantissa : Nat
  exponent : Int
  /-- The neighbour below is at half the distance of the neighbour above. -/
  lowerGapHalved : Bool

/-- What the bits of a binary64 number stand for. -/
inductive Decoded where
  | nan
  | infinite (negative : Bool)
  | zero (negative : Bool)
  | finite (negative : Bool) (value : Binary)

/-- Reads sign, exponent and fraction of a binary64 number. -/
def decode (x : Float) : Decoded :=
  let bits := x.toBits.toNat
  let negative := bits / twoTo 63 % 2 == 1
  let exponent : Nat := bits / twoTo 52 % twoTo 11
  let fraction : Nat := bits % twoTo 52
  if exponent = 2047 then
    if fraction = 0 then .infinite negative else .nan
  else if exponent = 0 then
    if fraction = 0 then .zero negative else .finite negative ⟨fraction, -1074, false⟩
  else
    .finite negative ⟨twoTo 52 + fraction, (exponent : Int) - 1075, fraction == 0 && exponent != 1⟩

/-- The integer a binary64 number equals, if there is one. -/
def toInt? (x : Float) : Option Int :=
  match decode x with
  | .zero _ => some 0
  | .finite negative v =>
    let n : Option Nat :=
      if 0 ≤ v.exponent then some (v.mantissa * twoTo v.exponent.toNat)
      else
        let d := twoTo (-v.exponent).toNat
        if v.mantissa % d = 0 then some (v.mantissa / d) else none
    n.map fun n => if negative then -(n : Int) else n
  | _ => none

namespace Binary

/-- Numerator of the number over the common denominator `4 · 2^(-exponent)`. -/
def numerator (v : Binary) : Nat :=
  4 * v.mantissa * twoTo v.exponent.toNat

/-- Common denominator of the number and of its two midpoints. -/
def denominator (v : Binary) : Nat :=
  4 * twoTo (-v.exponent).toNat

/-- Numerator of the midpoint to the neighbour above. -/
def upperMidpoint (v : Binary) : Nat :=
  (4 * v.mantissa + 2) * twoTo v.exponent.toNat

/-- Numerator of the midpoint to the neighbour below. -/
def lowerMidpoint (v : Binary) : Nat :=
  (4 * v.mantissa - if v.lowerGapHalved then 1 else 2) * twoTo v.exponent.toNat

/-- Whether `digits · 10^scale` rounds to the number. -/
def accepts (v : Binary) (digits : Nat) (scale : Int) : Bool :=
  let point := digits * tenTo scale.toNat * v.denominator
  let unit := tenTo (-scale).toNat
  if v.mantissa % 2 = 0 then
    v.lowerMidpoint * unit ≤ point && point ≤ v.upperMidpoint * unit
  else
    v.lowerMidpoint * unit < point && point < v.upperMidpoint * unit

/-- The largest `k` with `10^k ≤ v`, found by correcting an estimate from the binary exponent. -/
def decimalExponent (v : Binary) : Int :=
  let bits := (v.mantissa.log2 : Int) + v.exponent
  let estimate := bits * 30103 / 100000
  let reaches (k : Int) : Bool :=
    tenTo k.toNat * v.denominator ≤ v.numerator * tenTo (-k).toNat
  if reaches (estimate + 1) then estimate + 1
  else if reaches estimate then estimate
  else estimate - 1

/-- The best point of the grid of multiples of `10^scale` that rounds to the number. -/
def onGrid? (v : Binary) (scale : Int) : Option Nat :=
  let num := v.numerator * tenTo (-scale).toNat
  let den := v.denominator * tenTo scale.toNat
  let below := num / den
  let rest := num % den
  match v.accepts below scale, v.accepts (below + 1) scale with
  | true, true =>
    some (if 2 * rest < den || (2 * rest == den && below % 2 == 0) then below else below + 1)
  | true, false => some below
  | false, true => some (below + 1)
  | false, false => none

/-- Shortest digits and their scale: the number is written `digits · 10^scale`.  Seventeen digits
always suffice. -/
def shortest (v : Binary) : Nat × Int :=
  let top := v.decimalExponent
  ((List.range 17).findSome? fun (n : Nat) =>
    let scale := top - (n : Int)
    (v.onGrid? scale).map (·, scale)).getD (0, 0)

end Binary

/-- Drops the zeros at the end of a positive number, counting them. -/
def dropEndZeros : Nat → Nat → Nat → Nat × Nat
  | 0, n, zeros => (n, zeros)
  | fuel + 1, n, zeros => if n % 10 = 0 then dropEndZeros fuel (n / 10) (zeros + 1) else (n, zeros)

/-- How a number's digits are laid out: plain between two powers of ten, else with an exponent. -/
structure Style where
  /-- Smallest decimal exponent that is written plainly. -/
  lowestPlain : Int
  /-- First decimal exponent that is not. -/
  firstScientific : Int
  /-- Digits of the exponent, at least. -/
  exponentDigits : Nat

/-- Pads a numeral on the left with zeros. -/
def padLeft (width : Nat) (digits : String) : String :=
  "".pushn '0' (width - digits.length) ++ digits

/-- Lays out `digits · 10^scale` for positive digits. -/
def Style.write (style : Style) (digits : Nat) (scale : Int) : String :=
  let (digits, zeros) := dropEndZeros 20 digits 0
  let scale := scale + zeros
  let text := toString digits
  let top : Int := scale + text.length - 1
  if style.lowestPlain ≤ top ∧ top < style.firstScientific then
    if 0 ≤ scale then text.pushn '0' scale.toNat ++ ".0"
    else if 0 ≤ top then
      let whole := top.toNat + 1
      (text.take whole).toString ++ "." ++ (text.drop whole).toString
    else "0." ++ "".pushn '0' (-top - 1).toNat ++ text
  else
    let fraction := if text.length = 1 then "" else "." ++ (text.drop 1).toString
    let sign := if top < 0 then "-" else "+"
    (text.take 1).toString ++ fraction ++ "e" ++ sign ++
      padLeft style.exponentDigits (toString top.natAbs)

/-- Numbers are plain from `10^-4` up to below `10^16`, and an exponent has two digits or more. -/
def standardStyle : Style := ⟨-4, 16, 2⟩

/-- The text of a binary64 number. -/
def floatText (x : Float) : String :=
  match decode x with
  | .nan => "nan"
  | .infinite negative => if negative then "-inf" else "inf"
  | .zero negative => if negative then "-0.0" else "0.0"
  | .finite negative v =>
    let (digits, scale) := v.shortest
    (if negative then "-" else "") ++ standardStyle.write digits scale

end ColumnTypes.Decimal
