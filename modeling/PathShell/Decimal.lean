/-!
# Shortest decimals

The decimal text of a binary floating-point number: the fewest digits that read back to it, of those
the nearest to its exact value. A number stands for the interval of reals that round to it, so a
decimal reads back exactly when it lies in that interval.
-/

namespace PathShell

/-- A positive number `mantissa * 2 ^ exponent`. -/
structure Binary where
  mantissa : Nat
  exponent : Int
  /-- The gap to the number below is half the gap to the number above. -/
  narrowBelow : Bool

/-- The number `digits * 10 ^ exponent`. -/
structure Decimal where
  digits : Nat
  exponent : Int
  deriving DecidableEq

namespace Binary

/-- The magnitude of a finite number, from the fields of its bits. -/
def ofBits (bits : UInt64) : Binary :=
  let exponent := ((bits >>> 52) &&& 0x7FF).toNat
  let fraction := (bits &&& 0xFFFFFFFFFFFFF).toNat
  if exponent = 0 then ⟨fraction, -1074, false⟩
  else ⟨Nat.pow 2 52 + fraction, (exponent : Int) - 1075, fraction = 0 ∧ 1 < exponent⟩

/-- Four times the mantissa of the lower end of the interval. -/
def lower (x : Binary) : Nat :=
  if x.narrowBelow then 4 * x.mantissa - 1 else 4 * x.mantissa - 2

/-- Four times the mantissa of the upper end of the interval. -/
def upper (x : Binary) : Nat :=
  4 * x.mantissa + 2

/-- The ends of the interval round to a number with an even mantissa. -/
def closed (x : Binary) : Bool :=
  x.mantissa % 2 = 0

/-- Quarter units of the mantissa, and steps of `10 ^ k`, on one common scale. -/
def scales (x : Binary) (k : Int) : Nat × Nat :=
  (Nat.pow 2 (x.exponent - 2).toNat * Nat.pow 10 (-k).toNat,
    Nat.pow 10 k.toNat * Nat.pow 2 (2 - x.exponent).toNat)

/-- `count * 10 ^ k` lies in the interval. -/
def covers (x : Binary) (k : Int) (count : Nat) : Bool :=
  let (quarter, step) := x.scales k
  if x.closed then x.lower * quarter ≤ count * step ∧ count * step ≤ x.upper * quarter
  else x.lower * quarter < count * step ∧ count * step < x.upper * quarter

/-- The point of the grid `10 ^ k` that is nearest to the number among its two neighbours that read
    back; halfway between them the upper one. -/
def nearest? (x : Binary) (k : Int) : Option Nat :=
  let (quarter, step) := x.scales k
  let exact := 4 * x.mantissa * quarter
  let below := exact / step
  match x.covers k below, x.covers k (below + 1) with
  | true, true => some (if 2 * exact < (2 * below + 1) * step then below else below + 1)
  | true, false => some below
  | false, true => some (below + 1)
  | false, false => none

/-- An exponent at which the grid is no finer than the number. -/
def coarsest (x : Binary) : Int :=
  let (quarter, step) := x.scales 0
  let whole := 4 * x.mantissa * quarter / step
  if 0 < whole then (Nat.toDigits 10 whole).length
  else 2 - ((Nat.toDigits 10 (step / (4 * x.mantissa * quarter))).length : Int)

/-- The first of the grids `10 ^ k`, `10 ^ (k - 1)`, … that has a point which reads back. -/
def firstHit (x : Binary) : Nat → Int → Option Decimal
  | 0, _ => none
  | tries + 1, k =>
    match x.nearest? k with
    | some count => some ⟨count, k⟩
    | none => x.firstHit tries (k - 1)

/-- The number itself, as a decimal. -/
def exact (x : Binary) : Decimal :=
  if 0 ≤ x.exponent then ⟨x.mantissa * Nat.pow 2 x.exponent.toNat, 0⟩
  else ⟨x.mantissa * Nat.pow 5 (-x.exponent).toNat, x.exponent⟩

/-- The shortest decimal that reads back. Twenty grids reach from above the leading digit past the
    seventeenth, where one always does. -/
def shortest (x : Binary) : Decimal :=
  (x.firstHit 20 x.coarsest).getD x.exact

end Binary

namespace Decimal

/-- Without an exponent: zeros fill the places up to the point, or after it. -/
def positional (d : Decimal) : String :=
  let digits := Nat.toDigits 10 d.digits
  if 0 ≤ d.exponent then String.ofList (digits ++ List.replicate d.exponent.toNat '0')
  else
    let places := (-d.exponent).toNat
    if places < digits.length then
      String.ofList (digits.take (digits.length - places) ++
        '.' :: digits.drop (digits.length - places))
    else String.ofList ('0' :: '.' :: List.replicate (places - digits.length) '0' ++ digits)

/-- The least number that rounds to no finite one: half a unit above the largest. -/
def overflowBound : Nat := Nat.pow 2 1024 - Nat.pow 2 970

/-- The decimal rounds to no finite number. The bound has 309 digits, so that only decimals with as
    many before the point are compared with it. -/
def overflows (d : Decimal) : Bool :=
  let places := d.exponent + (Nat.toDigits 10 d.digits).length
  d.digits ≠ 0 &&
    (309 < places
      || (places = 309 &&
        overflowBound * Nat.pow 10 (-d.exponent).toNat ≤ d.digits * Nat.pow 10 d.exponent.toNat))

/-- The whole text of a number: shortest digits without an exponent, `NaN`, `inf` and `-inf`. The
    sign of zero is kept. -/
def text (x : Float) : String :=
  if x.isNaN then "NaN"
  else
    let bits := x.toBits
    let magnitude :=
      if x.isInf then "inf"
      else if bits &&& 0x7FFFFFFFFFFFFFFF = 0 then "0"
      else (Binary.ofBits bits).shortest.positional
    if bits >>> 63 = 1 then "-" ++ magnitude else magnitude

end Decimal
end PathShell
