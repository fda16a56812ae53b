/-!
# JSON numbers

The written form of a number, and which of them are too large. A number is held as its first
significant digits, as many as fit 64 bits, times a power of ten; it is too large where their product,
in numbers of 53 bits, reaches 2 ^ 1024.
-/

namespace PathShell
namespace Json

/-- The nearest multiple of the unit of a 53-bit number as large as `n`, halfway cases to the even. -/
def roundTo53 (n : Nat) : Nat :=
  let unit := Nat.pow 2 (Nat.log2 n - 52)
  let low := n / unit
  let double := 2 * (n % unit)
  if double < unit ∨ (double = unit ∧ low % 2 = 0) then low * unit else (low + 1) * unit

/-- `significand * 10 ^ exponent` is no finite number. -/
def tooLarge (significand : Nat) (exponent : Int) : Bool :=
  significand ≠ 0 && 0 ≤ exponent &&
    (308 < exponent
      || Nat.pow 2 1024 - Nat.pow 2 970
          ≤ roundTo53 significand * roundTo53 (Nat.pow 10 exponent.toNat))

/-- A digit joins the significand while that stays below 2 ^ 64. -/
def takeDigits (significand : Nat) : List Char → Nat × List Char
  | [] => (significand, [])
  | c :: cs =>
    let next := 10 * significand + (c.toNat - '0'.toNat)
    if next < Nat.pow 2 64 then takeDigits next cs else (significand, c :: cs)

/-- The parts of a written number. -/
structure NumberParts where
  whole : List Char
  fraction : List Char
  negativeExponent : Bool
  exponent : List Char

/-- A run of digits. -/
def digits (cs : List Char) : List Char × List Char :=
  (cs.takeWhile Char.isDigit, cs.dropWhile Char.isDigit)

/-- The whole part: one zero, or digits that do not begin with one. -/
def wholePart? (cs : List Char) : Option (List Char × List Char) :=
  match digits cs with
  | ([], _) => none
  | (['0'], rest) => some (['0'], rest)
  | ('0' :: _, _) => none
  | (run, rest) => some (run, rest)

/-- Nothing, or a point and digits. -/
def fractionPart? : List Char → Option (List Char × List Char)
  | '.' :: cs =>
    match digits cs with
    | ([], _) => none
    | (run, rest) => some (run, rest)
  | cs => some ([], cs)

/-- Nothing, or the letter, a sign at will, and digits. -/
def exponentPart? : List Char → Option (Bool × List Char)
  | [] => some (false, [])
  | c :: cs =>
    if c = 'e' ∨ c = 'E' then
      let (negative, cs) :=
        match cs with
        | '-' :: rest => (true, rest)
        | '+' :: rest => (false, rest)
        | rest => (false, rest)
      match digits cs with
      | (run, []) => if run.isEmpty then none else some (negative, run)
      | _ => none
    else none

/-- The parts of a word that is a number. -/
def numberParts? (word : List Char) : Option NumberParts := do
  let unsigned := match word with
    | '-' :: rest => rest
    | rest => rest
  let (whole, rest) ← wholePart? unsigned
  let (fraction, rest) ← fractionPart? rest
  let (negative, exponent) ← exponentPart? rest
  return ⟨whole, fraction, negative, exponent⟩

/-- The significand that is held, and the power of ten that goes with it. -/
def NumberParts.held (parts : NumberParts) : Nat × Int :=
  let (whole, cut) := takeDigits 0 parts.whole
  let (significand, shift) :=
    if cut.isEmpty then
      let (both, left) := takeDigits whole parts.fraction
      (both, -((parts.fraction.length - left.length : Nat) : Int))
    else (whole, (cut.length : Int))
  let written := Nat.ofDigitChars 10 parts.exponent 0
  (significand, if parts.negativeExponent then shift - written else shift + written)

/-- The word is a number, and no number too large. -/
def isNumber (word : List Char) : Bool :=
  match numberParts? word with
  | none => false
  | some parts => !tooLarge parts.held.1 parts.held.2

end Json
end PathShell
