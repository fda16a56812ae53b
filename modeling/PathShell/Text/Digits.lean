/-!
# Digits

Decimal digits and the numbers that are written with them, and the code points that hexadecimal digits
write.
-/

namespace PathShell
namespace Digits

/-- The decimal digits of `n`, with zeros in front up to `width` digits. -/
def padded (width n : Nat) : List Char :=
  List.replicate (width - (Nat.toDigits 10 n).length) '0' ++ Nat.toDigits 10 n

/-- The number that a run of at least one and at most `most` digits writes, and what follows it. -/
def read? (most : Nat) (cs : List Char) : Option (Nat × List Char) :=
  let run := (cs.take most).takeWhile Char.isDigit
  if run.isEmpty then none else some (Nat.ofDigitChars 10 run 0, cs.drop run.length)

/-- A number with a sign, a fraction and a power of ten at will; or infinity, or none. -/
def isNumeral (cs : List Char) : Bool :=
  let unsigned (cs : List Char) : List Char := match cs with
    | '+' :: rest => rest
    | '-' :: rest => rest
    | _ => cs
  let lower := (unsigned cs).map Char.toLower
  if ["inf", "infinity", "nan"].contains (String.ofList lower) then true
  else
    let mantissa := lower.takeWhile (· ≠ 'e')
    let whole := mantissa.takeWhile Char.isDigit
    (match mantissa.drop whole.length with
      | [] => !whole.isEmpty
      | '.' :: fraction => fraction.all Char.isDigit && !(whole.isEmpty && fraction.isEmpty)
      | _ => false)
    && (match lower.drop mantissa.length with
      | [] => true
      | _ :: power => !(unsigned power).isEmpty && (unsigned power).all Char.isDigit)

/-- The value of a hexadecimal digit, in either case. -/
def hexValue? (c : Char) : Option Nat :=
  if c.isDigit then some (c.toNat - '0'.toNat)
  else if 'a' ≤ c ∧ c ≤ 'f' then some (c.toNat - 'a'.toNat + 10)
  else if 'A' ≤ c ∧ c ≤ 'F' then some (c.toNat - 'A'.toNat + 10)
  else none

/-- The character whose code point the first `count` characters write in hexadecimal digits. -/
def codePoint? (count : Nat) (cs : List Char) : Option Char :=
  let digits := cs.take count
  if digits.length < count then none
  else
    match digits.mapM hexValue? with
    | none => none
    | some values =>
      let code := values.foldl (fun code value => 16 * code + value) 0
      if code < 0xD800 ∨ (0xDFFF < code ∧ code < 0x110000) then some (Char.ofNat code) else none

end Digits
end PathShell
