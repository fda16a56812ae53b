import PathShell.Decimal
import PathShell.Instant
import PathShell.Text.Digits
import PathShell.Toml

/-!
# TOML scalars and blanks
-/

namespace PathShell
namespace Toml

/-! ## Blanks and comments -/

def isBlank (c : Char) : Bool := c = ' ' || c = '\t'

def skipBlanks (cs : List Char) : List Char := cs.dropWhile isBlank

/-- A character that comments and literal texts may hold. -/
def isPlain (c : Char) : Bool := c = '\t' || (0x20 ≤ c.toNat && c.toNat ≠ 0x7F)

/-- What follows a line end. -/
def newLine? : List Char → Option (List Char)
  | '\n' :: rest => some rest
  | '\r' :: '\n' :: rest => some rest
  | _ => none

/-- Blanks, line ends and comments are skipped, up to what is none of them. -/
def skipTrivia (inComment : Bool) : List Char → List Char
  | '\n' :: rest => skipTrivia false rest
  | '\r' :: '\n' :: rest => skipTrivia false rest
  | c :: rest =>
    if inComment then if isPlain c then skipTrivia true rest else c :: rest
    else if c = '#' then skipTrivia true rest
    else if isBlank c then skipTrivia false rest
    else c :: rest
  | [] => []

/-- What follows the end of a line: blanks, a comment, and then a line end or the end of the text. -/
def lineEnd? (cs : List Char) : Option (List Char) :=
  let rest := match skipBlanks cs with
    | '#' :: rest => rest.dropWhile isPlain
    | rest => rest
  if rest.isEmpty then some [] else newLine? rest

/-! ## Texts -/

/-- The character that a letter after a backslash stands for. -/
def escaped? (c : Char) : Option Char :=
  if c = 'b' then some '\x08'
  else if c = 't' then some '\t'
  else if c = 'n' then some '\n'
  else if c = 'f' then some '\x0c'
  else if c = 'r' then some '\r'
  else if c = '\x22' then some '\x22'
  else if c = '\\' then some '\\'
  else none

/-- How many digits the code point after a letter has; none where the letter begins no such escape. -/
def codePointDigits (c : Char) : Nat := if c = 'u' then 4 else if c = 'U' then 8 else 0

/-- A text in quotes on one line, after the opening quote. Characters read so far are in reverse, and
    `skip` of those that follow belong to an escape that has been read. -/
def basicText? (read : List Char) : Nat → List Char → Option (String × List Char)
  | _, [] => none
  | skip + 1, _ :: rest => basicText? read skip rest
  | 0, c :: rest =>
    if c = '\x22' then some (String.ofList read.reverse, rest)
    else if c = '\\' then
      match rest with
      | [] => none
      | letter :: after =>
        let digits := codePointDigits letter
        if digits = 0 then
          match escaped? letter with
          | some plain => basicText? (plain :: read) 1 rest
          | none => none
        else
          match Digits.codePoint? digits after with
          | some plain => basicText? (plain :: read) (digits + 1) rest
          | none => none
    else if isPlain c then basicText? (c :: read) 0 rest
    else none

/-- A text in apostrophes on one line, after the opening one. -/
def literalText? (read : List Char) : List Char → Option (String × List Char)
  | [] => none
  | c :: rest =>
    if c = '\x27' then some (String.ofList read.reverse, rest)
    else if isPlain c then literalText? (c :: read) rest
    else none

/-- The end of a text of several lines: three quotes, and up to two before them that belong to it. -/
def closing? (quote : Char) (cs : List Char) : Option (List Char × List Char) :=
  let run := min 5 (cs.takeWhile (· = quote)).length
  if run < 3 then none else some (List.replicate (run - 3) quote, cs.drop run)

/-- Only blanks stand before the end of the line. -/
def endsLine (cs : List Char) : Bool := (newLine? (skipBlanks cs)).isSome

/-- How many characters at the front are blanks and line ends. -/
def blankRun : List Char → Nat
  | '\n' :: rest => blankRun rest + 1
  | '\r' :: '\n' :: rest => blankRun rest + 2
  | c :: rest => if isBlank c then blankRun rest + 1 else 0
  | [] => 0

/-- A text of several lines in quotes. A backslash at the end of a line joins it to the next text, and
    every line end is a line feed. -/
def basicLines? (read : List Char) : Nat → List Char → Option (String × List Char)
  | _, [] => none
  | skip + 1, _ :: rest => basicLines? read skip rest
  | 0, c :: rest =>
    match closing? '\x22' (c :: rest) with
    | some (quotes, after) => some (String.ofList (read.reverse ++ quotes), after)
    | none =>
      if c = '\\' then
        match rest with
        | [] => none
        | letter :: after =>
          let digits := codePointDigits letter
          if endsLine rest then basicLines? read (blankRun rest) rest
          else if digits = 0 then
            match escaped? letter with
            | some plain => basicLines? (plain :: read) 1 rest
            | none => none
          else
            match Digits.codePoint? digits after with
            | some plain => basicLines? (plain :: read) (digits + 1) rest
            | none => none
      else if c = '\n' then basicLines? ('\n' :: read) 0 rest
      else if c = '\r' then if rest.head? = some '\n' then basicLines? ('\n' :: read) 1 rest else none
      else if isPlain c then basicLines? (c :: read) 0 rest
      else none

/-- A text of several lines in apostrophes. Every line end is a line feed. -/
def literalLines? (read : List Char) : List Char → Option (String × List Char)
  | [] => none
  | c :: rest =>
    match closing? '\x27' (c :: rest) with
    | some (quotes, after) => some (String.ofList (read.reverse ++ quotes), after)
    | none =>
      if c = '\n' then literalLines? ('\n' :: read) rest
      else if c = '\r' then if rest.head? = some '\n' then literalLines? read rest else none
      else if isPlain c then literalLines? (c :: read) rest
      else none

/-- A line end right after the opening quotes does not count. -/
def afterOpening (cs : List Char) : List Char := (newLine? cs).getD cs

/-- A text of any of the four kinds. -/
def text? : List Char → Option (String × List Char)
  | '\x22' :: '\x22' :: '\x22' :: rest => basicLines? [] 0 (afterOpening rest)
  | '\x27' :: '\x27' :: '\x27' :: rest => literalLines? [] (afterOpening rest)
  | '\x22' :: rest => basicText? [] 0 rest
  | '\x27' :: rest => literalText? [] rest
  | _ => none

/-! ## Numbers, booleans and dates -/

/-- Digits, with single underscores between them; the digits alone. -/
def digitsOf? (isDigit : Char → Bool) (cs : List Char) : Option (List Char) :=
  let groups := cs.splitOn '_'
  if groups.all fun group => !group.isEmpty && group.all isDigit then some groups.flatten else none

/-- Decimal digits that do not begin with a zero, unless that is all. -/
def wholeDigits? (cs : List Char) : Option (List Char) :=
  match digitsOf? Char.isDigit cs with
  | some ('0' :: _ :: _) => none
  | other => other

def dropSign : List Char → List Char
  | '+' :: rest => rest
  | '-' :: rest => rest
  | cs => cs

/-- The number that digits of a base write. -/
def valueOf (base : Nat) (digits : List Char) : Int :=
  digits.foldl (fun value c => base * value + ((Digits.hexValue? c).getD 0 : Nat)) 0

/-- An integer of 64 bits. -/
def inRange? (value : Int) : Option Int :=
  if -9223372036854775808 ≤ value ∧ value ≤ 9223372036854775807 then some value else none

/-- A decimal integer, or one of base 16, 8 or 2 without a sign. -/
def integer? (word : List Char) : Option Int :=
  match word with
  | '0' :: 'x' :: digits =>
    ((digitsOf? (fun c => (Digits.hexValue? c).isSome) digits).map (valueOf 16)).bind inRange?
  | '0' :: 'o' :: digits =>
    ((digitsOf? (fun c => '0' ≤ c ∧ c ≤ '7') digits).map (valueOf 8)).bind inRange?
  | '0' :: 'b' :: digits =>
    ((digitsOf? (fun c => c = '0' ∨ c = '1') digits).map (valueOf 2)).bind inRange?
  | '-' :: digits => ((wholeDigits? digits).map fun digits => -valueOf 10 digits).bind inRange?
  | _ => ((wholeDigits? (dropSign word)).map (valueOf 10)).bind inRange?

/-- The digits of a fraction: none, or those after a point. -/
def fraction? : List Char → Option (List Char)
  | [] => some []
  | _ :: digits => digitsOf? Char.isDigit digits

/-- The power of ten of a float: none, or a number after a letter. -/
def power? : List Char → Option Int
  | [] => some 0
  | _ :: '-' :: digits => (digitsOf? Char.isDigit digits).map fun digits => -valueOf 10 digits
  | _ :: digits => (digitsOf? Char.isDigit (dropSign digits)).map (valueOf 10)

/-- The decimal that a float without a sign writes: digits with a fraction, a power of ten or both. -/
def magnitude? (unsigned : List Char) : Option Decimal :=
  let mantissa := unsigned.takeWhile fun c => c ≠ 'e' && c ≠ 'E'
  let power := unsigned.drop mantissa.length
  let whole := mantissa.takeWhile (· ≠ '.')
  let fraction := mantissa.drop whole.length
  if power.isEmpty && fraction.isEmpty then none
  else
    match wholeDigits? whole, fraction? fraction, power? power with
    | some whole, some fraction, some power =>
      some ⟨Nat.ofDigitChars 10 (whole ++ fraction) 0, power - fraction.length⟩
    | _, _, _ => none

/-- A float: a decimal, or one of the special values. A decimal above all finite numbers is none; one
    below them is. -/
def isFloat (word : List Char) : Bool :=
  let unsigned := dropSign word
  if unsigned = ['i', 'n', 'f'] || unsigned = ['n', 'a', 'n'] then true
  else
    match magnitude? unsigned with
    | none => false
    | some magnitude => word.head? = some '-' || !magnitude.overflows

/-- The number that exactly `width` digits write. -/
def fixed? (width : Nat) (cs : List Char) : Option (Nat × List Char) :=
  let digits := cs.take width
  if digits.length = width && digits.all Char.isDigit then
    some (Nat.ofDigitChars 10 digits 0, cs.drop width)
  else none

/-- A day, and what follows it. -/
def date? (cs : List Char) : Option (List Char) :=
  match fixed? 4 cs with
  | some (year, '-' :: cs) =>
    match fixed? 2 cs with
    | some (month, '-' :: cs) =>
      match fixed? 2 cs with
      | some (day, cs) => if 1 ≤ day ∧ day ≤ daysInMonth year month then some cs else none
      | none => none
    | _ => none
  | _ => none

/-- An hour and a minute, and what follows them. -/
def hourMinute? (cs : List Char) : Option (List Char) :=
  match fixed? 2 cs with
  | some (hour, ':' :: cs) =>
    match fixed? 2 cs with
    | some (minute, cs) => if hour < 24 ∧ minute < 60 then some cs else none
    | none => none
  | _ => none

/-- A time of day, and what follows it. -/
def time? (cs : List Char) : Option (List Char) :=
  match hourMinute? cs with
  | some (':' :: cs) =>
    match fixed? 2 cs with
    | some (second, cs) =>
      if 60 < second then none
      else
        match cs with
        | '.' :: fraction =>
          let digits := fraction.takeWhile Char.isDigit
          if digits.isEmpty then none else some (fraction.drop digits.length)
        | _ => some cs
    | none => none
  | _ => none

/-- Nothing, or an offset from UTC. -/
def isOffset (cs : List Char) : Bool :=
  match cs with
  | [] => true
  | c :: rest =>
    if c = '+' ∨ c = '-' then hourMinute? rest = some []
    else (c = 'Z' ∨ c = 'z') && rest.isEmpty

/-- A date, a time or both, in one word. -/
def isDateTime (word : List Char) : Bool :=
  match date? word with
  | some [] => true
  | some (t :: rest) =>
    (t = 'T' ∨ t = 't' ∨ t = ' ') &&
      match time? rest with
      | some offset => isOffset offset
      | none => false
  | none => time? word = some []

/-- A character of a number, a boolean or a date. -/
def isWordChar (c : Char) : Bool :=
  c.isAlphanum || c = '+' || c = '-' || c = '_' || c = '.' || c = ':'

/-- A word; a date may have a time after one blank. -/
def word (cs : List Char) : List Char × List Char :=
  let first := cs.takeWhile isWordChar
  match cs.drop first.length with
  | ' ' :: rest =>
    let second := rest.takeWhile isWordChar
    if date? first = some [] && (hourMinute? (second.take 5)).isSome then
      (first ++ ' ' :: second, rest.drop second.length)
    else (first, ' ' :: rest)
  | rest => (first, rest)

/-- A scalar that is no text. -/
def scalar? (cs : List Char) : Option (Value × List Char) :=
  let (read, rest) := word cs
  if read = ['t', 'r', 'u', 'e'] || read = ['f', 'a', 'l', 's', 'e'] then some (.otherScalar, rest)
  else
    match integer? read with
    | some value => some (.integer value, rest)
    | none => if isFloat read || isDateTime read then some (.otherScalar, rest) else none

end Toml
end PathShell
