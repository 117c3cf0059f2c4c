import SyntaxForest.Program.Toml.Quoted

/-!
# Unquoted values of TOML

Truth values, integers, floats, dates and times. Underscores may stand between two digits. A date
and a time may be joined by one space, so that a value reaches over it.

## Main definitions

* `scalarText`: the characters of an unquoted value
* `readInteger?`, `isFloat`, `readDatetime?`: the notations
* `readScalar`: an unquoted value
-/

namespace SyntaxForest.Toml

/-- The digits of a number without the underscores between them. -/
def digits? (isDigit : Char → Bool) : List Char → Option (List Char)
  | [] => none
  | [c] => if isDigit c then some [c] else none
  | c :: '_' :: rest => if isDigit c then (digits? isDigit rest).map (c :: ·) else none
  | c :: rest => if isDigit c then (digits? isDigit rest).map (c :: ·) else none

/-- The digits of a decimal number, which does not begin with an idle zero. -/
def decimal? (text : List Char) : Option (List Char) :=
  match digits? Char.isDigit text with
  | some ('0' :: _ :: _) => none
  | found => found

/-- A sign and what follows it. -/
def splitSign : List Char → Option Char × List Char
  | '+' :: rest => (some '+', rest)
  | '-' :: rest => (some '-', rest)
  | text => (none, text)

/-- The integer that a text spells: decimal with or without a sign, or with a mark of its base. -/
def readInteger? (text : List Char) : Option Int :=
  match text with
  | '0' :: 'x' :: rest => (digits? Numeral.isHexDigit rest).map fun ds => Numeral.value 16 ds
  | '0' :: 'o' :: rest => (digits? (fun c => '0' ≤ c && c ≤ '7') rest).map fun ds =>
    Numeral.value 8 ds
  | '0' :: 'b' :: rest => (digits? (fun c => c = '0' || c = '1') rest).map fun ds =>
    Numeral.value 2 ds
  | _ =>
    let (sign, rest) := splitSign text
    (decimal? rest).map fun ds =>
      if sign = some '-' then -(Numeral.value 10 ds) else Numeral.value 10 ds

/-- An integer fits 64 bits with a sign. -/
def fits (n : Int) : Bool := Int64.minValue.toInt ≤ n && n ≤ Int64.maxValue.toInt

/-! ### Floats -/

/-- The parts of a float: its integer digits, its fraction digits and its exponent. -/
structure FloatParts where
  /-- The digits before the point. -/
  whole : List Char
  /-- The digits behind the point. -/
  fraction : List Char
  /-- The power of ten. -/
  exponent : Int

/-- The exponent that a text spells, idle zeros being allowed. -/
def readExponent? (text : List Char) : Option Int :=
  let (sign, rest) := splitSign text
  (digits? Char.isDigit rest).map fun ds =>
    if sign = some '-' then -(Numeral.value 10 ds) else Numeral.value 10 ds

/-- The parts of an unsigned float, which has a point or an exponent or both. -/
def floatParts? (text : List Char) : Option FloatParts :=
  let isMark (c : Char) : Bool := c = 'e' || c = 'E'
  let mantissa := text.takeWhile (!isMark ·)
  let exponent? :=
    match text.dropWhile (!isMark ·) with
    | [] => some 0
    | _ :: rest => readExponent? rest
  match exponent?, decimal? (mantissa.takeWhile (· ≠ '.')), mantissa.dropWhile (· ≠ '.') with
  | some exponent, some whole, [] =>
    if mantissa.length < text.length then some ⟨whole, [], exponent⟩ else none
  | some exponent, some whole, _ :: rest =>
    (digits? Char.isDigit rest).map fun fraction => ⟨whole, fraction, exponent⟩
  | _, _, _ => none

/-- Whether a float is past the greatest one of 64 bits, which half the gap above it still rounds
to. -/
def FloatParts.isTooLarge (p : FloatParts) : Bool :=
  let digits := (p.whole ++ p.fraction).dropWhile (· = '0')
  let power : Int := p.exponent - p.fraction.length
  let bound : Nat := 1 <<< 1024 - 1 <<< 970
  if digits = [] then false
  else if digits.length + power > 309 then true
  else if digits.length + power < 309 then false
  else bound * Nat.pow 10 (-power).toNat ≤ Numeral.value 10 digits * Nat.pow 10 power.toNat

/-! ### Dates and times -/

/-- Two digits that are at most `most`. -/
def twoDigits? (most : Nat) : List Char → Option (Nat × List Char)
  | a :: b :: rest =>
    if a.isDigit ∧ b.isDigit ∧ Numeral.value 10 [a, b] ≤ most then
      some (Numeral.value 10 [a, b], rest)
    else none
  | _ => none

/-- Two digits as they are written. -/
def shownTwo (n : Nat) : List Char := [Nat.digitChar (n / 10), Nat.digitChar (n % 10)]

/-- The number of days of a month. -/
def daysIn (year month : Nat) : Nat :=
  if month = 2 then
    if (year % 4 = 0 ∧ year % 100 ≠ 0) ∨ year % 400 = 0 then 29 else 28
  else if month = 4 ∨ month = 6 ∨ month = 9 ∨ month = 11 then 30
  else 31

/-- A date at the front of a text, in its standard form, and what follows it. -/
def readDate? (text : List Char) : Option (List Char × List Char) := do
  let year := text.take 4
  guard (year.length = 4 ∧ year.all Char.isDigit)
  let '-' :: rest := text.drop 4 | none
  let (month, rest) ← twoDigits? 12 rest
  let '-' :: rest := rest | none
  let (day, rest) ← twoDigits? (daysIn (Numeral.value 10 year) month) rest
  guard (1 ≤ month ∧ 1 ≤ day)
  return (year ++ '-' :: shownTwo month ++ '-' :: shownTwo day, rest)

/-- Digits of a second in their standard form: nine at most, without idle zeros at the end. -/
def shownFraction (digits : List Char) : List Char :=
  match ((digits.take 9).reverse.dropWhile (· = '0')).reverse with
  | [] => ['0']
  | kept => kept

/-- The seconds at the front of a text, in their standard form with the marks before them, and what
follows them. They may be left out. -/
def readSeconds? (text : List Char) : Option (List Char × List Char) :=
  match text with
  | ':' :: rest =>
    match twoDigits? 60 rest with
    | none => none
    | some (second, '.' :: rest) =>
      match rest.takeWhile Char.isDigit with
      | [] => none
      | digits =>
        some (':' :: shownTwo second ++ '.' :: shownFraction digits, rest.dropWhile Char.isDigit)
    | some (second, rest) => some (':' :: shownTwo second, rest)
  | _ => some ([], text)

/-- A time at the front of a text, in its standard form, and what follows it. -/
def readTime? (text : List Char) : Option (List Char × List Char) := do
  let (hour, rest) ← twoDigits? 23 text
  let ':' :: rest := rest | none
  let (minute, rest) ← twoDigits? 59 rest
  let (seconds, rest) ← readSeconds? rest
  return (shownTwo hour ++ ':' :: shownTwo minute ++ seconds, rest)

/-- The offset from universal time that a whole text spells, in its standard form. It may be left
out. -/
def readOffset? (text : List Char) : Option (List Char) :=
  match text with
  | [] => some []
  | ['Z'] | ['z'] => some ['Z']
  | sign :: rest => do
    guard (sign = '+' ∨ sign = '-')
    let (hours, rest) ← twoDigits? 23 rest
    let ':' :: rest := rest | none
    let (minutes, rest) ← twoDigits? 59 rest
    guard (rest = [])
    let sign := if hours = 0 ∧ minutes = 0 then '+' else sign
    return sign :: shownTwo hours ++ ':' :: shownTwo minutes

/-- The date, time or both that a whole text spells, in the standard form. -/
def readDatetime? (text : List Char) : Option String :=
  match readDate? text with
  | none =>
    match readTime? text with
    | some (time, []) => some (String.ofList time)
    | _ => none
  | some (date, []) => some (String.ofList date)
  | some (date, mark :: rest) => do
    guard (mark = 'T' ∨ mark = 't' ∨ mark = ' ')
    let (time, rest) ← readTime? rest
    let offset ← readOffset? rest
    return String.ofList (date ++ 'T' :: time ++ offset)

/-! ### Unquoted values -/

/-- A character that ends an unquoted value. -/
def endsScalar (c : Char) : Bool :=
  isBlank c || c = '\n' || c = '\r' || c = ',' || c = '[' || c = ']' || c = '\x7b' || c = '\x7d' ||
    c = '#' || c = '='

/-- The characters of the unquoted value at the front of a text: through a space, too, when it joins
a date and a time. -/
def scalarText (text : List Char) : List Char :=
  let word := text.takeWhile (!endsScalar ·)
  match readDate? word, text.drop word.length with
  | some (_, []), ' ' :: c :: rest =>
    if c.isDigit then word ++ ' ' :: (c :: rest).takeWhile (!endsScalar ·) else word
  | _, _ => word

/-- The value that an unquoted text spells. -/
def readScalar (text : List Char) : Except Error Value :=
  let unsigned := (splitSign text).2
  if text = ['t', 'r', 'u', 'e'] then .ok (.boolean true)
  else if text = ['f', 'a', 'l', 's', 'e'] then .ok (.boolean false)
  else if unsigned = ['i', 'n', 'f'] ∨ unsigned = ['n', 'a', 'n'] then
    .ok (.float (String.ofList text))
  else
    match readInteger? text, floatParts? unsigned, readDatetime? text with
    | some n, _, _ => if fits n then .ok (.integer n) else .error .numberOutOfRange
    | none, some parts, _ =>
      if parts.isTooLarge then .error .numberOutOfRange
      else .ok (.float (String.ofList (text.filter (· ≠ '_'))))
    | none, none, some written => .ok (.datetime written)
    | none, none, none => .error .invalidValue

end SyntaxForest.Toml
