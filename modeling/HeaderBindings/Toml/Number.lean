import HeaderBindings.Toml.Text

/-!
# Numbers and dates of TOML

Of a number or a date only the text after it is of interest, and that it is well
formed: integers must fit into 64 bits, and decimal fractions must not be too large
for a double.
-/

namespace HeaderBindings
namespace Toml

section Digits

/-- The digits at the front of a text, with single underscores between them. -/
def digitRun? (isDigit : Char → Bool) : List Char → Option (List Char × List Char)
  | [] => none
  | [c] => if isDigit c then some ([c], []) else none
  | c :: next :: rest =>
      if !isDigit c then none
      else if next = '_' then prepend c (digitRun? isDigit rest)
      else if isDigit next then prepend c (digitRun? isDigit (next :: rest))
      else some ([c], next :: rest)

/-- The value of digits in a base. -/
def valueOf (base : Nat) (digits : List Char) : Nat :=
  digits.foldl (fun value c => value * base + (hexDigit? c).getD 0) 0

/-- A sign, true for minus, and the text after it. -/
def sign (text : List Char) : Bool × List Char :=
  match text with
  | '-' :: rest => (true, rest)
  | '+' :: rest => (false, rest)
  | _ => (false, text)

/-- The digits of an integer without a sign: no zero stands in front of other digits. -/
def wholeDigits? (text : List Char) : Option (List Char × List Char) :=
  match text with
  | '0' :: rest => some (['0'], rest)
  | _ => digitRun? Char.isDigit text

/-- The base that two characters stand for in front of an integer. -/
def baseOf? (letter : Char) : Option (Nat × (Char → Bool)) :=
  if letter = 'x' then some (16, fun c => (hexDigit? c).isSome)
  else if letter = 'o' then some (8, fun c => '0' ≤ c && c ≤ '7')
  else if letter = 'b' then some (2, fun c => c = '0' || c = '1')
  else none

end Digits

section Numbers

/-- An exponent and the text after it, if there is one.  It fails if the digits are missing. -/
def exponent? (text : List Char) : Option (Option Int × List Char) :=
  match text with
  | c :: rest =>
      if c = 'e' || c = 'E' then
        let (isNegative, after) := sign rest
        (digitRun? Char.isDigit after).map fun (digits, left) =>
          let size : Int := valueOf 10 digits
          (some (if isNegative then -size else size), left)
      else some (none, text)
  | [] => some (none, [])

/-- The digits after a point and the text after them, if there is a point.  It fails if the
digits are missing. -/
def fraction? (text : List Char) : Option (Option (List Char) × List Char) :=
  match text with
  | '.' :: rest =>
      (digitRun? Char.isDigit rest).map fun (digits, left) => (some digits, left)
  | _ => some (none, text)

/-- The least number that is no finite double when rounded to the nearest. -/
def doubleLimit : Nat := Nat.pow 2 1024 - Nat.pow 2 970

/-- Whether `digits * 10 ^ exponent` is too large for a double. -/
def isTooLarge (digits : Nat) (exponent : Int) : Bool :=
  let size : Int := (Nat.toDigits 10 digits).length + exponent
  if digits = 0 then false
  else if size > 310 then true
  else if size < 300 then false
  else if 0 ≤ exponent then doubleLimit ≤ digits * Nat.pow 10 exponent.toNat
  else doubleLimit * Nat.pow 10 (-exponent).toNat ≤ digits

/-- The text after a decimal number, with or without a sign. -/
def decimal? (text : List Char) : Option (List Char) := do
  let (isNegative, unsigned) := sign text
  let (whole, rest) ← wholeDigits? unsigned
  let (fraction, rest) ← fraction? rest
  let (exponent, rest) ← exponent? rest
  match fraction, exponent with
  | none, none =>
      let value := valueOf 10 whole
      if value < Nat.pow 2 63 || (isNegative && value = Nat.pow 2 63) then some rest else none
  | _, _ =>
      let places := (fraction.getD []).length
      let digits := valueOf 10 (whole ++ fraction.getD [])
      let exponent := exponent.getD 0 - places
      if !isNegative && isTooLarge digits exponent then none else some rest

/-- The text after a number. -/
def number? (text : List Char) : Option (List Char) :=
  let decimal :=
    match sign text with
    | (_, 'i' :: 'n' :: 'f' :: rest) => some rest
    | (_, 'n' :: 'a' :: 'n' :: rest) => some rest
    | _ => decimal? text
  match text with
  | '0' :: letter :: rest =>
      match baseOf? letter with
      | some (base, isDigit) =>
          match digitRun? isDigit rest with
          | some (digits, left) => if valueOf base digits < Nat.pow 2 63 then some left else none
          | none => none
      | none => decimal
  | _ => decimal

end Numbers

section Dates

/-- A number of exactly `count` digits. -/
def fixedDigits? (count : Nat) (text : List Char) : Option (Nat × List Char) :=
  let digits := text.take count
  if digits.length = count && digits.all Char.isDigit then
    some (valueOf 10 digits, text.drop count)
  else none

/-- The text after a character that has to stand there. -/
def expect? (c : Char) : List Char → Option (List Char)
  | [] => none
  | first :: rest => if first = c then some rest else none

/-- The days of a month. -/
def daysIn (year month : Nat) : Nat :=
  if month = 2 then
    if year % 4 = 0 && (year % 100 ≠ 0 || year % 400 = 0) then 29 else 28
  else if month = 4 || month = 6 || month = 9 || month = 11 then 30
  else 31

/-- The text after a day. -/
def day? (text : List Char) : Option (List Char) := do
  let (year, rest) ← fixedDigits? 4 text
  let rest ← expect? '-' rest
  let (month, rest) ← fixedDigits? 2 rest
  let rest ← expect? '-' rest
  let (day, rest) ← fixedDigits? 2 rest
  if 1 ≤ month && month ≤ 12 && 1 ≤ day && day ≤ daysIn year month then some rest else none

/-- The text after an hour and a minute. -/
def minute? (text : List Char) : Option (List Char) := do
  let (hour, rest) ← fixedDigits? 2 text
  let rest ← expect? ':' rest
  let (minute, rest) ← fixedDigits? 2 rest
  if hour ≤ 23 && minute ≤ 59 then some rest else none

/-- The text after a time of the day. -/
def time? (text : List Char) : Option (List Char) := do
  let rest ← minute? text
  let rest ← expect? ':' rest
  let (second, rest) ← fixedDigits? 2 rest
  if 60 < second then none
  else
    match rest with
    | '.' :: c :: more =>
        if c.isDigit then some ((c :: more).dropWhile Char.isDigit) else some rest
    | _ => some rest

/-- The text after the distance of a time from universal time, if there is one. -/
def skipOffset? (text : List Char) : Option (List Char) :=
  match text with
  | 'Z' :: rest => some rest
  | 'z' :: rest => some rest
  | '+' :: rest => minute? rest
  | '-' :: rest => minute? rest
  | _ => some text

/-- The text after a day and the time that may follow it. -/
def dayAndTime? (text : List Char) : Option (List Char) := do
  let rest ← day? text
  match rest with
  | c :: more =>
      if c = 'T' || c = 't' || c = ' ' then
        match time? more with
        | some left => skipOffset? left
        | none => some rest
      else some rest
  | [] => some []

/-- The text after a date or a time. -/
def date? (text : List Char) : Option (List Char) :=
  match dayAndTime? text with
  | some rest => some rest
  | none => time? text

end Dates

end Toml
end HeaderBindings
