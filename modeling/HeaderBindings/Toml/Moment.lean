import HeaderBindings.Text.Digit

/-!
# TOML dates and times

Each reader gives the plain form of what it reads: a `T` stands between a date and a time, the
letter of universal time is `Z`, a distance of nothing from it is `+00:00`, and a fraction of a
second has at most nine digits and no zeros at its end, except for a single one.
-/

namespace HeaderBindings.Toml

/-- The number of two digits. -/
def twoDigits? : List Char → Option Nat
  | [a, b] => if a.isDigit && b.isDigit then some (Text.numberOf 10 [a, b]) else none
  | _ => none

/-- How many days a month has. -/
def daysIn (year month : Nat) : Nat :=
  if month = 2 then
    if year % 4 = 0 ∧ (year % 100 ≠ 0 ∨ year % 400 = 0) then 29 else 28
  else if month = 4 ∨ month = 6 ∨ month = 9 ∨ month = 11 then 30
  else 31

/-- Whether a text is a date. -/
def isDate (text : List Char) : Bool :=
  match text with
  | [a, b, c, d, '-', e, f, '-', g, h] =>
    match twoDigits? [a, b], twoDigits? [c, d], twoDigits? [e, f], twoDigits? [g, h] with
    | some century, some year, some month, some day =>
      1 ≤ month && month ≤ 12 && 1 ≤ day && day ≤ daysIn (century * 100 + year) month
    | _, _, _, _ => false
  | _ => false

/-- Whether a text is an hour and a minute. -/
def isClock : List Char → Bool
  | [a, b, ':', c, d] =>
    match twoDigits? [a, b], twoDigits? [c, d] with
    | some hour, some minute => hour < 24 && minute < 60
    | _, _ => false
  | _ => false

/-- The plain form of the digits of a fraction of a second. -/
def plainFraction (digits : List Char) : List Char :=
  match (digits.take 9).reverse.dropWhile (· == '0') with
  | [] => ['0']
  | kept => kept.reverse

/-- Reads seconds with an optional fraction, after a colon; the text may be empty. -/
def seconds? : List Char → Option (List Char)
  | [] => some []
  | ':' :: a :: b :: fraction =>
    if (twoDigits? [a, b]).any (· ≤ 60) then
      match fraction with
      | [] => some [':', a, b]
      | '.' :: digits =>
        if !digits.isEmpty && digits.all Char.isDigit then
          some (':' :: a :: b :: '.' :: plainFraction digits)
        else none
      | _ => none
    else none
  | _ => none

/-- Reads a time of day. -/
def time? (text : List Char) : Option (List Char) :=
  if isClock (text.take 5) then (seconds? (text.drop 5)).map (text.take 5 ++ ·) else none

/-- Reads a time of day with a distance from universal time. -/
def offsetTime? (text : List Char) : Option (List Char) :=
  match text.reverse with
  | 'Z' :: rest => (time? rest.reverse).map (· ++ ['Z'])
  | 'z' :: rest => (time? rest.reverse).map (· ++ ['Z'])
  | e :: d :: c :: b :: a :: sign :: rest =>
    let distance := [a, b, c, d, e]
    if (sign == '+' || sign == '-') && isClock distance then
      let shown := if distance = "00:00".toList then '+' else sign
      (time? rest.reverse).map (· ++ shown :: distance)
    else none
  | _ => none

/-- Reads a date with a time of day. -/
def dateTime? (text : List Char) : Option (List Char) :=
  match text.drop 10 with
  | separator :: time =>
    if (separator == 'T' || separator == 't' || separator == ' ') && isDate (text.take 10) then
      ((time? time).or (offsetTime? time)).map (text.take 10 ++ 'T' :: ·)
    else none
  | [] => none

/-- Reads a date, a time of day or both. -/
def moment? (text : List Char) : Option (List Char) :=
  if isDate text then some text else (time? text).or (dateTime? text)

end HeaderBindings.Toml
