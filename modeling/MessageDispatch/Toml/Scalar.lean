/-!
# Scalars of TOML

The spellings of Booleans, numbers, dates and times. No setting is a scalar, so only whether a run
spells one is of interest, and not which. Dates and floating numbers are spelt strictly. Integers
are judged by their beginning and by what stands around their underscores (`isGrouped`), since no
one asks for their value.
-/

namespace MessageDispatch.Toml

/-- Digits in groups, with one underscore between two groups. -/
def isDigitRun (digit : Char → Bool) (cs : List Char) : Bool :=
  (cs.splitOn '_').all fun group => !group.isEmpty && group.all digit

/-- A decimal integer without a sign: no zero leads another digit. -/
def isDecimal (cs : List Char) : Bool :=
  isDigitRun (·.isDigit) cs && (cs.head? != some '0' || cs.length == 1)

/-- A hexadecimal digit. -/
def isHexDigit (c : Char) : Bool :=
  c.isDigit || (decide ('a' ≤ c) && decide (c ≤ 'f')) || (decide ('A' ≤ c) && decide (c ≤ 'F'))

/-- An integer to base 16, 8 or 2. There may be no digits after the letter of the base. -/
def isRadixInteger (cs : List Char) : Bool :=
  let digitsOf (digit : Char → Bool) (ds : List Char) := ds.isEmpty || isDigitRun digit ds
  match cs with
  | '0' :: 'x' :: digits => digitsOf isHexDigit digits
  | '0' :: 'o' :: digits => digitsOf (fun c => decide ('0' ≤ c) && decide (c ≤ '7')) digits
  | '0' :: 'b' :: digits => digitsOf (fun c => c == '0' || c == '1') digits
  | _ => false

/-- What follows a sign, or all of it when there is none. -/
def withoutSign (cs : List Char) : List Char :=
  match cs with
  | '+' :: rest => rest
  | '-' :: rest => rest
  | _ => cs

/-- Each underscore stands between two digits; `after` says that a digit comes before. -/
def underscoresHeld (digit : Char → Bool) (after : Bool) : List Char → Bool
  | [] => true
  | c :: rest =>
    if c = '_' then after && rest.head?.any digit && underscoresHeld digit false rest
    else underscoresHeld digit (digit c) rest

/-- A character that no integer has: it makes a run a number with a fraction or an exponent, or two
values. -/
def endsInteger (c : Char) : Bool :=
  c == '.' || c == 'e' || c == 'E' || c == ' '

/-- Decimal digits and then an underscore begin an integer, whatever follows, so long as there is a
digit to any base up to 16 on both sides of each underscore. -/
def isGrouped (cs : List Char) : Bool :=
  match (withoutSign cs).span (·.isDigit) with
  | (first, '_' :: rest) =>
    first.head? != some '0' && !rest.any endsInteger && underscoresHeld isHexDigit false cs
  | _ => false

/-- A decimal integer with a fraction or without. -/
def isMantissa (cs : List Char) : Bool :=
  match cs.splitOn '.' with
  | [whole] => isDecimal whole
  | [whole, fraction] => isDecimal whole && isDigitRun (·.isDigit) fraction
  | _ => false

/-- A decimal number with a sign or without: finite, infinite, or none. -/
def isNumber (cs : List Char) : Bool :=
  let body := withoutSign cs
  body == "inf".toList || body == "nan".toList ||
    match body.splitOnP (fun c => c == 'e' || c == 'E') with
    | [mantissa] => isMantissa mantissa
    | [mantissa, exponent] => isMantissa mantissa && isDigitRun (·.isDigit) (withoutSign exponent)
    | _ => false

/-- The number that decimal digits spell. -/
def digitsValue (cs : List Char) : Nat :=
  cs.foldl (fun n c => n * 10 + (c.toNat - 0x30)) 0

/-- Two digits that spell a number between bounds. -/
def isField (least most : Nat) (cs : List Char) : Bool :=
  cs.length == 2 && cs.all (·.isDigit) &&
    decide (least ≤ digitsValue cs) && decide (digitsValue cs ≤ most)

/-- The number of days of a month. -/
def daysOfMonth (year month : Nat) : Nat :=
  if month = 2 then
    if year % 4 = 0 ∧ (year % 100 ≠ 0 ∨ year % 400 = 0) then 29 else 28
  else if month = 4 ∨ month = 6 ∨ month = 9 ∨ month = 11 then 30
  else 31

/-- A date of the calendar. -/
def isDate (cs : List Char) : Bool :=
  match cs.splitOn '-' with
  | [year, month, day] =>
    year.length == 4 && year.all (·.isDigit) && isField 1 12 month &&
      isField 1 (daysOfMonth (digitsValue year) (digitsValue month)) day
  | _ => false

/-- Seconds with a fraction or without; the sixtieth is a leap second. -/
def isSecond (cs : List Char) : Bool :=
  match cs.splitOn '.' with
  | [whole] => isField 0 60 whole
  | [whole, fraction] => isField 0 60 whole && !fraction.isEmpty && fraction.all (·.isDigit)
  | _ => false

/-- A time of day; the seconds may be left out. -/
def isTime (cs : List Char) : Bool :=
  match cs.splitOn ':' with
  | [hour, minute] => isField 0 23 hour && isField 0 59 minute
  | [hour, minute, second] => isField 0 23 hour && isField 0 59 minute && isSecond second
  | _ => false

/-- A distance from universal time: none, or hours and minutes after a sign. -/
def isOffset (cs : List Char) : Bool :=
  match cs with
  | ['Z'] | ['z'] => true
  | sign :: rest =>
    (sign == '+' || sign == '-') &&
      match rest.splitOn ':' with
      | [hour, minute] => isField 0 23 hour && isField 0 59 minute
      | _ => false
  | [] => false

/-- A time of day with an offset or without. -/
def isOffsetTime (cs : List Char) : Bool :=
  match cs.span fun c => c.isDigit || c == ':' || c == '.' with
  | (time, []) => isTime time
  | (time, offset) => isTime time && isOffset offset

/-- A date, a time, or both. -/
def isDateTime (cs : List Char) : Bool :=
  isTime cs || isDate cs ||
    match cs.drop 10 with
    | c :: time => isDate (cs.take 10) && (c == 'T' || c == 't' || c == ' ') && isOffsetTime time
    | [] => false

/-- A run that spells a scalar. -/
def isScalar (cs : List Char) : Bool :=
  cs == "true".toList || cs == "false".toList || isRadixInteger cs || isGrouped cs ||
    isNumber cs || isDateTime cs

end MessageDispatch.Toml
