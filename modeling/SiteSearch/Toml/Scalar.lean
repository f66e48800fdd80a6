import SiteSearch.Text.Basic

-- Unquoted TOML values: integers, floats, booleans, dates and times.
namespace SiteSearch.Toml

open Text (divide valueOf hexValue? decimal?)

inductive Scalar where
  | integer (value : Int)
  -- a boolean, float, date, time or badly spelled integer, which no setting takes
  | other
  deriving DecidableEq

-- Digits in groups that are set apart by single underscores.
def grouped? (isDigit : Char → Bool) (text : List Char) : Option (List Char) :=
  let groups := divide '_' text
  if groups.all fun group => !group.isEmpty && group.all isDigit then some groups.flatten
  else none

def unsigned : List Char → Bool × List Char
  | '+' :: rest => (false, rest)
  | '-' :: rest => (true, rest)
  | text => (false, text)

-- A decimal number without a sign; a zero stands in front only if it stands alone.
def natural? (text : List Char) : Option Nat :=
  match text with
  | '0' :: _ :: _ => none
  | text => (grouped? Char.isDigit text).map valueOf

def radixValue (radix : Nat) (digits : List Char) : Nat :=
  digits.foldl (fun value c => radix * value + (hexValue? c).getD 0) 0

def radixNatural? (radix : Nat) (text : List Char) : Option Nat :=
  (grouped? (fun c => (hexValue? c).any (· < radix)) text).map (radixValue radix)

def integer? (text : List Char) : Option Int :=
  match text with
  | '0' :: 'x' :: digits => (radixNatural? 16 digits).map Int.ofNat
  | '0' :: 'o' :: digits => (radixNatural? 8 digits).map Int.ofNat
  | '0' :: 'b' :: digits => (radixNatural? 2 digits).map Int.ofNat
  | text =>
    let (negative, digits) := unsigned text
    (natural? digits).map fun value => if negative then -(value : Int) else value

def isExponentMark (c : Char) : Bool := c = 'e' || c = 'E'

def isExponent (text : List Char) : Bool :=
  (grouped? Char.isDigit (unsigned text).2).isSome

-- A float has a fraction or an exponent, or is infinite or no number.
def isFloat (text : List Char) : Bool :=
  let digits := (unsigned text).2
  let mantissa := digits.takeWhile (!isExponentMark ·)
  let exponent := digits.dropWhile (!isExponentMark ·)
  let exponentFits := exponent.isEmpty || isExponent (exponent.drop 1)
  digits = "inf".toList || digits = "nan".toList ||
    match divide '.' mantissa with
    | [whole] => (natural? whole).isSome && !exponent.isEmpty && exponentFits
    | [whole, fraction] =>
      (natural? whole).isSome && (grouped? Char.isDigit fraction).isSome && exponentFits
    | _ => false

def isHexDigit (c : Char) : Bool := (hexValue? c).isSome

-- What has the looks of an integer passes where nothing asks for its value: a radix without
-- digits, or digits with groups behind underscores that start with a hexadecimal digit and,
-- the last apart, end with one.
def looksInteger (text : List Char) : Bool :=
  let digits := (unsigned text).2
  match divide '_' digits with
  | first :: group :: groups =>
    !first.isEmpty && first.all Char.isDigit && first.head? ≠ some '0'
      && (group :: groups).all (·.head?.any isHexDigit)
      && (group :: groups).dropLast.all (·.getLast?.any isHexDigit)
      && !digits.any fun c => c = '.' || c = ' ' || isExponentMark c
  | _ => text = "0x".toList || text = "0o".toList || text = "0b".toList

def fixed? (size low high : Nat) (text : List Char) : Option Nat :=
  if text.length = size then (decimal? text).filter fun n => low ≤ n && n ≤ high else none

def daysIn (year month : Nat) : Nat :=
  match month with
  | 2 => if year % 4 = 0 && (year % 100 ≠ 0 || year % 400 = 0) then 29 else 28
  | 4 | 6 | 9 | 11 => 30
  | _ => 31

def isDate (text : List Char) : Bool :=
  match divide '-' text with
  | [year, month, day] =>
    match fixed? 4 0 9999 year, fixed? 2 1 12 month with
    | some year, some month => (fixed? 2 1 (daysIn year month) day).isSome
    | _, _ => false
  | _ => false

def isSecond (text : List Char) : Bool :=
  match divide '.' text with
  | [second] => (fixed? 2 0 60 second).isSome
  | [second, fraction] => (fixed? 2 0 60 second).isSome && (decimal? fraction).isSome
  | _ => false

def isHourMinute (hour minute : List Char) : Bool :=
  (fixed? 2 0 23 hour).isSome && (fixed? 2 0 59 minute).isSome

def isTime (text : List Char) : Bool :=
  match divide ':' text with
  | [hour, minute] => isHourMinute hour minute
  | [hour, minute, second] => isHourMinute hour minute && isSecond second
  | _ => false

def isOffset (text : List Char) : Bool :=
  match text with
  | [] | ['Z'] | ['z'] => true
  | '+' :: rest | '-' :: rest =>
    match divide ':' rest with
    | [hour, minute] => isHourMinute hour minute
    | _ => false
  | _ => false

def isTimeChar (c : Char) : Bool := c.isDigit || c = ':' || c = '.'

def isDateTime (text : List Char) : Bool :=
  let date := text.take 10
  match text.drop 10 with
  | [] => isDate date || isTime text
  | mark :: rest =>
    (isDate date && (mark = 'T' || mark = 't' || mark = ' ')
      && isTime (rest.takeWhile isTimeChar) && isOffset (rest.dropWhile isTimeChar))
    || isTime text

def scalar? (text : List Char) : Option Scalar :=
  match integer? text with
  | some value => some (.integer value)
  | none =>
    if text = "true".toList || text = "false".toList || isFloat text || isDateTime text
        || looksInteger text then
      some .other
    else none

end SiteSearch.Toml
