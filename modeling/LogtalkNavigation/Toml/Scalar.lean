import LogtalkNavigation.Failure
import LogtalkNavigation.Toml.Literal
import LogtalkNavigation.Value.Basic

namespace LogtalkNavigation.Toml

/-- Why a text is not read: it is not valid, or it has a decimal number with too many digits. -/
inductive Fault where
  | invalid
  | tooManyDigits (count : Nat)
deriving DecidableEq, Repr

def isDecimal (c : Char) : Bool := '0' ≤ c && c ≤ '9'

def digitOf (c : Char) : Nat := (Percent.value? c).getD 0

def numeral (base : Nat) (digits : Text) : Nat :=
  digits.foldl (fun number c => number * base + digitOf c) 0

def moreDigits (accepts : Char → Bool) : Text → Text × Text
  | '_' :: c :: text =>
    if accepts c then
      let (digits, rest) := moreDigits accepts text
      (c :: digits, rest)
    else ([], '_' :: c :: text)
  | c :: text =>
    if accepts c then
      let (digits, rest) := moreDigits accepts text
      (c :: digits, rest)
    else ([], c :: text)
  | [] => ([], [])

def digits? (accepts : Char → Bool) : Text → Option (Text × Text)
  | c :: text =>
    if accepts c then
      let (digits, rest) := moreDigits accepts text
      some (c :: digits, rest)
    else none
  | [] => none

def based? : Text → Option (Value × Text)
  | '0' :: mark :: text => do
    let (base, accepts) ←
      if mark = 'x' then some (16, fun c => (Percent.value? c).isSome)
      else if mark = 'o' then some (8, fun c => '0' ≤ c && c ≤ '7')
      else if mark = 'b' then some (2, fun c => c = '0' || c = '1')
      else none
    let (digits, rest) ← digits? accepts text
    some (.int (numeral base digits), rest)
  | _ => none

/-- The digits of the part in front of the point: a zero, or digits that start with none. -/
def wholePart? : Text → Option (Text × Text)
  | '0' :: text => some (['0'], text)
  | text => digits? isDecimal text

def fraction? : Text → Option (Text × Text)
  | '.' :: text => digits? isDecimal text
  | _ => none

def sign : Text → Bool × Text
  | '-' :: text => (true, text)
  | '+' :: text => (false, text)
  | text => (false, text)

def exponent? : Text → Option (Int × Text)
  | mark :: text =>
    if mark = 'e' ∨ mark = 'E' then do
      let (negative, text) := sign text
      let (digits, rest) ← digits? isDecimal text
      let size : Int := numeral 10 digits
      some (if negative then -size else size, rest)
    else none
  | [] => none

def decimal? (text : Text) : Option (Except Fault (Value × Text)) := do
  let (negative, text) := sign text
  let (whole, rest) ← wholePart? text
  let fraction := fraction? rest
  let (places, rest) := fraction.getD ([], rest)
  let exponent := exponent? rest
  let (power, rest) := exponent.getD (0, rest)
  if fraction.isNone ∧ exponent.isNone then
    if maxDigits < whole.length then some (.error (.tooManyDigits whole.length))
    else
      let size : Int := numeral 10 whole
      some (.ok (.int (if negative then -size else size), rest))
  else
    let number := Double.ofDecimal negative (numeral 10 (whole ++ places)) (power - places.length)
    some (.ok (.double number, rest))

def special? (text : Text) : Option (Value × Text) :=
  let (negative, text) := sign text
  match text with
  | 'i' :: 'n' :: 'f' :: rest => some (.double (.infinite negative), rest)
  | 'n' :: 'a' :: 'n' :: rest => some (.double .nan, rest)
  | _ => none

def twoDigits? (low high : Nat) : Text → Option (Nat × Text)
  | a :: b :: text =>
    let number := numeral 10 [a, b]
    if isDecimal a && isDecimal b && low ≤ number && number ≤ high then some (number, text) else none
  | _ => none

def mark? (c : Char) : Text → Option Text
  | d :: text => if c = d then some text else none
  | [] => none

def micros : Text → Nat × Text
  | '.' :: text =>
    let digits := text.takeWhile isDecimal
    if digits.isEmpty then (0, '.' :: text)
    else
      let kept := digits.take 6
      (numeral 10 (kept ++ List.replicate (6 - kept.length) '0'), text.drop digits.length)
  | text => (0, text)

def time? (text : Text) : Option (TimeOfDay × Text) := do
  let (hour, text) ← twoDigits? 0 23 text
  let (minute, text) ← twoDigits? 0 59 (← mark? ':' text)
  let (second, text) ← twoDigits? 0 59 (← mark? ':' text)
  let (micro, text) := micros text
  some (⟨hour, minute, second, micro⟩, text)

def offset? : Text → Option (Int × Text)
  | c :: text =>
    if c = 'Z' ∨ c = 'z' then some (0, text)
    else if c = '+' ∨ c = '-' then do
      let (hours, text) ← twoDigits? 0 23 text
      let (minutes, text) ← twoDigits? 0 59 (← mark? ':' text)
      let size : Int := hours * 60 + minutes
      some (if c = '-' then -size else size, text)
    else none
  | [] => none

def isLeap (year : Nat) : Bool := year % 4 = 0 && (year % 100 ≠ 0 || year % 400 = 0)

def daysOf (year month : Nat) : Nat :=
  if month = 2 then if isLeap year then 29 else 28
  else if month = 4 ∨ month = 6 ∨ month = 9 ∨ month = 11 then 30
  else 31

def isDay (date : Date) : Bool := 1 ≤ date.year && date.day ≤ daysOf date.year date.month

def date? : Text → Option (Date × Text)
  | a :: b :: c :: d :: text => do
    if [a, b, c, d].all isDecimal then
      let (month, text) ← twoDigits? 1 12 (← mark? '-' text)
      let (day, text) ← twoDigits? 1 31 (← mark? '-' text)
      some (⟨numeral 10 [a, b, c, d], month, day⟩, text)
    else none
  | _ => none

def timeBehind? : Text → Option (TimeOfDay × Text)
  | c :: text => if c = 'T' ∨ c = 't' ∨ c = ' ' then time? text else none
  | [] => none

def moment? (text : Text) : Option (Except Fault (Moment × Text)) :=
  match date? text with
  | some (date, rest) =>
    let (moment, rest) := match timeBehind? rest with
      | some (time, rest) =>
        match offset? rest with
        | some (offset, rest) => (Moment.dateTime date time (some offset), rest)
        | none => (.dateTime date time none, rest)
      | none => (.date date, rest)
    some (if isDay date then .ok (moment, rest) else .error .invalid)
  | none => (time? text).map fun (time, rest) => .ok (.time time, rest)

def scalar (text : Text) : Except Fault (Value × Text) :=
  match moment? text with
  | some result => result.map fun (moment, rest) => (.moment moment, rest)
  | none =>
    match based? text with
    | some result => .ok result
    | none =>
      match decimal? text with
      | some result => result
      | none =>
        match special? text with
        | some result => .ok result
        | none => .error .invalid

end LogtalkNavigation.Toml
