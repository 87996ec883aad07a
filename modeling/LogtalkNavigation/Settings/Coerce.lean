import LogtalkNavigation.Failure
import LogtalkNavigation.Text.Blank
import LogtalkNavigation.Text.Lowercase
import LogtalkNavigation.Value.Shown

namespace LogtalkNavigation.Settings

abbrev Duration := { ms : Nat // 0 < ms }

def isDecimal (c : Char) : Bool := '0' ≤ c && c ≤ '9'

def digits (text : Text) : Except FieldFault Nat :=
  let front := text.takeWhile isDecimal
  if front.isEmpty || (front.head? = some '0' && front ≠ ['0']) then .error .notIntegerText
  else if maxDigits < front.length then .error .tooLong
  else if front.length < text.length then .error .notIntegerText
  else .ok (front.foldl (fun number c => number * 10 + (c.toNat - 48)) 0)

def signedDigits : Text → Except FieldFault Int
  | '-' :: text => return -(← digits text : Int)
  | text => return (← digits text : Int)

def isSpace (c : Char) : Bool := Text.isBlank c && !(0x1c ≤ c.toNat && c.toNat ≤ 0x1f)

def trimSpaces (text : Text) : Text :=
  ((text.dropWhile isSpace).reverse.dropWhile isSpace).reverse

def splitSign? : Text → Option (Bool × Text)
  | '+' :: '-' :: _ => none
  | '+' :: text => some (false, text)
  | '-' :: text => some (true, text)
  | text => some (false, text)

/-- Takes leading zeros off, with underscores among them. One stays if nothing or a point follows. A
minus sign may follow them as well as a digit. -/
def dropZeros? (text : Text) : Option Text :=
  match text with
  | '0' :: more =>
    let zeros := more.takeWhile fun c => c = '0' || c = '_'
    match more.drop zeros.length with
    | [] => some (('0' :: zeros).drop zeros.length)
    | '.' :: rest => some (('0' :: zeros).drop zeros.length ++ '.' :: rest)
    | c :: rest => if isDecimal c || c = '-' then some (c :: rest) else none
  | c :: _ => if isDecimal c then some text else none
  | [] => none

def dropFraction (text : Text) : Text :=
  let whole := text.takeWhile (· ≠ '.')
  let fraction := text.drop (whole.length + 1)
  if !fraction.isEmpty && fraction.all (· = '0') then whole else text

def dropUnderscores (text : Text) : Text :=
  if text.head? = some '_' || text.getLast? = some '_' || (Text.indexOf? ['_', '_'] text).isSome
  then text
  else text.filter (· ≠ '_')

def cleaned? (text : Text) : Option Text := do
  let (negative, text) ← splitSign? (trimSpaces text)
  let text := dropUnderscores (dropFraction (← dropZeros? text))
  return if negative then '-' :: text else text

/-- An integer written as text, as it stands or cleaned. That there are too many digits is noticed only as
it stands. -/
def integerText (text : Text) : Except FieldFault Int :=
  match signedDigits text, (cleaned? text).map signedDigits with
  | .ok number, _ => .ok number
  | .error .tooLong, _ => .error .tooLong
  | _, some (.ok number) => .ok number
  | _, _ => .error .notIntegerText

def doubleLimit : Nat := 9223372036854775808

def integer : Value → Except FieldFault Int
  | .bool value => .ok (if value then 1 else 0)
  | .int value => .ok value
  | .double (.infinite _) | .double .nan => .error .notFinite
  | .double value =>
    match value.toInt? with
    | some number => if number.natAbs < doubleLimit then .ok number else .error .tooLong
    | none => .error .fractional
  | .string text => integerText text.toList
  | _ => .error .notInteger

def duration (value : Value) : Except FieldFault Duration := do
  let number ← integer value
  if positive : 0 < number.toNat then return ⟨number.toNat, positive⟩ else .error .notPositive

def text : Value → Except FieldFault String
  | .string value => .ok value
  | _ => .error .notString

def trueWords : List String := ["1", "on", "t", "true", "y", "yes"]

def falseWords : List String := ["0", "off", "f", "false", "n", "no"]

/-- A zero or a one. Other numbers are told apart by whether they fit into 64 bits. -/
def flagOfInt (number : Int) : Except FieldFault Bool :=
  if number = 0 then .ok false
  else if number = 1 then .ok true
  else if -doubleLimit ≤ number ∧ number < doubleLimit then .error .notBooleanText
  else .error .notBoolean

def flag : Value → Except FieldFault Bool
  | .bool value => .ok value
  | .int value => flagOfInt value
  | .double value =>
    match value.toInt? with
    | some number => if number.natAbs < doubleLimit then flagOfInt number else .error .notBoolean
    | none => .error .notBoolean
  | .string value =>
    let word := value.map Char.toLower
    if trueWords.contains word then .ok true
    else if falseWords.contains word then .ok false
    else .error .notBooleanText
  | _ => .error .notBoolean

def truth : Value → Bool
  | .bool value => value
  | .int value => value ≠ 0
  | .string value =>
    ["1", "true", "yes", "on"].contains (String.ofList (Text.lower (Text.trim value.toList)))
  | _ => false

def arguments : Value → Except Failure (List String)
  | .string value => return (Text.words value.toList).map String.ofList
  | .list items => do
    if !Value.areWithin maxWritten items then throw .tooLongToWrite
    let texts := items.filterMap fun
      | .null => none
      | item => some item.plain
    return texts.filter (· ≠ "")
  | _ => return []

end LogtalkNavigation.Settings
