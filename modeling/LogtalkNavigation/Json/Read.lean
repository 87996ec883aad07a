import LogtalkNavigation.Path.Uri
import LogtalkNavigation.Value.Basic

namespace LogtalkNavigation.Json

def isBlank (c : Char) : Bool := c = ' ' || c = '\n' || c = '\r' || c = '\t'

def skipBlanks (text : Text) : Text := text.dropWhile isBlank

def hex (digits : Text) : Nat :=
  digits.foldl (fun number c => number * 16 + (Percent.value? c).getD 0) 0

def pair? (high low : Nat) : Option Char :=
  if 0xD800 ≤ high ∧ high < 0xDC00 ∧ 0xDC00 ≤ low ∧ low < 0xE000 then
    some (Char.ofNat (0x10000 + (high - 0xD800) * 0x400 + (low - 0xDC00)))
  else none

def unescaped : Char → Char
  | 'n' => '\n'
  | 't' => '\t'
  | 'r' => '\r'
  | 'b' => '\x08'
  | 'f' => '\x0c'
  | c => c

/-- Reads a string up to its closing quote. `high` is the first unit of a pair, if one has been read. -/
def stringFrom (high : Nat) : Text → Option (Text × Text)
  | '"' :: text => some ([], text)
  | '\\' :: 'u' :: a :: b :: c :: d :: text =>
    let code := hex [a, b, c, d]
    match pair? high code with
    | some paired => do
      let (read, rest) ← stringFrom 0 text
      some (paired :: read, rest)
    | none =>
      if 0xD800 ≤ code ∧ code < 0xDC00 then stringFrom code text
      else do
        let (read, rest) ← stringFrom 0 text
        some (Char.ofNat code :: read, rest)
  | '\\' :: c :: text => do
    let (read, rest) ← stringFrom 0 text
    some (unescaped c :: read, rest)
  | c :: text => do
    let (read, rest) ← stringFrom 0 text
    some (c :: read, rest)
  | [] => none

def decimal (digits : Text) : Nat := digits.foldl (fun number c => number * 10 + (c.toNat - 48)) 0

def sign : Text → Bool × Text
  | '-' :: text => (true, text)
  | '+' :: text => (false, text)
  | text => (false, text)

def signed (negative : Bool) (size : Nat) : Int := if negative then -(size : Int) else size

def number (text : Text) : Value :=
  let (negative, text) := sign text
  let whole := text.takeWhile Char.isDigit
  match text.drop whole.length with
  | [] => .int (signed negative (decimal whole))
  | rest =>
    let (fraction, rest) := match rest with
      | '.' :: rest => (rest.takeWhile Char.isDigit, rest.dropWhile Char.isDigit)
      | rest => ([], rest)
    let (down, digits) := sign (rest.drop 1)
    let power := signed down (decimal digits) - fraction.length
    .double (Double.ofDecimal negative (decimal (whole ++ fraction)) power)

def isNumeric (c : Char) : Bool :=
  c.isDigit || c = '-' || c = '+' || c = '.' || c = 'e' || c = 'E'

def words : List (String × Value) :=
  [("true", .bool true), ("false", .bool false), ("null", .null), ("NaN", .double .nan),
    ("Infinity", .double (.infinite false)), ("-Infinity", .double (.infinite true))]

def scalar? (text : Text) : Option (Value × Text) :=
  let word := words.findSome? fun (word, value) =>
    (Text.after? word.toList text).map fun rest => (value, rest)
  match word with
  | some result => some result
  | none =>
    let digits := text.takeWhile isNumeric
    if digits.isEmpty then none else some (number digits, text.drop digits.length)

mutual

/-- Reads a value. The fuel bounds how many values, items and entries are read. -/
def valueFuel : Nat → Text → Option (Value × Text)
  | 0, _ => none
  | fuel + 1, text =>
    match skipBlanks text with
    | '"' :: rest => do
      let (read, rest) ← stringFrom 0 rest
      some (.string (String.ofList read), rest)
    | '[' :: rest =>
      match skipBlanks rest with
      | ']' :: rest => some (.list [], rest)
      | rest => itemsFuel fuel [] rest
    | '{' :: rest =>
      match skipBlanks rest with
      | '}' :: rest => some (.table [], rest)
      | rest => entriesFuel fuel [] rest
    | text => scalar? text

def itemsFuel : Nat → List Value → Text → Option (Value × Text)
  | 0, _, _ => none
  | fuel + 1, read, text => do
    let (item, rest) ← valueFuel fuel text
    match skipBlanks rest with
    | ',' :: rest => itemsFuel fuel (item :: read) rest
    | ']' :: rest => some (.list (item :: read).reverse, rest)
    | _ => none

def entriesFuel : Nat → List (String × Value) → Text → Option (Value × Text)
  | 0, _, _ => none
  | fuel + 1, read, text => do
    match skipBlanks text with
    | '"' :: rest =>
      let (key, rest) ← stringFrom 0 rest
      match skipBlanks rest with
      | ':' :: rest =>
        let (value, rest) ← valueFuel fuel rest
        let read := (String.ofList key, value) :: read
        match skipBlanks rest with
        | ',' :: rest => entriesFuel fuel read rest
        | '}' :: rest => some (.table read.reverse, rest)
        | _ => none
      | _ => none
    | _ => none

end

def read? (text : Text) : Option Value :=
  (valueFuel (2 * text.length + 2) text).map (·.1)

end LogtalkNavigation.Json
