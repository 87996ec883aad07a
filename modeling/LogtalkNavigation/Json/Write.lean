import LogtalkNavigation.Text.Digit
import LogtalkNavigation.Text.Quoted
import LogtalkNavigation.Value.Shown

namespace LogtalkNavigation.Json

def unitEscape (code : Nat) : Text := ['\\', 'u'] ++ Text.hexDigits 4 code

def escape (c : Char) : Text :=
  if c = '"' then ['\\', '"']
  else if c = '\\' then ['\\', '\\']
  else if c = '\n' then ['\\', 'n']
  else if c = '\r' then ['\\', 'r']
  else if c = '\t' then ['\\', 't']
  else if c = '\x08' then ['\\', 'b']
  else if c = '\x0c' then ['\\', 'f']
  else if 32 ≤ c.toNat ∧ c.toNat ≤ 126 then [c]
  else if c.toNat < 0x10000 then unitEscape c.toNat
  else
    let code := c.toNat - 0x10000
    unitEscape (0xD800 + code / 0x400) ++ unitEscape (0xDC00 + code % 0x400)

def string (text : Text) : Text := '"' :: text.flatMap escape ++ ['"']

def entry (key : String) (value : Text) : Text := string key.toList ++ ':' :: ' ' :: value

def block (opening closing : Char) (indent : Nat) (parts : List Text) : Text :=
  let margin := List.replicate indent ' '
  match parts with
  | [] => [opening, closing]
  | parts =>
    let inner := ['\n', ' ', ' '] ++ margin
    opening :: inner ++ Text.join (',' :: inner) parts ++ '\n' :: margin ++ [closing]

def inline (opening closing : Char) (parts : List Text) : Text :=
  opening :: Text.join [',', ' '] parts ++ [closing]

def double : Double → Text
  | .nan => "NaN".toList
  | .infinite negative => (if negative then "-Infinity" else "Infinity").toList
  | number => number.text.toList

mutual

-- A value. A moment is written as a table that says so.
def write : Value → Text
  | .null => "null".toList
  | .bool value => (if value then "true" else "false").toList
  | .int value => Text.ofInt value
  | .double value => double value
  | .string value => string value.toList
  | .moment value => inline '{' '}' [entry "date" (string value.plain.toList)]
  | .list items => inline '[' ']' (writeItems items)
  | .table entries => inline '{' '}' (writeEntries entries)

def writeItems : List Value → List Text
  | [] => []
  | item :: rest => write item :: writeItems rest

def writeEntries : List (String × Value) → List Text
  | [] => []
  | (key, value) :: rest => entry key (write value) :: writeEntries rest

end

end LogtalkNavigation.Json
