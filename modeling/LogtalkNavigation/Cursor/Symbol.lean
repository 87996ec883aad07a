import LogtalkNavigation.Cursor.Arguments
import LogtalkNavigation.Cursor.Word
import LogtalkNavigation.Failure
import LogtalkNavigation.Text.Lines

namespace LogtalkNavigation.Cursor

open Text

def remainder (rows : List Text) (line column : Nat) : Text :=
  collapse ((rows.drop line).flatten.drop column)

def row? (rows : List Text) (line : Int) : Option Text :=
  if line < 0 then none else rows[line.toNat]?

def writtenArity? (text : Text) : Option Text :=
  let digits (text : Text) : Option Text :=
    match text.takeWhile isDigit with
    | [] => none
    | digits => some digits
  match text with
  | '/' :: '/' :: rest => digits rest
  | '/' :: rest => digits rest
  | _ => none

/-- The arity of a name, by what follows it: its arguments, or the arity as written, or none. -/
def arityOf (behind : Text) : Except Failure Nat :=
  match behind with
  | '(' :: _ => .ok (scanArguments behind).2
  | _ =>
    match writtenArity? behind with
    | none => .ok 0
    | some digits =>
      if maxDigits < digits.length then .error (.tooManyDigits digits.length)
      else .ok (numeral digits)

def call? (document : Text) (line character : Int) : Except Failure (Option Text) := do
  let rows := rows document
  match (row? rows line).bind fun row => touched? character (calls row) with
  | none => return none
  | some word =>
    if isVariableName word.text then return none
    let behind := (remainder rows line.toNat word.start).drop word.text.length
    let arity ← arityOf behind
    return some (word.text ++ '/' :: Text.ofNat arity)

def entity? (document : Text) (line character : Int) : Option Text := do
  let rows := rows document
  let row ← row? rows line
  let word ← touched? character (plainWords row)
  if isVariableName word.text then none
  else
    let text := remainder rows line.toNat word.start
    match text.drop word.text.length with
    | '(' :: arguments =>
      return text.take (word.text.length + (scanArguments ('(' :: arguments)).1)
    | _ => return word.text

end LogtalkNavigation.Cursor
