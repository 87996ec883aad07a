import LogtalkNavigation.Text.Digit
import LogtalkNavigation.Text.Uppercase
import LogtalkNavigation.Text.Word

/-! The words of a row that a cursor can be on. An entity is named by a plain word. A call may have
in front of its word an object that it is sent to, the mark of a call to self or of a call to an
inherited definition, or an at sign. -/

namespace LogtalkNavigation.Cursor

open Text

structure Word where
  start : Nat
  text : Text
deriving DecidableEq, Repr

namespace Word

def stop (word : Word) : Nat := word.start + word.text.length

def touches (word : Word) (column : Int) : Bool := word.start ≤ column && column ≤ word.stop

end Word

def plainLength (text : Text) : Nat := (text.takeWhile isWord).length

def parenthesisLength? : Text → Option Nat
  | '(' :: text =>
    let inner := text.takeWhile fun c => c ≠ '(' && c ≠ ')'
    match text.drop inner.length with
    | ')' :: _ => some (inner.length + 2)
    | _ => none
  | _ => none

def markedLength? (mark : Text) (text : Text) (before : Nat) : Option Nat :=
  match after? mark (text.drop before) with
  | some rest =>
    let length := plainLength rest
    if length = 0 then none else some (before + mark.length + length)
  | none => none

/-- The length of a call that is sent to an object: the object, with or without arguments, two
colons, and a word. -/
def sentLength? (text : Text) : Option Nat :=
  let object := plainLength text
  if object = 0 then none
  else
    let parametric := do
      let arguments ← parenthesisLength? (text.drop object)
      markedLength? [':', ':'] text (object + arguments)
    parametric <|> markedLength? [':', ':'] text object

def callLength (text : Text) : Nat :=
  let qualified :=
    sentLength? text <|> markedLength? [':', ':'] text 0 <|> markedLength? ['^', '^'] text 0
  match qualified with
  | some length => length
  | none =>
    let plain := plainLength text
    if plain = 0 then (markedLength? ['@'] text 0).getD 0 else plain

/-- The words of a text, left to right, each starting at or after the end of the one before.
`measure` gives the length of the word that a text starts with, `skip` counts the characters still
covered by the last word and `column` is that of the head of the text. -/
def wordsFrom (measure : Text → Nat) : Nat → Nat → Text → List Word
  | _, _, [] => []
  | skip + 1, column, _ :: text => wordsFrom measure skip (column + 1) text
  | 0, column, c :: text =>
    match measure (c :: text) with
    | 0 => wordsFrom measure 0 (column + 1) text
    | length + 1 =>
      ⟨column, (c :: text).take (length + 1)⟩ :: wordsFrom measure length (column + 1) text

def plainWords (row : Text) : List Word := wordsFrom plainLength 0 0 row

def calls (row : Text) : List Word := wordsFrom callLength 0 0 row

def touched? (column : Int) (words : List Word) : Option Word := words.find? (·.touches column)

def isVariableName (name : Text) : Bool :=
  match name with
  | [] => true
  | c :: _ => c = '_' || isUpper c || isDigitSign c

end LogtalkNavigation.Cursor
