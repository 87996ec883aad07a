import LogtalkNavigation.Path.Uri
import LogtalkNavigation.Text.Basic

namespace LogtalkNavigation.Toml

def isControl (c : Char) : Bool := (c.toNat < 32 && c ≠ '\t') || c.toNat = 127

def isBlank (c : Char) : Bool := c = ' ' || c = '\t'

def isFiller (c : Char) : Bool := isBlank c || c = '\n'

def skipBlanks (text : Text) : Text := text.dropWhile isBlank

def skipFillerFrom : (comment : Bool) → Text → Option Text
  | _, [] => some []
  | true, c :: text =>
    if c = '\n' then skipFillerFrom false text
    else if isControl c then none
    else skipFillerFrom true text
  | false, c :: text =>
    if c = '#' then skipFillerFrom true text
    else if isFiller c then skipFillerFrom false text
    else some (c :: text)

def skipFiller (text : Text) : Option Text := skipFillerFrom false text

def skipComment : Text → Option Text
  | '#' :: text =>
    let comment := text.takeWhile (· ≠ '\n')
    if comment.any isControl then none else some (text.drop comment.length)
  | text => some text

def escaped? : Char → Option Char
  | 'b' => some '\x08'
  | 't' => some '\t'
  | 'n' => some '\n'
  | 'f' => some '\x0c'
  | 'r' => some '\r'
  | '"' => some '"'
  | '\\' => some '\\'
  | _ => none

def scalar? (digits : List Char) : Option Char := do
  let values ← digits.mapM Percent.value?
  let code := values.foldl (fun code value => code * 16 + value) 0
  if code < 0xD800 ∨ (0xE000 ≤ code ∧ code < 0x110000) then some (Char.ofNat code) else none

/-- Where the reader of a string is: in its text, behind a backslash at the end of a line, or in the
blanks that such a backslash removes. -/
inductive Mode where
  | inText
  | toBreak
  | pastBreak
deriving DecidableEq

def put (c : Char) : Option (Text × Text) → Option (Text × Text)
  | some (text, rest) => some (c :: text, rest)
  | none => none

/-- Reads a string up to its closing quote, or to three of them if it may have several lines. -/
def basic (several : Bool) : Mode → Text → Option (Text × Text)
  | _, [] => none
  | .toBreak, c :: text =>
    if c = '\n' then basic several .pastBreak text
    else if isBlank c then basic several .toBreak text
    else none
  | mode, c :: text =>
    if mode = .pastBreak ∧ isFiller c then basic several .pastBreak text
    else if c = '"' then
      if several then
        match text with
        | '"' :: '"' :: rest => some ([], rest)
        | _ => put c (basic several .inText text)
      else some ([], text)
    else if c = '\\' then
      match text with
      | '\n' :: rest => if several then basic several .pastBreak rest else none
      | ' ' :: rest => if several then basic several .toBreak rest else none
      | '\t' :: rest => if several then basic several .toBreak rest else none
      | 'u' :: c₁ :: c₂ :: c₃ :: c₄ :: rest => do
        put (← scalar? [c₁, c₂, c₃, c₄]) (basic several .inText rest)
      | 'U' :: c₁ :: c₂ :: c₃ :: c₄ :: c₅ :: c₆ :: c₇ :: c₈ :: rest => do
        put (← scalar? [c₁, c₂, c₃, c₄, c₅, c₆, c₇, c₈]) (basic several .inText rest)
      | letter :: rest => do put (← escaped? letter) (basic several .inText rest)
      | [] => none
    else if isControl c && !(several && c = '\n') then none
    else put c (basic several .inText text)

def verbatim (text : Text) : Option (Text × Text) :=
  let content := text.takeWhile (· ≠ '\'')
  match text.drop content.length with
  | _ :: rest => if content.any isControl then none else some (content, rest)
  | [] => none

def verbatimLines (text : Text) : Option (Text × Text) := do
  let length ← Text.indexOf? ['\'', '\'', '\''] text
  let content := text.take length
  if content.any fun c => isControl c && c ≠ '\n' then none
  else some (content, text.drop (length + 3))

def skipBreak : Text → Text
  | '\n' :: text => text
  | text => text

-- Up to two quotes right behind the closing ones belong to the string.
def closeLines (quote : Char) : Text × Text → Text × Text
  | (content, a :: b :: rest) =>
    if a = quote then
      if b = quote then (content ++ [quote, quote], rest) else (content ++ [quote], b :: rest)
    else (content, a :: b :: rest)
  | (content, [a]) => if a = quote then (content ++ [quote], []) else (content, [a])
  | (content, []) => (content, [])

def string? : Text → Option (Option (Text × Text))
  | '"' :: '"' :: '"' :: text => some ((basic true .inText (skipBreak text)).map (closeLines '"'))
  | '"' :: text => some (basic false .inText text)
  | '\'' :: '\'' :: '\'' :: text => some ((verbatimLines (skipBreak text)).map (closeLines '\''))
  | '\'' :: text => some (verbatim text)
  | _ => none

def isBareKey (c : Char) : Bool :=
  ('a' ≤ c && c ≤ 'z') || ('A' ≤ c && c ≤ 'Z') || ('0' ≤ c && c ≤ '9') || c = '-' || c = '_'

abbrev Key := List String

def keyPart : Text → Option (Text × Text)
  | '"' :: text => basic false .inText text
  | '\'' :: text => verbatim text
  | text =>
    let word := text.takeWhile isBareKey
    if word.isEmpty then none else some (word, text.drop word.length)

def keyFuel : Nat → Text → Option (Key × Text)
  | 0, _ => none
  | fuel + 1, text => do
    let (part, rest) ← keyPart text
    match skipBlanks rest with
    | '.' :: rest =>
      let (parts, rest) ← keyFuel fuel (skipBlanks rest)
      some (String.ofList part :: parts, rest)
    | rest => some ([String.ofList part], rest)

def key (text : Text) : Option (Key × Text) := keyFuel (text.length + 1) text

end LogtalkNavigation.Toml
