import LogtalkNavigation.Position
import LogtalkNavigation.Text.Blank
import LogtalkNavigation.Text.Digit
import LogtalkNavigation.Text.Lines
import LogtalkNavigation.Text.Word
import LogtalkNavigation.World

/-! Finding symbols in source files. The engine knows the line of a symbol and not its column, so the
column is looked up in the file as it is now. If that fails, the start of the line has to do. -/

namespace LogtalkNavigation

namespace Source

def textOf (content : List UInt8) : Text := Text.unifyBreaks (Utf8.decode content)

def rows (p : Path) : Act (Option (List Text)) := do
  match (← Act.disk).read p with
  | .ok content => return some (Text.rows (textOf content))
  | .error (.os error) =>
    Act.note .debug s!"Cannot read {p}: {error.message}"
    return none
  | .error failure => throw failure

abbrev Known := List (Path × Option (List Text))

def knownRows (known : Known) (p : Path) : Act (Option (List Text) × Known) := do
  match known.lookup p with
  | some rows => return (rows, known)
  | none =>
    let rows ← rows p
    return (rows, known ++ [(p, rows)])

end Source

namespace Symbol

def dropArity (symbol : Text) : Text :=
  let front := symbol.reverse.dropWhile Text.isDigit
  if front.length = symbol.length then symbol
  else match front with
    | '/' :: '/' :: rest => rest.reverse
    | '/' :: rest => rest.reverse
    | _ => symbol

/-- The bare name of a symbol: without arity, without what it is sent to, and without the mark of a
call to an inherited definition. -/
def bare (symbol : Text) : Text :=
  let name := dropArity (Text.trim symbol)
  let name := (Text.afterLast? [':', ':'] name).getD name
  let name := (Text.after? ['^', '^'] name).getD name
  Text.trim name

end Symbol

namespace Source

inductive Lost where
  | unreadable
  | outOfRange
  | absent (name : Text)
deriving DecidableEq

def Lost.reason : Lost → String
  | .unreadable => "unreadable file"
  | .outOfRange => "line out of range"
  | .absent name => Text.quoted name ++ " not on line"

structure Span where
  row : Text
  start : Nat
  stop : Nat
deriving DecidableEq, Repr

def rowAt (rows : Option (List Text)) (index : Int) : Except Lost Text :=
  match rows with
  | none => .error .unreadable
  | some rows =>
    if index < 0 then .error .outOfRange
    else match rows[index.toNat]? with
      | some row => .ok row
      | none => .error .outOfRange

def symbolSpan (rows : Option (List Text)) (index : Int) (symbol : Text) : Except Lost Span := do
  let row ← rowAt rows index
  let name := Symbol.bare symbol
  match if name.isEmpty then none else Text.indexOf? name row with
  | some start => return ⟨row, start, start + name.length⟩
  | none => .error (.absent name)

def openers : List String := ["object", "protocol", "category"]

def nameEnds : Text → Bool
  | [] => true
  | c :: _ => Text.isBlank c || c = '(' || c = ',' || c = ')'

def directiveOffset? (name text : Text) : Option Nat :=
  openers.findSome? fun opener => do
    let rest ← Text.after? (opener.toList ++ ['(']) text
    let argument := rest.dropWhile Text.isBlank
    let behind ← Text.after? name argument
    if nameEnds behind then some (text.length - argument.length) else none

/-- The column of a name in the first directive that opens an entity of that name. `word` says that
the character before is part of a word, and `column` is that of the head of the text. -/
def directiveColumnFrom (name : Text) : Bool → Nat → Text → Option Nat
  | _, _, [] => none
  | word, column, c :: text =>
    match if word then none else directiveOffset? name (c :: text) with
    | some offset => some (column + offset)
    | none => directiveColumnFrom name (Text.isWord c) (column + 1) text

def directiveColumn? (name row : Text) : Option Nat := directiveColumnFrom name false 0 row

def entityName (entity : Text) : Text := Text.trim (entity.takeWhile (· ≠ '('))

/-- The place of an entity's name on the row of an index: in its opening directive, else anywhere. -/
def entitySpan (rows : Option (List Text)) (index : Int) (entity : Text) : Except Lost Span := do
  let row ← rowAt rows index
  let name := entityName entity
  match if name.isEmpty then none else directiveColumn? name row with
  | some start => return ⟨row, start, start + name.length⟩
  | none => symbolSpan rows index (if name.isEmpty then entity else name)

def Span.located (span : Span) (index : Int) : Except Failure Located := do
  return ⟨← Range.onLine index 0 span.row.length, ← Range.onLine index span.start span.stop⟩

def locatedOr (p : Path) (index : Int) : Except Lost Span → Act Located
  | .ok span => Act.ofExcept (span.located index)
  | .error lost => do
    Act.note .debug (Failure.rangeLost p.text (index + 1) lost.reason).message
    Act.ofExcept (lineStart index)

def findSymbol (p : Path) (rows : Option (List Text)) (line : Int) (symbol : Text) : Act Located :=
  locatedOr p (line - 1) (symbolSpan rows (line - 1) symbol)

def findEntity (p : Path) (rows : Option (List Text)) (line : Int) (entity : Text) : Act Located :=
  locatedOr p (line - 1) (entitySpan rows (line - 1) entity)

def callSites (p : Path) (rows : Option (List Text)) (line : Int) (symbol : Text) :
    Act (List Range) := do
  let index := line - 1
  match rowAt rows index with
  | .error lost =>
    Act.note .debug (Failure.rangeLost p.text line lost.reason).message
    return []
  | .ok row =>
    let name := Symbol.bare symbol
    if name.isEmpty then return []
    (Text.occurrences name row).mapM fun (start : Nat) =>
      Act.ofExcept (Range.onLine index start (start + name.length))

def locate (p : Path) (line : Int) (symbol : Text) : Act Located := do
  findSymbol p (← rows p) line symbol

-- For a name that no directive has, the file is read once more.
def locateEntity (p : Path) (line : Int) (entity : Text) : Act Located := do
  match rowAt (← rows p) (line - 1) with
  | .error lost => locatedOr p (line - 1) (.error lost)
  | .ok row =>
    let name := entityName entity
    match if name.isEmpty then none else directiveColumn? name row with
    | some start => locatedOr p (line - 1) (.ok ⟨row, start, start + name.length⟩)
    | none => locate p line (if name.isEmpty then entity else name)

def sites (p : Path) (line : Int) (symbol : Text) : Act (List Range) := do
  callSites p (← rows p) line symbol

end Source

end LogtalkNavigation
