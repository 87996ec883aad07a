import LogtalkNavigation.Record.Basic
import LogtalkNavigation.Text.Digit
import LogtalkNavigation.Text.Scan

/-! Reading a line of an artifact as a record. A line is a sequence of `Tag:value` fields with
semicolons between them, whose tags depend on the kind of artifact. Values are free text, so a line
may be divided in several ways; names, objects and tests are then as short as possible, and so is
the file of a test result, while any other file is as long as possible. The tag `File` may be in any
case. Blanks at the end of a line do not count. -/

namespace LogtalkNavigation.Record

open Text

/-- The tag of the file, in any case. The dotted capital and the dotless small letter are cases of
the second letter too. -/
def afterFileTag? : Text → Option Text
  | f :: i :: l :: e :: ':' :: rest =>
    if (f = 'F' ∨ f = 'f') ∧ (i = 'I' ∨ i = 'i' ∨ i = '\u0130' ∨ i = '\u0131')
        ∧ (l = 'L' ∨ l = 'l') ∧ (e = 'E' ∨ e = 'e') then some rest
    else none
  | _ => none

def digits? (text : Text) : Option (Text × Text) :=
  match text.span isDigit with
  | ([], _) => none
  | found => some found

def afterTag? (tag : String) (text : Text) : Option Text := after? tag.toList text

def lineEnd? (text : Text) : Option Unit := if allBlank text then some () else none

def lineField? (text : Text) : Option (Text × Text) := do digits? (← afterTag? ";Line:" text)

def lastLine? (text : Text) : Option Text := do
  let (line, rest) ← lineField? text
  lineEnd? rest
  return line

def place? (text : Text) : Option (Text × Text) := do longestSome lastLine? (← afterFileTag? text)

def lastPlace? (text : Text) : Option (Text × Text) := do place? (← afterTag? ";" text)

-- `Name:name;File:file;Line:line`.
def callFields? (text : Text) : Option (Text × Text × Text) := do
  shortestSome lastPlace? (← afterTag? "Name:" text)

def entityTypes : List String := ["object", "protocol", "category"]

-- `Type:type;Name:name;File:file;Line:line`.
def entityFields? (text : Text) : Option (Text × Text × Text × Text) := do
  let rest ← afterTag? "Type:" text
  entityTypes.findSome? fun entityType => do
    let fields ← callFields? (← afterTag? ";" (← afterTag? entityType rest))
    return (entityType.toList, fields)

def lastScore? (text : Text) : Option (Text × Text) := do
  let (line, rest) ← lineField? text
  let (score, rest) ← digits? (← afterTag? ";Score:" rest)
  lineEnd? rest
  return (line, score)

-- `File:file;Line:line;Score:score`.
def metricFields? (text : Text) : Option (Text × Text × Text) := do
  longestSome lastScore? (← afterFileTag? text)

def reasonEnd? (text : Text) : Option (Option Text) :=
  let reason := do
    let (reason, ()) ← shortest lineEnd? (← afterTag? ";Reason:" text)
    return some reason
  reason <|> (lineEnd? text).map fun () => none

def lastStatusReason? (text : Text) : Option (Text × Option Text) := do
  shortest reasonEnd? (← afterTag? ";Status:" text)

def lastTest? (text : Text) : Option (Text × Text × Option Text) := do
  shortestSome lastStatusReason? (← afterTag? ";Test:" text)

def objectOf? {α : Type} (follower : Text → Option α) (text : Text) :
    Option (Text × Text × α) := do
  let (line, rest) ← lineField? text
  let found ← shortestSome follower (← afterTag? ";Object:" rest)
  return (line, found)

def lastStatus? (text : Text) : Option Text := do
  let (outcome, ()) ← shortest lineEnd? (← afterTag? ";Status:" text)
  return outcome

-- `File:file;Line:line;Object:object;Test:test;Status:status` with a possible reason.
def testFields? (text : Text) : Option (Text × Text × Text × Text × Text × Option Text) := do
  shortestSome (objectOf? lastTest?) (← afterFileTag? text)

-- `File:file;Line:line;Object:object;Status:status`.
def summaryFields? (text : Text) : Option (Text × Text × Text × Text) := do
  shortestSome (objectOf? lastStatus?) (← afterFileTag? text)

def lastLineStatus? (text : Text) : Option (Text × Text) := do
  let (line, rest) ← lineField? text
  return (line, ← lastStatus? rest)

-- `File:file;Line:line;Status:status`.
def statusFields? (text : Text) : Option (Text × Text × Text) := do
  shortestSome lastLineStatus? (← afterFileTag? text)

def number (digits : Text) : Except Failure Int :=
  if maxDigits < digits.length then .error (.tooManyDigits digits.length)
  else .ok (numeral digits)

def malformed (kind : Artifact.Kind) (text : Text) : Failure := .malformedRecord kind.word text

def positiveLine (kind : Artifact.Kind) (text digits : Text) : Except Failure Int := do
  let line ← number digits
  if line < 1 then .error (malformed kind text) else .ok line

def callOfLine (kind : Artifact.Kind) (text : Text) : Except Failure Record :=
  match callFields? text with
  | some (name, file, line) =>
    return .call ⟨name, tidy file, ← positiveLine kind text line⟩
  | none => .error (malformed kind text)

def entityOfLine (kind : Artifact.Kind) (text : Text) : Except Failure Record :=
  match entityFields? text with
  | some (entityType, name, file, line) =>
    return .entity ⟨entityType, name, tidy file, ← positiveLine kind text line⟩
  | none => .error (malformed kind text)

def locationOfLine (kind : Artifact.Kind) (text : Text) : Except Failure Record :=
  match place? text with
  | some (file, line) => return .location ⟨tidy file, ← positiveLine kind text line⟩
  | none => .error (malformed kind text)

/-- Reads a line as a test result: of one test if it can be, else of an object, else of a file. -/
def testOfLine (kind : Artifact.Kind) (text : Text) : Except Failure Record :=
  match testFields? text with
  | some (file, line, object, name, outcome, reason) =>
    return .test ⟨tidy file, ← positiveLine kind text line, object, name, outcome, reason⟩
  | none =>
    match summaryFields? text with
    | some (file, line, object, outcome) =>
      return .summary ⟨tidy file, ← positiveLine kind text line, object, outcome⟩
    | none =>
      match statusFields? text with
      | some (file, line, outcome) =>
        return .status ⟨tidy file, ← positiveLine kind text line, outcome⟩
      | none => .error (malformed kind text)

def metricOfLine (kind : Artifact.Kind) (text : Text) : Except Failure Record :=
  match metricFields? text with
  | some (file, line, score) => do
    let line ← positiveLine kind text line
    return .metric ⟨tidy file, line, ← number score⟩
  | none => .error (malformed kind text)

def ofLine (kind : Artifact.Kind) (text : Text) : Except Failure Record :=
  match kind with
  | .callers | .callees => callOfLine kind text
  | .ancestors | .descendants => entityOfLine kind text
  | .references | .typeDefinition => locationOfLine kind text
  | .tests => testOfLine kind text
  | .metrics => metricOfLine kind text

end LogtalkNavigation.Record
