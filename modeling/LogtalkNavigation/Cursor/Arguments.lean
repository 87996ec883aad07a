import LogtalkNavigation.Text.Blank

/-! Scanning an argument list. The scan counts brackets without telling them apart, skips quoted
tokens, and counts the commas directly inside the outermost bracket. -/

namespace LogtalkNavigation.Cursor

structure Scan where
  depth : Int := 0
  commas : Nat := 0
  -- Whether anything but blanks and brackets has been seen, or anything quoted.
  filled : Bool := false
deriving DecidableEq, Repr

namespace Scan

def arity (scan : Scan) : Nat := if scan.filled then scan.commas + 1 else 0

def pass (scan : Scan) (c : Char) : Scan :=
  if c = ',' ∧ scan.depth = 1 then { scan with commas := scan.commas + 1 }
  else if !Text.isBlank c && 1 ≤ scan.depth then { scan with filled := true }
  else scan

end Scan

def isQuote (c : Char) : Bool := c = '\'' || c = '"' || c = '`'

def isOpening (c : Char) : Bool := c = '(' || c = '[' || c = '{'

def isClosing (c : Char) : Bool := c = ')' || c = ']' || c = '}'

/-- Scans a text up to the bracket that closes the first one. `quote` is the quote that the scan is
inside of. The answer is the number of characters up to and with that bracket, or all of them, and
the number of arguments. -/
def scanFrom : Option Char → Scan → Text → Nat × Nat
  | _, scan, [] => (0, scan.arity)
  | some _, scan, ['\\'] => (1, scan.arity)
  | some quote, scan, c :: next :: text =>
    if c = '\\' ∨ (c = quote ∧ next = quote) then
      let (length, arity) := scanFrom (some quote) scan text
      (length + 2, arity)
    else
      let (length, arity) := scanFrom (if c = quote then none else some quote) scan (next :: text)
      (length + 1, arity)
  | some quote, scan, [c] =>
    let (length, arity) := scanFrom (if c = quote then none else some quote) scan []
    (length + 1, arity)
  | none, scan, c :: text =>
    if isQuote c then
      let (length, arity) := scanFrom (some c) { scan with filled := true } text
      (length + 1, arity)
    else if isOpening c then
      let (length, arity) := scanFrom none { scan with depth := scan.depth + 1 } text
      (length + 1, arity)
    else if isClosing c then
      if scan.depth = 1 then (1, scan.arity)
      else
        let (length, arity) := scanFrom none { scan with depth := scan.depth - 1 } text
        (length + 1, arity)
    else
      let (length, arity) := scanFrom none (scan.pass c) text
      (length + 1, arity)

def scanArguments (text : Text) : Nat × Nat := scanFrom none {} text

end LogtalkNavigation.Cursor
