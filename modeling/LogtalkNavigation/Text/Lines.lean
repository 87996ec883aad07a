import LogtalkNavigation.Text.Basic

namespace LogtalkNavigation.Text

def isLineBreak (c : Char) : Bool :=
  c = '\n' || c = '\r' || c = '\x0B' || c = '\x0C' || c = '\x1C' || c = '\x1D' || c = '\x1E'
    || c = '\u0085' || c = '\u2028' || c = '\u2029'

/-- The lines of an artifact, without their ends. A carriage return and a line feed end one line,
and nothing follows the last end. -/
def lines : Text → List Text
  | [] => []
  | '\r' :: '\n' :: text => [] :: lines text
  | c :: text => if isLineBreak c then [] :: lines text else consFirst c (lines text)

/-- The rows of a document. Only a line feed ends a row, together with a carriage return right
before it, and there is always a last row after the last end. -/
def rows : Text → List Text
  | [] => [[]]
  | '\r' :: '\n' :: text => [] :: rows text
  | '\n' :: text => [] :: rows text
  | c :: text => consFirst c (rows text)

def unifyBreaks : Text → Text
  | [] => []
  | '\r' :: '\n' :: text => '\n' :: unifyBreaks text
  | c :: text => (if c = '\r' then '\n' else c) :: unifyBreaks text

end LogtalkNavigation.Text
