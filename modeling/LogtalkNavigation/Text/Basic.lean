
namespace LogtalkNavigation

abbrev Text := List Char

namespace Text

def after? : Text → Text → Option Text
  | [], text => some text
  | _ :: _, [] => none
  | want :: tag, c :: text => if want = c then after? tag text else none

def afterLast? (tag : Text) : Text → Option Text
  | [] => none
  | c :: text => afterLast? tag text <|> after? tag (c :: text)

def indexOf? (part : Text) : Text → Option Nat
  | [] => if part.isEmpty then some 0 else none
  | c :: text => if part.isPrefixOf (c :: text) then some 0 else (indexOf? part text).map (· + 1)

/-- The columns of the occurrences of `part` that a left-to-right search meets, each starting at or
after the end of the one before. `skip` counts the characters still covered by the last occurrence
and `column` is that of the head of the text. -/
def occurrencesFrom (part : Text) : Nat → Nat → Text → List Nat
  | _, _, [] => []
  | skip + 1, column, _ :: text => occurrencesFrom part skip (column + 1) text
  | 0, column, c :: text =>
    if part.isPrefixOf (c :: text) then
      column :: occurrencesFrom part (part.length - 1) (column + 1) text
    else occurrencesFrom part 0 (column + 1) text

def occurrences (part text : Text) : List Nat := occurrencesFrom part 0 0 text

def consFirst (c : Char) : List Text → List Text
  | [] => [[c]]
  | first :: rest => (c :: first) :: rest

-- The parts between the occurrences of a separator; always one more than there are separators.
def splitOn (separator : Char) : Text → List Text
  | [] => [[]]
  | c :: text =>
    if c = separator then [] :: splitOn separator text else consFirst c (splitOn separator text)

def join (separator : Text) (parts : List Text) : Text := separator.intercalate parts

def squeeze (c : Char) : Text → Text
  | [] => []
  | [last] => [last]
  | first :: second :: text =>
    if first = c ∧ second = c then squeeze c (second :: text)
    else first :: squeeze c (second :: text)

def le : Text → Text → Bool
  | [], _ => true
  | _ :: _, [] => false
  | a :: left, b :: right => a.toNat < b.toNat || (a == b && le left right)

end Text

end LogtalkNavigation
