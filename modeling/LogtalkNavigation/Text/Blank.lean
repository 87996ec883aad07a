import LogtalkNavigation.Text.Interval

namespace LogtalkNavigation.Text

/-- The blank characters: Unicode white space and the four information separators. -/
def blankIntervals : List (Nat × Nat) := [
    (0x9, 0xD), (0x1C, 0x20), (0x85, 0x85), (0xA0, 0xA0), (0x1680, 0x1680), (0x2000, 0x200A),
    (0x2028, 0x2029), (0x202F, 0x202F), (0x205F, 0x205F), (0x3000, 0x3000)]

def isBlank (c : Char) : Bool := inIntervals blankIntervals c

def allBlank (text : Text) : Bool := text.all isBlank

def trimEnd (text : Text) : Text := (text.reverse.dropWhile isBlank).reverse

def trim (text : Text) : Text := trimEnd (text.dropWhile isBlank)

def words : Text → List Text
  | [] => []
  | [c] => if isBlank c then [] else [[c]]
  | c :: next :: text =>
    if isBlank c then words (next :: text)
    else if isBlank next then [c] :: words (next :: text)
    else consFirst c (words (next :: text))

def collapseFrom : Bool → Text → Text
  | _, [] => []
  | within, c :: text =>
    if isBlank c then
      if within then collapseFrom true text else ' ' :: collapseFrom true text
    else c :: collapseFrom false text

def collapse (text : Text) : Text := collapseFrom false text

end LogtalkNavigation.Text
