import LogtalkNavigation.Text.Scan

namespace LogtalkNavigation.Text

def isParameter (c : Char) : Bool := ('0' ≤ c && c ≤ '9') || c = ';' || c = '?'

def controlLength? : Text → Option Nat
  | '\x1b' :: '[' :: rest =>
    let parameters := rest.takeWhile isParameter
    match rest.drop parameters.length with
    | c :: _ => if c.isAlpha then some (parameters.length + 3) else none
    | [] => none
  | _ => none

def dropControls (text : Text) : Text := replaceRuns controlLength? [] text

end LogtalkNavigation.Text
