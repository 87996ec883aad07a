import LogtalkNavigation.Text.Basic

namespace LogtalkNavigation.Address

def isDigit (c : Char) : Bool := '0' ≤ c && c ≤ '9'

def isHexDigit (c : Char) : Bool := isDigit c || ('a' ≤ c && c ≤ 'f') || ('A' ≤ c && c ≤ 'F')

def isOctet (text : Text) : Bool :=
  !text.isEmpty && text.length ≤ 3 && text.all isDigit && (text = ['0'] || text.head? ≠ some '0')
    && text.foldl (fun number c => number * 10 + (c.toNat - 48)) 0 ≤ 255

def isDotted (text : Text) : Bool :=
  let octets := Text.splitOn '.' text
  octets.length = 4 && octets.all isOctet

def isGroup (text : Text) : Bool := !text.isEmpty && text.length ≤ 4 && text.all isHexDigit

/-- How many groups some texts are. If `dotted`, the last one may be a dotted address, which counts for
two. -/
def countGroups? (dotted : Bool) : List Text → Option Nat
  | [] => some 0
  | [last] =>
    if isGroup last then some 1 else if dotted && isDotted last then some 2 else none
  | group :: rest => if isGroup group then (countGroups? dotted rest).map (· + 1) else none

def groups? (dotted : Bool) (text : Text) : Option Nat :=
  if text.isEmpty then some 0 else countGroups? dotted (Text.splitOn ':' text)

def isGroupedPlain (text : Text) : Bool :=
  match Text.indexOf? [':', ':'] text with
  | none => groups? true text = some 8
  | some gap =>
    match groups? false (text.take gap), groups? true (text.drop (gap + 2)) with
    | some before, some behind => before + behind ≤ 7
    | _, _ => false

def isGrouped (text : Text) : Bool :=
  match text.span (· ≠ '%') with
  | (address, []) => isGroupedPlain address
  | (address, _ :: zone) => !zone.isEmpty && !zone.contains '%' && isGroupedPlain address

def isLater (text : Text) : Bool :=
  let version := (text.drop 1).takeWhile isHexDigit
  match text.drop (version.length + 1) with
  | '.' :: _ :: _ => !version.isEmpty
  | _ => false

end LogtalkNavigation.Address
