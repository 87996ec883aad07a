import LogtalkNavigation.Text.Printable

namespace LogtalkNavigation.Text

def hexDigits (width number : Nat) : Text :=
  let digits := Nat.toDigits 16 number
  List.replicate (width - digits.length) '0' ++ digits

def escapeChar (quote c : Char) : Text :=
  if c = quote ∨ c = '\\' then ['\\', c]
  else if c = '\n' then ['\\', 'n']
  else if c = '\r' then ['\\', 'r']
  else if c = '\t' then ['\\', 't']
  else if isPrintable c then [c]
  else if c.toNat < 0x100 then '\\' :: 'x' :: hexDigits 2 c.toNat
  else if c.toNat < 0x10000 then '\\' :: 'u' :: hexDigits 4 c.toNat
  else '\\' :: 'U' :: hexDigits 8 c.toNat

def quoted (text : Text) : String :=
  let quote := if text.contains '\'' && !text.contains '"' then '"' else '\''
  String.ofList (quote :: text.flatMap (escapeChar quote) ++ [quote])

end LogtalkNavigation.Text
