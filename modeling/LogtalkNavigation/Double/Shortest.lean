import LogtalkNavigation.Double.Basic

namespace LogtalkNavigation.Double

/-- The numbers `low < value < high` over a common denominator: `value` is the double, and a decimal
between the other two reads back as it. -/
structure Neighbourhood where
  low : Nat
  value : Nat
  high : Nat
  den : Nat
  closed : Bool

def neighbourhood (mantissa : Nat) (exponent : Int) : Neighbourhood :=
  let up := twoTo (exponent - 2).toNat
  let lower := if mantissa = twoTo 52 ∧ -1074 < exponent then 4 * mantissa - 1 else 4 * mantissa - 2
  { low := lower * up
    value := 4 * mantissa * up
    high := (4 * mantissa + 2) * up
    den := twoTo (2 - exponent).toNat
    closed := mantissa % 2 == 0 }

def magnitude (num den : Nat) : Int :=
  if den ≤ num then (Nat.toDigits 10 (num / den)).length
  else
    match (List.range 400).find? fun shift => den ≤ num * tenTo (shift + 1) with
    | some shift => -(shift : Int)
    | none => 0

/-- The decimal `digits * 10 ^ power` with `count` digits that is nearest to the value, if one with
that many digits reads back. -/
def withDigits (n : Neighbourhood) (top : Int) (count : Nat) : Option (Nat × Int) :=
  let power : Int := top - count
  let up := tenTo (-power).toNat
  let unit := n.den * tenTo power.toNat
  let value := n.value * up
  let inside (digits : Nat) : Bool :=
    if n.closed then n.low * up ≤ digits * unit && digits * unit ≤ n.high * up
    else n.low * up < digits * unit && digits * unit < n.high * up
  let down := value / unit
  let rest := value % unit
  let nearer := if 2 * rest < unit ∨ (2 * rest = unit ∧ down % 2 = 0) then down else down + 1
  let other := if nearer = down then down + 1 else down
  if inside nearer then some (nearer, power)
  else if inside other then some (other, power)
  else none

def shortest (mantissa : Nat) (exponent : Int) : Nat × Int :=
  let n := neighbourhood mantissa exponent
  let top := magnitude n.value n.den
  ((List.range 17).findSome? fun count => withDigits n top (count + 1)).getD (mantissa, exponent)

def layout (digits : List Char) (point : Int) : List Char :=
  if -4 < point ∧ point ≤ 16 then
    if point ≤ 0 then '0' :: '.' :: List.replicate (-point).toNat '0' ++ digits
    else if digits.length ≤ point.toNat then
      digits ++ List.replicate (point.toNat - digits.length) '0' ++ ['.', '0']
    else digits.take point.toNat ++ '.' :: digits.drop point.toNat
  else
    let power := point - 1
    let size := Nat.toDigits 10 power.natAbs
    let size := if size.length < 2 then '0' :: size else size
    let fraction := if digits.length ≤ 1 then [] else '.' :: digits.drop 1
    digits.take 1 ++ fraction ++ 'e' :: (if power < 0 then '-' else '+') :: size

def text : Double → String
  | .nan => "nan"
  | .infinite negative => if negative then "-inf" else "inf"
  | .finite negative mantissa exponent =>
    let body :=
      if mantissa = 0 then ['0', '.', '0']
      else
        let (number, power) := shortest mantissa exponent
        let digits := Nat.toDigits 10 number
        let significant := (digits.reverse.dropWhile (· == '0')).reverse
        layout significant (digits.length + power)
    String.ofList (if negative then '-' :: body else body)

end LogtalkNavigation.Double
