/-! Binary floating-point numbers of 64 bits, with exact arithmetic underneath: a finite number is
an integer times a power of two, and every operation rounds the exact result to the nearest such
number, ties to the even one. -/

namespace LogtalkNavigation

/-- A double: `± mantissa * 2 ^ exponent` with a mantissa below `2 ^ 53`, an infinity, or no number. -/
inductive Double where
  | finite (negative : Bool) (mantissa : Nat) (exponent : Int)
  | infinite (negative : Bool)
  | nan
deriving DecidableEq, Repr

namespace Double

def twoTo (n : Nat) : Nat := Nat.pow 2 n

def tenTo (n : Nat) : Nat := Nat.pow 10 n

-- The quotient rounded to the nearest integer, ties to the even one.
def roundDiv (num den : Nat) : Nat :=
  let down := num / den
  let rest := num % den
  if 2 * rest < den then down
  else if den < 2 * rest then down + 1
  else if down % 2 = 0 then down else down + 1

def scaled (num den : Nat) (exponent : Int) : Nat × Nat :=
  if 0 ≤ exponent then (num, den * twoTo exponent.toNat) else (num * twoTo (-exponent).toNat, den)

/-- The exponent at which the mantissa of `num / den` has 53 bits, or the least one there is. -/
def exponentOf (num den : Nat) : Int :=
  let guess : Int := (num.log2 : Int) - (den.log2 : Int) - 52
  let (num', den') := scaled num den guess
  max (if num' < den' * twoTo 52 then guess - 1 else guess) (-1074)

def ofRatio (negative : Bool) (num den : Nat) : Double :=
  if num = 0 ∨ den = 0 then .finite negative 0 0
  else
    let exponent := exponentOf num den
    let (num', den') := scaled num den exponent
    let mantissa := roundDiv num' den'
    let (mantissa, exponent) :=
      if mantissa = twoTo 53 then (twoTo 52, exponent + 1) else (mantissa, exponent)
    if 971 < exponent then .infinite negative else .finite negative mantissa exponent

def ofDecimal (negative : Bool) (coefficient : Nat) (power : Int) : Double :=
  if coefficient = 0 then .finite negative 0 0
  else if 400 < power then .infinite negative
  else if power < -(400 + (Nat.toDigits 10 coefficient).length : Int) then .finite negative 0 0
  else if 0 ≤ power then ofRatio negative (coefficient * tenTo power.toNat) 1
  else ofRatio negative coefficient (tenTo (-power).toNat)

def aligned (negative : Bool) (mantissa : Nat) (exponent target : Int) : Int :=
  let size : Int := (mantissa * twoTo (exponent - target).toNat : Nat)
  if negative then -size else size

def ofScaled (number : Int) (exponent : Int) : Double :=
  if 0 ≤ exponent then ofRatio (number < 0) (number.natAbs * twoTo exponent.toNat) 1
  else ofRatio (number < 0) number.natAbs (twoTo (-exponent).toNat)

def add : Double → Double → Double
  | .finite s m e, .finite s' m' e' =>
    let low := min e e'
    ofScaled (aligned s m e low + aligned s' m' e' low) low
  | .infinite s, .infinite s' => if s = s' then .infinite s else .nan
  | .nan, _ | _, .nan => .nan
  | .infinite s, _ | _, .infinite s => .infinite s

def times (factor : Nat) : Double → Double
  | .finite s m e => ofScaled (aligned s m e e * factor) e
  | number => number

def le : Double → Double → Bool
  | .finite s m e, .finite s' m' e' =>
    let low := min e e'
    aligned s m e low ≤ aligned s' m' e' low
  | .nan, _ | _, .nan => false
  | .infinite true, _ | _, .infinite false => true
  | .infinite false, _ | _, .infinite true => false

def toInt? : Double → Option Int
  | .finite negative mantissa exponent =>
    let size : Option Nat :=
      if 0 ≤ exponent then some (mantissa * twoTo exponent.toNat)
      else
        let den := twoTo (-exponent).toNat
        if mantissa % den = 0 then some (mantissa / den) else none
    size.map fun size => if negative then -(size : Int) else size
  | _ => none

def round? : Double → Option Int
  | .finite negative mantissa exponent =>
    let size :=
      if 0 ≤ exponent then mantissa * twoTo exponent.toNat
      else roundDiv mantissa (twoTo (-exponent).toNat)
    some (if negative then -(size : Int) else size)
  | _ => none

end Double

end LogtalkNavigation
