import LogtalkNavigation.Failure

namespace LogtalkNavigation

structure Position where
  line : Nat
  character : Nat
deriving DecidableEq, Repr

def maxCoordinate : Nat := 2147483647

namespace Position

def coordinate (field : String) (value : Int) : Except Failure Nat :=
  if 0 ≤ value ∧ value ≤ maxCoordinate then .ok value.toNat
  else if fitsText value then .error (.positionOutOfRange field value)
  else .error .tooLongToWrite

def ofInts (line character : Int) : Except Failure Position := do
  let line ← coordinate "line" line
  return ⟨line, ← coordinate "character" character⟩

end Position

structure Range where
  start : Position
  stop : Position
deriving DecidableEq, Repr

namespace Range

def empty (position : Position) : Range := ⟨position, position⟩

def onLine (line start stop : Int) : Except Failure Range := do
  return ⟨← Position.ofInts line start, ← Position.ofInts line stop⟩

end Range

structure Located where
  range : Range
  selection : Range
deriving DecidableEq, Repr

-- Nothing but the start of a line; a line before the first is the first.
def lineStart (index : Int) : Except Failure Located := do
  let range := Range.empty (← Position.ofInts (max index 0) 0)
  return ⟨range, range⟩

end LogtalkNavigation
