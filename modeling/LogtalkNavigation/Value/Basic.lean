import LogtalkNavigation.Double.Basic

namespace LogtalkNavigation

structure Date where
  year : Nat
  month : Nat
  day : Nat
deriving DecidableEq, Repr

structure TimeOfDay where
  hour : Nat
  minute : Nat
  second : Nat
  micro : Nat
deriving DecidableEq, Repr

/-- A date, a time of day, or both; then possibly with the distance from universal time in minutes. -/
inductive Moment where
  | date (date : Date)
  | time (time : TimeOfDay)
  | dateTime (date : Date) (time : TimeOfDay) (offset : Option Int)
deriving DecidableEq, Repr

inductive Value where
  | null
  | bool (value : Bool)
  | int (value : Int)
  | double (value : Double)
  | string (value : String)
  | moment (value : Moment)
  | list (items : List Value)
  | table (entries : List (String × Value))
deriving Repr, Inhabited

namespace Value

def table? : Value → Option (List (String × Value))
  | .table entries => some entries
  | _ => none

def string? : Value → Option String
  | .string value => some value
  | _ => none

end Value

/-- Sets a key of a table, in place if it is there and at the end if not. -/
def setEntry (key : String) (value : Value) : List (String × Value) → List (String × Value)
  | [] => [(key, value)]
  | (k, v) :: rest => if k = key then (k, value) :: rest else (k, v) :: setEntry key value rest

end LogtalkNavigation
