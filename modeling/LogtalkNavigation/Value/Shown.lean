import LogtalkNavigation.Value.Basic
import LogtalkNavigation.Double.Shortest
import LogtalkNavigation.Text.Quoted

namespace LogtalkNavigation

def padded (width number : Nat) : String :=
  let digits := Nat.toDigits 10 number
  String.ofList (List.replicate (width - digits.length) '0' ++ digits)

namespace Date

def plain (d : Date) : String :=
  padded 4 d.year ++ "-" ++ padded 2 d.month ++ "-" ++ padded 2 d.day

def parts (d : Date) : List Nat := [d.year, d.month, d.day]

end Date

namespace TimeOfDay

def plain (t : TimeOfDay) : String :=
  padded 2 t.hour ++ ":" ++ padded 2 t.minute ++ ":" ++ padded 2 t.second
    ++ if t.micro = 0 then "" else "." ++ padded 6 t.micro

def parts (t : TimeOfDay) : List Nat :=
  [t.hour, t.minute]
    ++ if t.micro ≠ 0 then [t.second, t.micro] else if t.second ≠ 0 then [t.second] else []

end TimeOfDay

namespace Moment

def offsetPlain (minutes : Int) : String :=
  (if minutes < 0 then "-" else "+")
    ++ padded 2 (minutes.natAbs / 60) ++ ":" ++ padded 2 (minutes.natAbs % 60)

def plain : Moment → String
  | .date d => d.plain
  | .time t => t.plain
  | .dateTime d t offset => d.plain ++ " " ++ t.plain ++ (offset.map offsetPlain).getD ""

/-- A distance from universal time, spelled in days and seconds; no days if it is not negative. -/
def offsetShown (minutes : Int) : String :=
  if minutes = 0 then "datetime.timezone.utc"
  else
    let seconds := minutes * 60
    let delta :=
      if 0 ≤ seconds then "seconds=" ++ toString seconds
      else "days=-1, seconds=" ++ toString (seconds + 86400)
    "datetime.timezone(datetime.timedelta(" ++ delta ++ "))"

def shown : Moment → String
  | .date d => "datetime.date(" ++ ", ".intercalate (d.parts.map toString) ++ ")"
  | .time t => "datetime.time(" ++ ", ".intercalate (t.parts.map toString) ++ ")"
  | .dateTime d t offset =>
    "datetime.datetime(" ++ ", ".intercalate ((d.parts ++ t.parts).map toString)
      ++ (offset.map fun minutes => ", tzinfo=" ++ offsetShown minutes).getD "" ++ ")"

end Moment

namespace Value

mutual

def shown : Value → String
  | .null => "None"
  | .bool true => "True"
  | .bool false => "False"
  | .int value => toString value
  | .double value => value.text
  | .string value => Text.quoted value.toList
  | .moment value => value.shown
  | .list items => "[" ++ ", ".intercalate (shownItems items) ++ "]"
  | .table entries => "\x7b" ++ ", ".intercalate (shownEntries entries) ++ "\x7d"

def shownItems : List Value → List String
  | [] => []
  | item :: rest => shown item :: shownItems rest

def shownEntries : List (String × Value) → List String
  | [] => []
  | (key, value) :: rest => (Text.quoted key.toList ++ ": " ++ shown value) :: shownEntries rest

end

mutual

def isWithin (size : Nat) : Value → Bool
  | .int value => value.natAbs ≤ size
  | .list items => areWithin size items
  | .table entries => entriesWithin size entries
  | _ => true

def areWithin (size : Nat) : List Value → Bool
  | [] => true
  | item :: rest => isWithin size item && areWithin size rest

def entriesWithin (size : Nat) : List (String × Value) → Bool
  | [] => true
  | (_, value) :: rest => isWithin size value && entriesWithin size rest

end

def plain : Value → String
  | .string value => value
  | .moment value => value.plain
  | value => shown value

end Value

end LogtalkNavigation
