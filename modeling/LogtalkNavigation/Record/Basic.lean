import LogtalkNavigation.Artifact.Kind
import LogtalkNavigation.Text.Blank
import LogtalkNavigation.Text.Fold

namespace LogtalkNavigation

structure CallFact where
  name : Text
  file : Text
  line : Int
deriving DecidableEq, Repr

structure EntityFact where
  entityType : Text
  name : Text
  file : Text
  line : Int
deriving DecidableEq, Repr

structure PlaceFact where
  file : Text
  line : Int
deriving DecidableEq, Repr

structure TestOutcome where
  file : Text
  line : Int
  object : Text
  test : Text
  status : Text
  reason : Option Text
deriving DecidableEq, Repr

structure ObjectOutcome where
  file : Text
  line : Int
  object : Text
  status : Text
deriving DecidableEq, Repr

structure FileOutcome where
  file : Text
  line : Int
  status : Text
deriving DecidableEq, Repr

structure Complexity where
  file : Text
  line : Int
  score : Int
deriving DecidableEq, Repr

inductive Record where
  | call (record : CallFact)
  | entity (record : EntityFact)
  | location (record : PlaceFact)
  | test (record : TestOutcome)
  | summary (record : ObjectOutcome)
  | status (record : FileOutcome)
  | metric (record : Complexity)
deriving DecidableEq, Repr

namespace Record

def file : Record → Text
  | .call r => r.file
  | .entity r => r.file
  | .location r => r.file
  | .test r => r.file
  | .summary r => r.file
  | .status r => r.file
  | .metric r => r.file

def line : Record → Int
  | .call r => r.line
  | .entity r => r.line
  | .location r => r.line
  | .test r => r.line
  | .summary r => r.line
  | .status r => r.line
  | .metric r => r.line

/-- A file name as the engine may write it, tidied: no blanks around it, slashes for backslashes,
and no slash twice in a row. -/
def tidy (file : Text) : Text :=
  Text.squeeze '/' ((Text.trim file).map fun c => if c = '\\' then '/' else c)

def sameFile (left right : Text) : Bool := Text.fold (tidy left) == Text.fold (tidy right)

end Record

end LogtalkNavigation
