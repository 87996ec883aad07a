import LogtalkNavigation.Double.Basic
import LogtalkNavigation.Path.Uri
import LogtalkNavigation.Text.Quoted

/-! What can go wrong. A failure is its cause; `message` words it. -/

namespace LogtalkNavigation

inductive OsCode where
  | notFound
  | denied
  | busy
  | notDirectory
  | isDirectory
  | brokenPipe
  | nameTooLong
deriving DecidableEq, Repr

namespace OsCode

def number : OsCode → Nat
  | .notFound => 2
  | .denied => 13
  | .busy => 16
  | .notDirectory => 20
  | .isDirectory => 21
  | .brokenPipe => 32
  | .nameTooLong => 36

def words : OsCode → String
  | .notFound => "No such file or directory"
  | .denied => "Permission denied"
  | .busy => "Device or resource busy"
  | .notDirectory => "Not a directory"
  | .isDirectory => "Is a directory"
  | .brokenPipe => "Broken pipe"
  | .nameTooLong => "File name too long"

end OsCode

structure OsError where
  code : OsCode
  paths : List Text
deriving DecidableEq, Repr

namespace OsError

def message (error : OsError) : String :=
  let head := "[Errno " ++ toString error.code.number ++ "] " ++ error.code.words
  match error.paths with
  | [] => head
  | paths => head ++ ": " ++ " -> ".intercalate (paths.map Text.quoted)

end OsError

inductive FieldFault where
  | notString
  | notList
  | notInteger
  | notIntegerText
  | tooLong
  | fractional
  | notFinite
  | notPositive
  | notBoolean
  | notBooleanText
  | notSection (model : String)
deriving DecidableEq, Repr

inductive Step where
  | field (name : String)
  | item (index : Nat)
deriving DecidableEq, Repr

structure FieldError where
  location : List Step
  fault : FieldFault
deriving DecidableEq, Repr

inductive Failure where
  | general (message : String)
  | noWorkspace (detail : String)
  | artifactMissing (path : Text)
  | malformedRecord (kind : String) (line : Text)
  | rangeLost (path : Text) (line : Int) (reason : String)
  | notDeleted (path : Text) (reason : String)
  | engine (message : String)
  | engineTimeout (sentinel : Text) (timeout : Int)
  -- A place that should never be reached; `keys` names the values shown in the message.
  | unreachable (message : String) (keys : List String)
  | os (error : OsError)
  | tooManyDigits (count : Nat)
  | tooLongToWrite
  -- A quotient that no double is near to.
  | overflow
  -- A double that no integer is near to.
  | infinite
  | positionOutOfRange (field : String) (value : Int)
  | nulInPath
  | uri (fault : Uri.Fault)
  | namelessPath (path : Text)
  | absolutePattern
  | misplacedStars
  | unknownArtifactKind (name : Text)
  | unknownReport (name : Text)
  | unknownEntityType (name : Text)
  | unknownQuery (name : Text)
  | notUtf8 (byte : UInt8) (damage : Utf8.Damage)
  | invalidSettings (errors : List FieldError)
  | transportClosed
deriving DecidableEq, Repr

def maxDigits : Nat := 4300

def maxWritten : Nat := Double.tenTo maxDigits - 1

def fitsText (number : Int) : Bool := number.natAbs ≤ maxWritten

namespace Failure

def noWorkspaceText (detail : String) : String :=
  "No workspace folder open" ++ if detail.isEmpty then "" else ": " ++ detail

def artifactMissingText (path : String) : String := "Artifact not found: " ++ path

def malformedRecordText (kind line : String) : String := "Malformed " ++ kind ++ " record: " ++ line

def rangeLostText (path line reason : String) : String :=
  "Cannot locate range at " ++ path ++ ":" ++ line ++ " (" ++ reason ++ ")"

def notDeletedText (path reason : String) : String := "Cannot delete " ++ path ++ ": " ++ reason

def engineTimeoutText (sentinel timeout : String) : String :=
  "Timeout of " ++ timeout ++ " ms exceeded waiting for " ++ sentinel

def message : Failure → String
  | .general message => message
  | .noWorkspace detail => noWorkspaceText detail
  | .artifactMissing path => artifactMissingText (String.ofList path)
  | .malformedRecord kind line => malformedRecordText kind (Text.quoted line)
  | .rangeLost path line reason => rangeLostText (String.ofList path) (toString line) reason
  | .notDeleted path reason => notDeletedText (String.ofList path) reason
  | .engine message => message
  | .engineTimeout sentinel timeout => engineTimeoutText (String.ofList sentinel) (toString timeout)
  | .unreachable message _ => message
  | .os error => error.message
  | .tooManyDigits count =>
    "Exceeds the limit (" ++ toString maxDigits ++ " digits) for integer string conversion: value has "
      ++ toString count ++ " digits; use sys.set_int_max_str_digits() to increase the limit"
  | .tooLongToWrite =>
    "Exceeds the limit (" ++ toString maxDigits
      ++ " digits) for integer string conversion; use sys.set_int_max_str_digits() to increase the limit"
  | .overflow => "integer division result too large for a float"
  | .infinite => "cannot convert float infinity to integer"
  | .positionOutOfRange field value =>
    "Position." ++ field ++ " should be in range [0:2147483647], but was " ++ toString value ++ "."
  | .nulInPath => "embedded null byte"
  | .uri .strayBracket => "Invalid IPv6 URL"
  | .uri (.noAddress host) =>
    Text.quoted host ++ " does not appear to be an IPv4 or IPv6 address"
  | .uri .dottedAddress => "An IPv4 address cannot be in brackets"
  | .uri .laterAddress => "IPvFuture address is invalid"
  | .uri (.disguisedDelimiter host) =>
    "netloc '" ++ String.ofList host ++ "' contains invalid characters under NFKC normalization"
  | .namelessPath path => "PosixPath(" ++ Text.quoted path ++ ") has an empty name"
  | .absolutePattern => "Non-relative patterns are unsupported"
  | .misplacedStars => "Invalid pattern: '**' can only be an entire path component"
  | .unknownArtifactKind name => Text.quoted name ++ " is not a valid ArtifactKind"
  | .unknownReport name => Text.quoted name ++ " is not a valid ResultKind"
  | .unknownEntityType name => Text.quoted name
  | .unknownQuery name => Text.quoted name ++ " is not a valid RequestKind"
  | .notUtf8 byte ⟨position, length, reason⟩ =>
    "'utf-8' codec can't decode "
      ++ (if length = 1 then
          "byte 0x" ++ String.ofList (Text.hexDigits 2 byte.toNat) ++ " in position "
            ++ toString position
        else
          "bytes in position " ++ toString position ++ "-" ++ toString (position + length - 1))
      ++ ": " ++ reason.message
  | .invalidSettings _ => "invalid settings"
  | .transportClosed => "transport closed"

/-- Whether a request answers with nothing instead of passing the failure on: failures of the
service and of the operating system. -/
def isContained : Failure → Bool
  | .general _ | .noWorkspace _ | .artifactMissing _ | .malformedRecord _ _ | .rangeLost _ _ _
  | .notDeleted _ _ | .engine _ | .engineTimeout _ _ | .os _ => true
  | _ => false

def isEngine : Failure → Bool
  | .engine _ | .engineTimeout _ _ => true
  | _ => false

end Failure

namespace FieldFault

def name : FieldFault → String
  | .notString => "string_type"
  | .notList => "list_type"
  | .notInteger => "int_type"
  | .notIntegerText => "int_parsing"
  | .tooLong => "int_parsing_size"
  | .fractional => "int_from_float"
  | .notFinite => "finite_number"
  | .notPositive => "greater_than"
  | .notBoolean => "bool_type"
  | .notBooleanText => "bool_parsing"
  | .notSection _ => "model_type"

def message : FieldFault → String
  | .notString => "Input should be a valid string"
  | .notList => "Input should be a valid list"
  | .notInteger => "Input should be a valid integer"
  | .notIntegerText => "Input should be a valid integer, unable to parse string as an integer"
  | .tooLong => "Unable to parse input string as an integer, exceeded maximum size"
  | .fractional => "Input should be a valid integer, got a number with a fractional part"
  | .notFinite => "Input should be a finite number"
  | .notPositive => "Input should be greater than 0"
  | .notBoolean => "Input should be a valid boolean"
  | .notBooleanText => "Input should be a valid boolean, unable to interpret input"
  | .notSection model => "Input should be a valid dictionary or instance of " ++ model

end FieldFault

/-- Marks a place as unreachable. The values that are given are shown, in the order of their keys. -/
def unreachable (reason : String) (values : List (String × String)) : Failure :=
  let values := values.mergeSort fun a b => Text.le a.1.toList b.1.toList
  let reason := if reason.isEmpty then "never() marker reached" else reason
  let shown := values.map fun (key, value) => key ++ "=" ++ value
  .unreachable (if values.isEmpty then reason else reason ++ " (" ++ ", ".intercalate shown ++ ")")
    (values.map (·.1))

def required {α : Type} (value : Option α) (reason : String) (values : List (String × String)) :
    Except Failure α :=
  match value with
  | some value => .ok value
  | none =>
    .error (unreachable (if reason.isEmpty then "required value is None" else reason) values)

end LogtalkNavigation
