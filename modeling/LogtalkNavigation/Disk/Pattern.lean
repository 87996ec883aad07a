import LogtalkNavigation.Disk.Basic

/-! Finding files below a directory by a pattern of names. A pattern is a list of steps: a name as it
stands, a name with wildcards, or two stars for any number of directories. A slash at its end asks for
directories. -/

namespace LogtalkNavigation

namespace Pattern

inductive Token where
  | char (c : Char)
  | any
  | many
  | oneOf (excluded : Bool) (ranges : List (Char × Char))
deriving DecidableEq, Repr

def ranges : Text → List (Char × Char)
  | first :: '-' :: last :: rest => (first, last) :: ranges rest
  | c :: rest => (c, c) :: ranges rest
  | [] => []

/-- The text up to the closing bracket, which does not close right after the opening one, and the
rest behind it. -/
def bracket? (text : Text) : Option (Text × Text) :=
  let (mark, body) := match text with
    | '!' :: body => (['!'], body)
    | _ => ([], text)
  let (first, body) := match body with
    | ']' :: body => ([']'], body)
    | _ => ([], body)
  match body.span (· ≠ ']') with
  | (inner, _ :: rest) => some (mark ++ first ++ inner, rest)
  | (_, []) => none

def tokensFuel : Nat → Text → List Token
  | _, [] => []
  | 0, _ => []
  | fuel + 1, c :: text =>
    if c = '*' then .many :: tokensFuel fuel text
    else if c = '?' then .any :: tokensFuel fuel text
    else if c = '[' then
      match bracket? text with
      | none => .char '[' :: tokensFuel fuel text
      | some ('!' :: set, rest) => .oneOf true (ranges set) :: tokensFuel fuel rest
      | some (set, rest) => .oneOf false (ranges set) :: tokensFuel fuel rest
    else .char c :: tokensFuel fuel text

def tokens (text : Text) : List Token := tokensFuel text.length text

def Token.admits (c : Char) : Token → Bool
  | .char d => c = d
  | .any | .many => true
  | .oneOf excluded ranges => (ranges.any fun (low, high) => low ≤ c && c ≤ high) != excluded

def someEnd (accept : Text → Bool) : Text → Bool
  | [] => accept []
  | c :: text => accept (c :: text) || someEnd accept text

def fits : List Token → Text → Bool
  | [], text => text.isEmpty
  | .many :: rest, text => someEnd (fits rest) text
  | _ :: _, [] => false
  | token :: rest, c :: text => token.admits c && fits rest text

inductive Step where
  | name (name : Name)
  | wild (tokens : List Token)
  | anyDepth
  -- No further, but only from a directory.
  | inside
deriving DecidableEq

def step (part : Name) : Except Failure Step :=
  if part.1 = ['*', '*'] then .ok .anyDepth
  else if (Text.indexOf? ['*', '*'] part.1).isSome then .error .misplacedStars
  else if part.1.any fun c => c = '*' || c = '?' || c = '[' then .ok (.wild (tokens part.1))
  else .ok (.name part)

def steps (text : Text) : Except Failure (List Step) := do
  let p := Path.ofText text
  if p.isAbsolute then throw .absolutePattern
  let steps ← p.names.mapM step
  return if text.getLast? = some '/' then steps ++ [.inside] else steps

end Pattern

namespace Disk

def below (disk : Disk) (place : Location) : List (List Name × Node) :=
  disk.nodes.filterMap fun (spot, node) =>
    if place.isPrefixOf spot ∧ place.length < spot.length then
      some (spot.drop place.length, node)
    else none

def belowPath (disk : Disk) (p : Path) : List (List Name × Node) :=
  match disk.locate p with
  | .ok place => if disk.node? place = some .directory then disk.below place else []
  | .error _ => []

def descend (p : Path) (names : List Name) : Path := ⟨p.anchor, p.names ++ names⟩

def directories (disk : Disk) (p : Path) : List Path :=
  p :: (disk.belowPath p).filterMap fun (names, node) =>
    if node = .directory then some (descend p names) else none

/-- The paths that the steps lead to. What has steps to follow has to be a directory. -/
def select (disk : Disk) : List Pattern.Step → Path → Except Failure (List Path)
  | [], p => return [p]
  | .inside :: rest, p => select disk rest p
  | .anyDepth :: rest, p => do
    let found ← (disk.directories p).mapM (select disk rest)
    return found.flatten.eraseDups
  | .name name :: rest, p => do
    let next := p.child name
    if ← if rest.isEmpty then disk.isThere next else disk.isDirectory next then
      select disk rest next
    else return []
  | .wild tokens :: rest, p => do
    let fitting := (disk.belowPath p).filterMap fun (names, node) =>
      match names with
      | [name] =>
        if (rest.isEmpty || node = .directory) && Pattern.fits tokens name.1 then some (p.child name)
        else none
      | _ => none
    let found ← fitting.mapM (select disk rest)
    return found.flatten

def search (disk : Disk) (p : Path) (pattern : Text) : Except Failure (List Path) := do
  let found ← disk.select (.anyDepth :: (← Pattern.steps pattern)) p
  return found.mergeSort Path.le

end Disk

end LogtalkNavigation
