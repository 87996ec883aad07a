import LogtalkNavigation.Text.Basic

/-! Fields of free text inside a line. A field is delimited by what has to follow it, and the
follower is a recogniser `Text → Option α` of the whole rest. Where a line can be divided in
several ways, the scan decides: `shortest` tries the ends of the field from left to right and
`longest` from right to left. A field never contains a line feed. `replaceRuns` puts another text in the
place of every run that a measure recognises. -/

namespace LogtalkNavigation.Text

variable {α : Type}

def shortest (follower : Text → Option α) : Text → Option (Text × α)
  | [] => (follower []).map ([], ·)
  | c :: text =>
    match follower (c :: text) with
    | some found => some ([], found)
    | none =>
      if c = '\n' then none
      else (shortest follower text).map fun (field, found) => (c :: field, found)

def shortestSome (follower : Text → Option α) : Text → Option (Text × α)
  | [] => none
  | c :: text =>
    if c = '\n' then none
    else (shortest follower text).map fun (field, found) => (c :: field, found)

def longest (follower : Text → Option α) : Text → Option (Text × α)
  | [] => (follower []).map ([], ·)
  | c :: text =>
    let further := if c = '\n' then none else longest follower text
    match further with
    | some (field, found) => some (c :: field, found)
    | none => (follower (c :: text)).map ([], ·)

def longestSome (follower : Text → Option α) : Text → Option (Text × α)
  | [] => none
  | c :: text =>
    if c = '\n' then none
    else (longest follower text).map fun (field, found) => (c :: field, found)

def replaceRunsFrom (measure : Text → Option Nat) (stand : Text) : Nat → Text → Text
  | _, [] => []
  | skip + 1, _ :: text => replaceRunsFrom measure stand skip text
  | 0, c :: text =>
    match measure (c :: text) with
    | some length => stand ++ replaceRunsFrom measure stand (length - 1) text
    | none => c :: replaceRunsFrom measure stand 0 text

/-- A text with `stand` for every run that a measure recognises, from left to right. What only this
brings together stays. -/
def replaceRuns (measure : Text → Option Nat) (stand text : Text) : Text :=
  replaceRunsFrom measure stand 0 text

end LogtalkNavigation.Text
