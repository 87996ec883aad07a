import LogtalkNavigation.Artifact.Kind
import LogtalkNavigation.Path.Uri
import LogtalkNavigation.Text.Lowercase
import LogtalkNavigation.World

/-! Whether results that are shown again and again may be outdated. Results of a kind become stale
when the configuration changes or a modified document is saved, and fresh when the engine has made
new ones. Showing them changes nothing. -/

namespace LogtalkNavigation

inductive Report where
  | tests
  | metrics
deriving DecidableEq, Repr

namespace Report

def all : List Report := [.tests, .metrics]

def word : Report → String
  | .tests => "tests"
  | .metrics => "metrics"

def ofWord (word : Text) : Except Failure Report :=
  match all.find? fun kind => kind.word.toList = word with
  | some kind => .ok kind
  | none => .error (.unknownReport word)

def artifact : Report → Artifact.Kind
  | .tests => .tests
  | .metrics => .metrics

end Report

/-- Whether a document is Logtalk source: by its language if that is known, else by its suffix. -/
def isLogtalk (uri : Text) (language : Option String) : Except Failure Bool :=
  match language with
  | some language => .ok (language == "logtalk")
  | none =>
    match Uri.ofText uri with
    | .error fault => .error (.uri fault)
    | .ok ⟨_, _, path⟩ =>
      let suffix := (Path.ofText (Percent.decode (if path.isEmpty then uri else path))).suffix
      let suffix := Text.lower suffix
      .ok (suffix = ".lgt".toList || suffix = ".logtalk".toList)

structure Freshness where
  watched : List Report := Report.all
  stale : List Report := []
  modified : List Text := []
deriving DecidableEq

namespace Freshness

def isOutdated (freshness : Freshness) (kind : Report) : Bool := freshness.stale.contains kind

def hasChanges (freshness : Freshness) (uri : Text) : Bool := freshness.modified.contains uri

def staleKinds (freshness : Freshness) : List Report := Report.all.filter freshness.isOutdated

def modifiedSorted (freshness : Freshness) : List Text := freshness.modified.mergeSort Text.le

def watch (freshness : Freshness) (kind : Report) : Freshness :=
  { freshness with watched := freshness.watched.insert kind }

def outdate (freshness : Freshness) (kind : Report) : Freshness :=
  let freshness := freshness.watch kind
  { freshness with stale := freshness.stale.insert kind }

def outdateAll (freshness : Freshness) : Freshness := freshness.watched.foldl outdate freshness

def renew (freshness : Freshness) (kind : Report) : Freshness :=
  let freshness := freshness.watch kind
  { freshness with stale := freshness.stale.filter (· ≠ kind) }

def configurationChanged (freshness : Freshness) : Act Freshness := do
  Act.note .debug "configuration changed, cached results marked stale"
  return freshness.outdateAll

def documentChanged (freshness : Freshness) (uri : Text) (language : Option String) :
    Except Failure Freshness := do
  if ← isLogtalk uri language then
    return { freshness with modified := freshness.modified.insert uri }
  else return freshness

/-- A document is about to be saved; says whether that makes results stale. -/
def willSave (freshness : Freshness) (uri : Text) (language : Option String) :
    Act (Bool × Freshness) := do
  if (← Act.ofExcept (isLogtalk uri language)) && freshness.hasChanges uri then
    Act.note .debug s!"saving modified {String.ofList uri}, cached results marked stale"
    return (true, freshness.outdateAll)
  else return (false, freshness)

def settled (freshness : Freshness) (uri : Text) : Freshness :=
  { freshness with modified := freshness.modified.filter (· ≠ uri) }

def outdatedMark : Text := " (may be outdated)".toList

def titled (freshness : Freshness) (title : Text) (kind : Report) (uri : Text) : Text :=
  if freshness.isOutdated kind || freshness.hasChanges uri then title ++ outdatedMark else title

end Freshness

end LogtalkNavigation
