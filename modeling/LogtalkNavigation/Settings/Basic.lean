import LogtalkNavigation.Settings.Coerce

namespace LogtalkNavigation

def Settings.standardTimeout : Settings.Duration := ⟨60000, by decide⟩

def Settings.standardInterval : Settings.Duration := ⟨200, by decide⟩

structure EngineSettings where
  command : String := "logtalk"
  args : List String := []
  timeout : Settings.Duration := Settings.standardTimeout
  pollInterval : Settings.Duration := Settings.standardInterval
  tester : String := "tester.lgt"
deriving DecidableEq

structure Settings where
  engine : EngineSettings := {}
  level : String := "warning"
  lensesEnabled : Bool := true
deriving DecidableEq

namespace Settings

/-- A reading of settings: the value, or all that is wrong. -/
abbrev Checked (α : Type) := Except (List FieldError) α

def faults {α : Type} : Checked α → List FieldError
  | .ok _ => []
  | .error errors => errors

def field {α : Type} (entries : List (String × Value)) (name : String) (default : α)
    (read : Value → Checked α) : Checked α :=
  match entries.lookup name with
  | none => .ok default
  | some value =>
    match read value with
    | .ok value => .ok value
    | .error errors =>
      .error (errors.map fun error => { error with location := .field name :: error.location })

def leaf {α : Type} : Except FieldFault α → Checked α
  | .ok value => .ok value
  | .error fault => .error [⟨[], fault⟩]

def textsFrom (index : Nat) : List Value → Checked (List String)
  | [] => .ok []
  | item :: rest =>
    match leaf (text item), textsFrom (index + 1) rest with
    | .ok item, .ok rest => .ok (item :: rest)
    | item, rest =>
      .error ((faults item).map (fun error => { error with location := [.item index] })
        ++ faults rest)

def texts : Value → Checked (List String)
  | .list items => textsFrom 0 items
  | _ => leaf (.error .notList)

end Settings

namespace EngineSettings

open Settings

def ofEntries (entries : List (String × Value)) : Checked EngineSettings :=
  let standard : EngineSettings := {}
  let command := field entries "command" standard.command (leaf ∘ text)
  let args := field entries "args" standard.args texts
  let timeout := field entries "timeout_ms" standard.timeout (leaf ∘ duration)
  let pollInterval := field entries "poll_interval_ms" standard.pollInterval (leaf ∘ duration)
  let tester := field entries "tester" standard.tester (leaf ∘ text)
  match command, args, timeout, pollInterval, tester with
  | .ok command, .ok args, .ok timeout, .ok pollInterval, .ok tester =>
    .ok ⟨command, args, timeout, pollInterval, tester⟩
  | command, args, timeout, pollInterval, tester =>
    .error (faults command ++ faults args ++ faults timeout ++ faults pollInterval ++ faults tester)

end EngineSettings

namespace Settings

def levelOfEntries (entries : List (String × Value)) : Checked String :=
  field entries "level" ({} : Settings).level (leaf ∘ text)

def described {α : Type} (model : String) (read : List (String × Value) → Checked α) (value : Value) :
    Checked α :=
  match value with
  | .table entries => read entries
  | _ => leaf (.error (.notSection model))

def engineOfValue (value : Value) : Checked EngineSettings :=
  described "EngineSettings" EngineSettings.ofEntries value

def ofEntries (entries : List (String × Value)) : Checked Settings :=
  let standard : Settings := {}
  let engine := field entries "engine" standard.engine engineOfValue
  let level := field entries "logging" standard.level (described "LoggingSettings" levelOfEntries)
  let lensesEnabled :=
    field entries "code_lens_enabled" standard.lensesEnabled (leaf ∘ flag)
  match engine, level, lensesEnabled with
  | .ok engine, .ok level, .ok lensesEnabled => .ok ⟨engine, level, lensesEnabled⟩
  | engine, level, lensesEnabled =>
    .error (faults engine ++ faults level ++ faults lensesEnabled)

def ofValue (value : Value) : Checked Settings := described "ServerSettings" ofEntries value

def checked {α : Type} : Checked α → Except Failure α
  | .ok value => .ok value
  | .error errors => .error (.invalidSettings errors)

end Settings

end LogtalkNavigation
