import LogtalkNavigation.Proofs.Reading
import LogtalkNavigation.Proofs.Settings.Fields

/-! Which value a setting has. What the client gives goes before what the configuration file gives, and that before the
standard. Each setting is looked up on its own, so settings depend on nothing but the values that are found for them. -/

namespace LogtalkNavigation

namespace Value

def under? (value : Value) (key : String) : Option Value := value.table?.bind (·.lookup key)

def isNull : Value → Bool
  | .null => true
  | _ => false

inductive Keyed : Value → Prop where
  | plain {value : Value} (bare : value.table? = none) : Keyed value
  | table {entries : List (String × Value)} (distinct : (entries.map Prod.fst).Nodup)
      (inner : ∀ entry ∈ entries, Keyed entry.2) : Keyed (.table entries)

theorem keyed_table_iff {entries : List (String × Value)} :
    (Value.table entries).Keyed ↔ (entries.map Prod.fst).Nodup ∧ ∀ entry ∈ entries, entry.2.Keyed := by
  constructor
  · intro keyed
    cases keyed with
    | plain bare => cases bare
    | table distinct inner => exact ⟨distinct, inner⟩
  · rintro ⟨distinct, inner⟩
    exact .table distinct inner

theorem mem_of_lookup {entries : List (String × Value)} {key : String} {value : Value}
    (found : entries.lookup key = some value) : (key, value) ∈ entries := by
  obtain ⟨front, back, rfl, _⟩ := List.lookup_eq_some_iff.mp found
  exact List.mem_append_right front List.mem_cons_self

theorem Keyed.entry {value inner : Value} {key : String} (keyed : value.Keyed) (found : value.under? key = some inner) :
    inner.Keyed := by
  cases keyed with
  | plain bare =>
      rw [under?, bare] at found
      cases found
  | table distinct each => exact each _ (mem_of_lookup found)

theorem Keyed.distinct {value : Value} (keyed : value.Keyed) : ((value.table?.getD []).map Prod.fst).Nodup := by
  cases keyed with
  | plain bare =>
      rw [bare]
      exact .nil
  | table distinct _ => exact distinct

end Value

theorem lookup_cons_ite (name : String) (value : Value) (rest : List (String × Value)) (key : String) :
    ((name, value) :: rest).lookup key = if key = name then some value else rest.lookup key := by
  by_cases same : key = name
  · subst same
    simp
  · rw [List.lookup_cons, beq_eq_false_iff_ne.mpr same, if_neg same]

theorem lookup_setEntry (key : String) (value : Value) (entries : List (String × Value)) (other : String) :
    (setEntry key value entries).lookup other = if other = key then some value else entries.lookup other := by
  induction entries with
  | nil => exact lookup_cons_ite key value [] other
  | cons entry rest ih =>
      obtain ⟨name, old⟩ := entry
      rw [setEntry, lookup_cons_ite]
      by_cases here : name = key
      · subst here
        rw [if_pos rfl, lookup_cons_ite]
        split <;> rfl
      · rw [if_neg here, lookup_cons_ite, ih]
        by_cases same : other = name
        · subst same
          rw [if_pos rfl, if_neg here, if_pos rfl]
        · rw [if_neg same, if_neg same]

namespace Settings

theorem lookup_overlay {upper : List (String × Value)} (distinct : (upper.map Prod.fst).Nodup)
    (entries : List (String × Value)) (key : String) :
    (overlay upper entries).lookup key =
      ((upper.lookup key).filter fun value => !value.isNull).or (entries.lookup key) := by
  induction upper generalizing entries with
  | nil => rfl
  | cons entry rest ih =>
      obtain ⟨name, value⟩ := entry
      obtain ⟨fresh, others⟩ := List.nodup_cons.mp distinct
      have step : overlay ((name, value) :: rest) entries =
          overlay rest (if value.isNull then entries else setEntry name value entries) := by
        cases value <;> rfl
      rw [step, ih others, lookup_cons_ite]
      by_cases same : key = name
      · subst same
        -- No later entry sets the key again, since it is not among their keys.
        have absent : rest.lookup key = none := by
          refine List.lookup_eq_none_iff.mpr fun other inside => ?_
          exact bne_iff_ne.mpr fun same => fresh (List.mem_map.mpr ⟨other, inside, same.symm⟩)
        rw [absent, if_pos rfl]
        cases null : value.isNull <;> simp [Option.filter, null, lookup_setEntry]
      · rw [if_neg same]
        cases value.isNull <;> simp [lookup_setEntry, same]

theorem lookup_sectionOf (entries : List (String × Value)) (name key : String) :
    (sectionOf entries name).lookup key = ((Value.table entries).under? name).bind (·.under? key) := by
  unfold sectionOf Value.under?
  change _ = (entries.lookup name).bind _
  cases entries.lookup name with
  | none => rfl
  | some inner => cases inner <;> rfl

theorem lookup_sectionOfClient (client : Value) (name key : String) :
    (sectionOfClient client name).lookup key =
      (((client.under? clientName).getD client).under? name).bind (·.under? key) := by
  cases client with
  | table entries =>
      change _ = (((entries.lookup clientName).getD _).under? name).bind _
      unfold sectionOfClient
      dsimp only
      cases entries.lookup clientName with
      | none => exact lookup_sectionOf entries name key
      | some inner => cases inner <;> exact lookup_sectionOf _ name key
  | _ => rfl

theorem distinct_sectionOf {entries : List (String × Value)} (keyed : (Value.table entries).Keyed) (name : String) :
    ((sectionOf entries name).map Prod.fst).Nodup := by
  unfold sectionOf
  cases found : entries.lookup name with
  | none => exact .nil
  | some inner => exact (keyed.entry found).distinct

theorem distinct_sectionOfClient {client : Value} (keyed : client.Keyed) (name : String) :
    ((sectionOfClient client name).map Prod.fst).Nodup := by
  cases client with
  | table entries =>
      unfold sectionOfClient
      dsimp only
      split
      case h_1 inner found =>
        have below : inner.Keyed := keyed.entry found
        cases inner with
        | table nested => exact distinct_sectionOf below name
        | _ => exact .nil
      case h_2 => exact distinct_sectionOf keyed name
  | _ => exact .nil

end Settings

inductive Setting where
  | command
  | args
  | timeout
  | pollInterval
  | tester
  | level
  | lensesEnabled
deriving DecidableEq

namespace Setting

def group : Setting → String
  | .command | .args | .timeout | .pollInterval | .tester => "engine"
  | .level => "logging"
  | .lensesEnabled => "code_lens"

def key : Setting → String
  | .command => "command"
  | .args => "args"
  | .timeout => "timeout_ms"
  | .pollInterval => "poll_interval_ms"
  | .tester => "tester"
  | .level => "level"
  | .lensesEnabled => "enabled"

def within? (setting : Setting) (sections : Value) : Option Value :=
  (sections.under? setting.group).bind (·.under? setting.key)

/-- The value that a client gives to a setting. The sections are under the name of the service if it is there, and a
null is no value. -/
def given? (setting : Setting) (client : Value) : Option Value :=
  (setting.within? ((client.under? Settings.clientName).getD client)).filter fun value => !value.isNull

def chosen? (entries : List (String × Value)) (client : Value) (setting : Setting) : Option Value :=
  (setting.given? client).or (setting.within? (.table entries))

def Refuses (setting : Setting) (value : Value) (fault : FieldFault) : Prop :=
  match setting with
  | .command | .tester | .level => Settings.text value = .error fault
  | .timeout | .pollInterval => Settings.duration value = .error fault
  | .args | .lensesEnabled => False

end Setting

namespace Settings

def merged (entries : List (String × Value)) (client : Value) (name : String) : List (String × Value) :=
  overlay (sectionOfClient client name) (sectionOf entries name)

theorem lookup_merged {client : Value} (keyed : client.Keyed) (entries : List (String × Value)) (setting : Setting) :
    (merged entries client setting.group).lookup setting.key = setting.chosen? entries client := by
  rw [merged, lookup_overlay (distinct_sectionOfClient keyed setting.group), lookup_sectionOfClient, lookup_sectionOf]
  rfl

def engineOf (entries : List (String × Value)) : Except Failure EngineSettings := do
  checked (EngineSettings.ofEntries (← withArguments entries))

def ofSections (sections : String → List (String × Value)) : Except Failure Settings := do
  let engine ← engineOf (sections "engine")
  let level ← checked (levelOfEntries (sections "logging"))
  return ⟨engine, level, truth (((sections "code_lens").lookup "enabled").getD (.bool true))⟩

theorem outcome_load {root file : Option Path} {world : World} {entries : List (String × Value)}
    (read : (configuration root file).outcome world = .ok entries) (client : Value) :
    (load root file client).outcome world = ofSections (merged entries client) := by
  have ran := Act.ran_of_outcome read
  unfold load Act.outcome
  rw [Act.bind_ran ran]
  change Act.outcome _ _ = _
  simp only [Act.outcome_ofExcept_bind]
  unfold ofSections engineOf
  rw [bind_assoc]
  rfl

theorem engineOf_eq_ok_iff (entries : List (String × Value)) (engine : EngineSettings) :
    engineOf entries = .ok engine ↔
      Taken text "logtalk" (entries.lookup "command") engine.command ∧
      Taken arguments [] (entries.lookup "args") engine.args ∧
      Taken duration standardTimeout (entries.lookup "timeout_ms") engine.timeout ∧
      Taken duration standardInterval (entries.lookup "poll_interval_ms") engine.pollInterval ∧
      Taken text "tester.lgt" (entries.lookup "tester") engine.tester := by
  unfold engineOf
  obtain ⟨absent, same⟩ | ⟨value, failure, found, refused, failed⟩ | ⟨value, args, found, read, made⟩ :=
    withArguments_cases entries
  · rw [same]
    change checked _ = _ ↔ _
    rw [checked_eq_ok_iff, EngineSettings.ofEntries_eq_ok_iff, absent]
    rfl
  · rw [failed, found]
    simp [Taken, refused, bind, Except.bind]
  · rw [made]
    change checked _ = _ ↔ _
    rw [checked_eq_ok_iff, EngineSettings.ofEntries_eq_ok_iff, found]
    simp [lookup_setEntry, Taken, texts_strings, read]

def Blames (choice : Setting → Option Value) (error : FieldError) : Prop :=
  ∃ setting value fault, choice setting = some value ∧ setting.Refuses value fault ∧
    error = ⟨[.field setting.key], fault⟩

def Failing (choice : Setting → Option Value) (failure : Failure) : Prop :=
  (failure = .tooLongToWrite ∧ Unwritable (choice .args)) ∨
    ∃ errors, failure = .invalidSettings errors ∧ errors ≠ [] ∧ ∀ error ∈ errors, Blames choice error

theorem blames_of_fault {choice : Setting → Option Value} {entries : List (String × Value)} {setting : Setting}
    (shown : entries.lookup setting.key = choice setting) {α : Type} {standard : α} {read : Value → Except FieldFault α}
    (refuses : ∀ value fault, read value = .error fault → setting.Refuses value fault) {error : FieldError}
    (among : error ∈ faults (field entries setting.key standard (leaf ∘ read))) : Blames choice error := by
  obtain ⟨value, fault, found, refused, rfl⟩ := (mem_faults_field entries setting.key standard read error).mp among
  exact ⟨setting, value, fault, shown.symm.trans found, refuses value fault refused, rfl⟩

theorem failing_of_ofEntries {choice : Setting → Option Value} {entries : List (String × Value)}
    (shown : ∀ setting : Setting, setting.group = "engine" → setting ≠ .args → entries.lookup setting.key = choice setting)
    {args : List String} (taken : field entries "args" [] texts = .ok args) {failure : Failure}
    (failed : checked (EngineSettings.ofEntries entries) = .error failure) : Failing choice failure := by
  obtain ⟨wrong, rfl⟩ := checked_eq_error failed
  have all := EngineSettings.faults_ofEntries entries
  rw [taken] at all
  refine .inr ⟨_, rfl, fun clean => ?_, fun error among => ?_⟩
  -- A section without faults has all its fields read, and is then read itself.
  · rw [clean] at all wrong
    simp only [List.nil_eq, List.append_eq_nil_iff] at all
    obtain ⟨⟨⟨⟨first, _⟩, second⟩, third⟩, fourth⟩ := all
    obtain ⟨command, commandRead⟩ := ok_of_no_faults entries "command" "logtalk" first
    obtain ⟨timeout, timeoutRead⟩ := ok_of_no_faults entries "timeout_ms" standardTimeout second
    obtain ⟨interval, intervalRead⟩ := ok_of_no_faults entries "poll_interval_ms" standardInterval third
    obtain ⟨tester, testerRead⟩ := ok_of_no_faults entries "tester" "tester.lgt" fourth
    have fine := (EngineSettings.ofEntries_eq_ok_iff entries ⟨command, args, timeout, interval, tester⟩).mpr
    simp only [← plainField_eq_ok_iff, ← field_eq_ok_iff] at fine
    cases wrong.symm.trans (fine ⟨commandRead, taken, timeoutRead, intervalRead, testerRead⟩)
  · rw [all] at among
    simp only [List.mem_append] at among
    obtain (((among | among) | among) | among) | among := among
    · exact blames_of_fault (shown .command rfl (by decide)) (fun _ _ => id) among
    · cases among
    · exact blames_of_fault (shown .timeout rfl (by decide)) (fun _ _ => id) among
    · exact blames_of_fault (shown .pollInterval rfl (by decide)) (fun _ _ => id) among
    · exact blames_of_fault (shown .tester rfl (by decide)) (fun _ _ => id) among

theorem failing_of_engineOf {choice : Setting → Option Value} {entries : List (String × Value)}
    (shown : ∀ setting : Setting, setting.group = "engine" → entries.lookup setting.key = choice setting)
    {failure : Failure} (failed : engineOf entries = .error failure) : Failing choice failure := by
  unfold engineOf at failed
  -- Arguments that are read as texts have no faults of their own, so the other fields are to blame.
  obtain ⟨absent, same⟩ | ⟨value, _, found, refused, stopped⟩ | ⟨value, args, found, read, made⟩ :=
    withArguments_cases entries
  · rw [same] at failed
    have taken : field entries "args" [] texts = .ok [] := by rw [field, absent]
    exact failing_of_ofEntries (fun setting here _ => shown setting here) taken failed
  · rw [stopped] at failed
    cases failed
    obtain ⟨rfl, beyond⟩ := (arguments_eq_error_iff value _).mp refused
    have chosen : choice .args = some value := (shown .args rfl).symm.trans found
    exact .inl ⟨rfl, chosen ▸ beyond⟩
  · rw [made] at failed
    have taken : field (setEntry "args" (.list (args.map Value.string)) entries) "args" [] texts = .ok args := by
      rw [field_eq_ok_iff, lookup_setEntry]
      exact texts_strings args
    refine failing_of_ofEntries (fun setting here other => ?_) taken failed
    rw [lookup_setEntry, if_neg, shown setting here]
    cases setting <;> simp_all [Setting.key]

theorem engineOf_of_unwritable {entries : List (String × Value)} (beyond : Unwritable (entries.lookup "args")) :
    engineOf entries = .error .tooLongToWrite := by
  obtain ⟨items, found, _⟩ := id beyond
  have refused := (arguments_eq_error_iff (.list items) .tooLongToWrite).mpr ⟨rfl, found ▸ beyond⟩
  rw [engineOf, withArguments, found]
  dsimp only
  rw [refused]
  rfl

theorem ofEntries_congr {one other : List (String × Value)}
    (same : ∀ setting : Setting, setting.group = "engine" → one.lookup setting.key = other.lookup setting.key) :
    EngineSettings.ofEntries one = EngineSettings.ofEntries other := by
  have command : one.lookup "command" = other.lookup "command" := same .command rfl
  have args : one.lookup "args" = other.lookup "args" := same .args rfl
  have timeout : one.lookup "timeout_ms" = other.lookup "timeout_ms" := same .timeout rfl
  have interval : one.lookup "poll_interval_ms" = other.lookup "poll_interval_ms" := same .pollInterval rfl
  have tester : one.lookup "tester" = other.lookup "tester" := same .tester rfl
  simp only [EngineSettings.ofEntries, field, command, args, timeout, interval, tester]

theorem engineOf_congr {one other : List (String × Value)}
    (same : ∀ setting : Setting, setting.group = "engine" → one.lookup setting.key = other.lookup setting.key) :
    engineOf one = engineOf other := by
  have args : one.lookup "args" = other.lookup "args" := same .args rfl
  unfold engineOf withArguments
  rw [args]
  cases other.lookup "args" with
  | none => exact congrArg checked (ofEntries_congr same)
  | some value =>
      dsimp only
      cases arguments value with
      | error failure => rfl
      | ok args =>
          refine congrArg checked (ofEntries_congr fun setting here => ?_)
          rw [lookup_setEntry, lookup_setEntry, same setting here]

structure Settles (choice : Setting → Option Value) (settings : Settings) : Prop where
  command : Taken text "logtalk" (choice .command) settings.engine.command
  args : Taken arguments [] (choice .args) settings.engine.args
  timeout : Taken duration standardTimeout (choice .timeout) settings.engine.timeout
  pollInterval : Taken duration standardInterval (choice .pollInterval) settings.engine.pollInterval
  tester : Taken text "tester.lgt" (choice .tester) settings.engine.tester
  level : Taken text "warning" (choice .level) settings.level
  lensesEnabled : settings.lensesEnabled = ((choice .lensesEnabled).map truth).getD true

theorem Settles.no_empty_argument {choice : Setting → Option Value} {settings : Settings}
    (settled : Settles choice settings) : "" ∉ settings.engine.args := by
  have taken := settled.args
  cases found : choice .args with
  | none =>
      rw [found] at taken
      exact taken ▸ List.not_mem_nil
  | some value =>
      rw [found] at taken
      exact nonempty_of_arguments taken

section Sections
variable {sections : String → List (String × Value)} {choice : Setting → Option Value}
  (shown : ∀ setting : Setting, (sections setting.group).lookup setting.key = choice setting)
include shown

theorem ofSections_eq_ok_iff (settings : Settings) : ofSections sections = .ok settings ↔ Settles choice settings := by
  have command : (sections "engine").lookup "command" = choice .command := shown .command
  have args : (sections "engine").lookup "args" = choice .args := shown .args
  have timeout : (sections "engine").lookup "timeout_ms" = choice .timeout := shown .timeout
  have interval : (sections "engine").lookup "poll_interval_ms" = choice .pollInterval := shown .pollInterval
  have tester : (sections "engine").lookup "tester" = choice .tester := shown .tester
  have level : (sections "logging").lookup "level" = choice .level := shown .level
  have lenses : (sections "code_lens").lookup "enabled" = choice .lensesEnabled := shown .lensesEnabled
  have enabled : truth (((sections "code_lens").lookup "enabled").getD (.bool true)) =
      ((choice .lensesEnabled).map truth).getD true := by
    rw [lenses]
    cases choice .lensesEnabled <;> rfl
  constructor
  · intro ended
    obtain ⟨engine, engineMade, ended⟩ := ok_of_bind ended
    obtain ⟨found, levelMade, ended⟩ := ok_of_bind ended
    cases ended
    rw [engineOf_eq_ok_iff, command, args, timeout, interval, tester] at engineMade
    rw [checked_eq_ok_iff, levelOfEntries, plainField_eq_ok_iff, level] at levelMade
    obtain ⟨commandTaken, argsTaken, timeoutTaken, intervalTaken, testerTaken⟩ := engineMade
    exact ⟨commandTaken, argsTaken, timeoutTaken, intervalTaken, testerTaken, levelMade, enabled⟩
  · intro settled
    have engineMade : engineOf (sections "engine") = .ok settings.engine := by
      rw [engineOf_eq_ok_iff, command, args, timeout, interval, tester]
      exact ⟨settled.command, settled.args, settled.timeout, settled.pollInterval, settled.tester⟩
    have levelMade : checked (levelOfEntries (sections "logging")) = .ok settings.level := by
      rw [checked_eq_ok_iff, levelOfEntries, plainField_eq_ok_iff, level]
      exact settled.level
    rw [ofSections, engineMade, levelMade, enabled, ← settled.lensesEnabled]
    rfl

theorem failing_of_ofSections {failure : Failure} (failed : ofSections sections = .error failure) :
    Failing choice failure := by
  unfold ofSections at failed
  cases engineMade : engineOf (sections "engine") with
  | error other =>
      rw [engineMade] at failed
      cases failed
      exact failing_of_engineOf (fun setting here => here ▸ shown setting) engineMade
  | ok engine =>
      cases levelMade : checked (levelOfEntries (sections "logging")) with
      | ok level =>
          rw [engineMade, levelMade] at failed
          cases failed
      | error other =>
          rw [engineMade, levelMade] at failed
          cases failed
          obtain ⟨wrong, rfl⟩ := checked_eq_error levelMade
          refine .inr ⟨_, rfl, fun clean => ?_, fun error among => ?_⟩
          · obtain ⟨level, read⟩ := ok_of_no_faults _ _ _ clean
            cases wrong.symm.trans read
          · exact blames_of_fault (shown .level) (fun _ _ => id) among

theorem ofSections_of_unwritable (beyond : Unwritable (choice .args)) : ofSections sections = .error .tooLongToWrite := by
  rw [ofSections, engineOf_of_unwritable ((shown .args).symm ▸ beyond)]
  rfl

end Sections

/-- Sections with the same settings describe the same, whatever else they have. -/
theorem ofSections_congr {one other : String → List (String × Value)}
    (same : ∀ setting : Setting,
      (one setting.group).lookup setting.key = (other setting.group).lookup setting.key) :
    ofSections one = ofSections other := by
  have engine : engineOf (one "engine") = engineOf (other "engine") :=
    engineOf_congr fun setting here => here ▸ same setting
  have level : (one "logging").lookup "level" = (other "logging").lookup "level" := same .level
  have lenses : (one "code_lens").lookup "enabled" = (other "code_lens").lookup "enabled" := same .lensesEnabled
  simp only [ofSections, engine, levelOfEntries, field, level, lenses]

/-- How the reading of settings ends, by the values that are chosen for them. -/
structure Follows (choice : Setting → Option Value) (outcome : Except Failure Settings) : Prop where
  settled : ∀ settings, outcome = .ok settings ↔ Settles choice settings
  usable : ∀ settings, outcome = .ok settings →
    "" ∉ settings.engine.args ∧ 0 < settings.engine.timeout.1 ∧ 0 < settings.engine.pollInterval.1
  failing : ∀ failure, outcome = .error failure → Failing choice failure
  unwritable : Unwritable (choice .args) → outcome = .error .tooLongToWrite

/-- Settings are what the client gives, else what the file gives, else standard. A value that is refused is reported as
such, and arguments that cannot be written are a failure of their own. Nothing but the values that are chosen for the
settings counts. -/
theorem settings_by_precedence {root file : Option Path} {world : World} {entries : List (String × Value)} {client : Value}
    (read : (configuration root file).outcome world = .ok entries) (keyed : client.Keyed) :
    Follows (Setting.chosen? entries client) ((load root file client).outcome world) ∧
    ∀ (elsewhere another : Option Path) (later : World) (others : List (String × Value)) (sent : Value),
      (configuration elsewhere another).outcome later = .ok others → sent.Keyed →
      (∀ setting, Setting.chosen? others sent setting = Setting.chosen? entries client setting) →
      (load elsewhere another sent).outcome later = (load root file client).outcome world := by
  have shown := lookup_merged keyed entries
  rw [outcome_load read]
  have settled := ofSections_eq_ok_iff shown
  refine ⟨⟨settled, ?_, fun _ => failing_of_ofSections shown, ofSections_of_unwritable shown⟩, ?_⟩
  · intro settings ended
    exact ⟨((settled settings).mp ended).no_empty_argument, settings.engine.timeout.2, settings.engine.pollInterval.2⟩
  · intro elsewhere another later others sent readThere keyedThere same
    rw [outcome_load readThere]
    refine ofSections_congr fun setting => ?_
    rw [lookup_merged keyedThere, lookup_merged keyed, same setting]

namespace Layered

def root : Path := ⟨.root, [⟨['c', 'f', 'g'], by decide⟩]⟩

def content : List UInt8 :=
  "[engine]\ncommand='swilgt'\nargs=' -x  -y '\ntimeout_ms=0".toList.map fun c => c.toNat.toUInt8

def world : World where
  disk := ⟨[(root.names, .directory), ((root / Path.ofString fileName).names, .file content)], [], {}⟩
  log := ⟨.off, []⟩

def entries : List (String × Value) :=
  match (configuration (some root) none).outcome world with
  | .ok entries => entries
  | .error _ => []

theorem read : (configuration (some root) none).outcome world = .ok entries := by
  have fine : ((configuration (some root) none).outcome world).isOk = true := by decide +kernel
  unfold entries
  cases ended : (configuration (some root) none).outcome world with
  | ok found => rfl
  | error failure =>
      rw [ended] at fine
      cases fine

def client : Value :=
  .table [("engine", .table [("command", .string "lost")]),
    (clientName, .table [("engine", .table [("command", .null), ("timeout_ms", .string "500"), ("poll", .int 1)]),
      ("logging", .int 3), ("code_lens", .table [("enabled", .string " Off ")])])]

theorem keyed : client.Keyed := by
  simp only [client, Value.keyed_table_iff, List.forall_mem_cons, List.not_mem_nil, false_implies, implies_true,
    and_true]
  exact ⟨by decide, ⟨by decide, .plain rfl⟩, by decide, ⟨by decide, .plain rfl, .plain rfl, .plain rfl⟩, .plain rfl,
    by decide, .plain rfl⟩

def settings : Settings where
  engine := { command := "swilgt", args := ["-x", "-y"], timeout := ⟨500, by decide⟩ }
  lensesEnabled := false

theorem settled : Settles (Setting.chosen? entries client) settings where
  command := by decide +kernel
  args := by decide +kernel
  timeout := by decide +kernel
  pollInterval := by decide +kernel
  tester := by decide +kernel
  level := by decide +kernel
  lensesEnabled := by decide +kernel

end Layered

/-- A null leaves the command of the file, and a valid time-out covers one that would be refused. -/
theorem layered_settings_loaded :
    (load (some Layered.root) none Layered.client).outcome Layered.world = .ok Layered.settings :=
  ((settings_by_precedence Layered.read Layered.keyed).1.settled Layered.settings).mpr Layered.settled

namespace Overlong

def client : Value := .table [("engine", .table [("args", .list [.int (Double.tenTo maxDigits)])])]

theorem keyed : client.Keyed := by
  simp only [client, Value.keyed_table_iff, List.forall_mem_cons, List.not_mem_nil, false_implies, implies_true,
    and_true]
  exact ⟨by decide, by decide, .plain rfl⟩

theorem beyond : Unwritable (Setting.chosen? Layered.entries client .args) :=
  ⟨[.int (Double.tenTo maxDigits)], rfl, by decide +kernel⟩

end Overlong

/-- An argument with one digit too many is not reported as a value that is refused. -/
theorem overlong_argument_unreported :
    (load (some Layered.root) none Overlong.client).outcome Layered.world = .error .tooLongToWrite := by
  rw [outcome_load Layered.read]
  exact ofSections_of_unwritable (lookup_merged Overlong.keyed Layered.entries) Overlong.beyond

end Settings

end LogtalkNavigation
