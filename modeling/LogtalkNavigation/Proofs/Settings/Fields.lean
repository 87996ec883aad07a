import LogtalkNavigation.Proofs.Results
import LogtalkNavigation.Settings.Load

/-! Reading the fields of a section. A field has its standard if it is missing, and each error says which field has a
value that is refused. Arguments may have any form, and are never refused but for a number that is too long to be
written. -/

namespace LogtalkNavigation

namespace Settings

def Taken {ε α : Type} (read : Value → Except ε α) (standard : α) (choice : Option Value) (result : α) : Prop :=
  match choice with
  | none => result = standard
  | some value => read value = .ok result

instance {ε α : Type} [DecidableEq ε] [DecidableEq α] (read : Value → Except ε α) (standard : α) (choice : Option Value)
    (result : α) : Decidable (Taken read standard choice result) :=
  match choice with
  | none => inferInstanceAs (Decidable (result = standard))
  | some value => inferInstanceAs (Decidable (read value = .ok result))

section Fields
variable {α : Type} (entries : List (String × Value)) (name : String) (standard : α)

theorem field_eq_ok_iff (read : Value → Checked α) (result : α) :
    field entries name standard read = .ok result ↔ Taken read standard (entries.lookup name) result := by
  unfold field Taken
  cases entries.lookup name with
  | none => simp [eq_comm]
  | some value =>
      dsimp only
      cases read value <;> simp

theorem leaf_eq_ok_iff (value : Except FieldFault α) (result : α) : leaf value = .ok result ↔ value = .ok result := by
  cases value <;> simp [leaf]

theorem plainField_eq_ok_iff (read : Value → Except FieldFault α) (result : α) :
    field entries name standard (leaf ∘ read) = .ok result ↔ Taken read standard (entries.lookup name) result := by
  rw [field_eq_ok_iff]
  unfold Taken
  cases entries.lookup name with
  | none => rfl
  | some value => exact leaf_eq_ok_iff (read value) result

/-- What is wrong with a field is that its value cannot be read. -/
theorem mem_faults_field (read : Value → Except FieldFault α) (error : FieldError) :
    error ∈ faults (field entries name standard (leaf ∘ read)) ↔
      ∃ value fault, entries.lookup name = some value ∧ read value = .error fault ∧
        error = ⟨[.field name], fault⟩ := by
  unfold field
  cases entries.lookup name with
  | none => simp [faults]
  | some value => cases read : read value <;> simp [faults, leaf, read]

theorem ok_of_no_faults {read : Value → Except FieldFault α}
    (clean : faults (field entries name standard (leaf ∘ read)) = []) :
    ∃ result, field entries name standard (leaf ∘ read) = .ok result := by
  unfold field at clean ⊢
  cases found : entries.lookup name with
  | none => exact ⟨standard, rfl⟩
  | some value =>
      cases reading : read value with
      | ok result => exact ⟨result, by simp [leaf, reading]⟩
      | error fault => simp [found, leaf, reading, faults] at clean

end Fields

theorem textsFrom_strings (index : Nat) (args : List String) :
    textsFrom index (args.map Value.string) = .ok args := by
  induction args generalizing index with
  | nil => rfl
  | cons arg rest ih =>
      rw [List.map_cons, textsFrom, ih]
      rfl

/-- Arguments as a list of texts are read as they are. -/
theorem texts_strings (args : List String) : texts (.list (args.map Value.string)) = .ok args :=
  textsFrom_strings 0 args

theorem checked_eq_ok_iff {α : Type} (reading : Checked α) (result : α) :
    checked reading = .ok result ↔ reading = .ok result := by
  cases reading <;> simp [checked]

theorem checked_eq_error {α : Type} {reading : Checked α} {failure : Failure} (failed : checked reading = .error failure) :
    reading = .error (faults reading) ∧ failure = .invalidSettings (faults reading) := by
  cases reading with
  | ok value => cases failed
  | error errors => exact ⟨rfl, (Except.error.inj failed).symm⟩

end Settings

namespace EngineSettings

open Settings

theorem ofEntries_eq_ok_iff (entries : List (String × Value)) (engine : EngineSettings) :
    ofEntries entries = .ok engine ↔
      Taken text "logtalk" (entries.lookup "command") engine.command ∧
      Taken texts [] (entries.lookup "args") engine.args ∧
      Taken duration standardTimeout (entries.lookup "timeout_ms") engine.timeout ∧
      Taken duration standardInterval (entries.lookup "poll_interval_ms") engine.pollInterval ∧
      Taken text "tester.lgt" (entries.lookup "tester") engine.tester := by
  simp only [← plainField_eq_ok_iff, ← field_eq_ok_iff]
  unfold ofEntries
  dsimp only
  obtain ⟨command, args, timeout, pollInterval, tester⟩ := engine
  cases field entries "command" "logtalk" (leaf ∘ text) with
  | error errors => simp
  | ok found =>
  cases field entries "args" [] texts with
  | error errors => simp
  | ok found =>
  cases field entries "timeout_ms" standardTimeout (leaf ∘ duration) with
  | error errors => simp
  | ok found =>
  cases field entries "poll_interval_ms" standardInterval (leaf ∘ duration) with
  | error errors => simp
  | ok found => cases field entries "tester" "tester.lgt" (leaf ∘ text) <;> simp

theorem faults_ofEntries (entries : List (String × Value)) :
    faults (ofEntries entries) =
      faults (field entries "command" "logtalk" (leaf ∘ text)) ++ faults (field entries "args" [] texts) ++
        faults (field entries "timeout_ms" standardTimeout (leaf ∘ duration)) ++
        faults (field entries "poll_interval_ms" standardInterval (leaf ∘ duration)) ++
        faults (field entries "tester" "tester.lgt" (leaf ∘ text)) := by
  unfold ofEntries
  dsimp only
  split
  case h_1 commandRead argsRead timeoutRead intervalRead testerRead =>
    rw [commandRead, argsRead, timeoutRead, intervalRead, testerRead]
    rfl
  case h_2 => rfl

end EngineSettings

namespace Settings

def Unwritable (choice : Option Value) : Prop :=
  ∃ items, choice = some (.list items) ∧ Value.areWithin maxWritten items = false

theorem words_nonempty (text : Text) : [] ∉ Text.words text := by
  fun_induction Text.words text with
  | case1 => simp
  | case2 c blank => simp
  | case3 c solid => simp
  | case4 c next text blank ih => exact ih
  | case5 c next text solid blank ih => simpa using ih
  | case6 c next text solid joined ih =>
      cases found : Text.words (next :: text) with
      | nil => simp [Text.consFirst]
      | cons first rest =>
          rw [found] at ih
          simpa [Text.consFirst] using fun inside => ih (List.mem_cons_of_mem _ inside)

theorem arguments_list (items : List Value) :
    (Value.areWithin maxWritten items = false ∧ arguments (.list items) = .error .tooLongToWrite) ∨
    (Value.areWithin maxWritten items = true ∧ ∃ args, arguments (.list items) = .ok args ∧ "" ∉ args) := by
  cases within : Value.areWithin maxWritten items with
  | false =>
      refine .inl ⟨rfl, ?_⟩
      simp only [arguments, within]
      rfl
  | true =>
      refine .inr ⟨rfl, ?_⟩
      simp only [arguments, within]
      exact ⟨_, rfl, by simp⟩

theorem nonempty_of_arguments {value : Value} {args : List String} (read : arguments value = .ok args) : "" ∉ args := by
  cases value with
  | string text =>
      cases read
      intro inside
      obtain ⟨word, among, same⟩ := List.mem_map.mp inside
      have empty : word = [] := String.ofList_eq_empty_iff.mp same
      exact words_nonempty text.toList (empty ▸ among)
  | list items =>
      obtain ⟨_, refused⟩ | ⟨_, others, found, nonempty⟩ := arguments_list items
      · cases refused.symm.trans read
      · cases found.symm.trans read
        exact nonempty
  | _ =>
      cases read
      exact List.not_mem_nil

/-- Arguments are refused only for a number that is too long to be written. -/
theorem arguments_eq_error_iff (value : Value) (failure : Failure) :
    arguments value = .error failure ↔ failure = .tooLongToWrite ∧ Unwritable (some value) := by
  unfold Unwritable
  cases value with
  | list items =>
      obtain ⟨beyond, refused⟩ | ⟨within, args, found, _⟩ := arguments_list items
      · rw [refused]
        constructor
        · rintro ⟨⟩
          exact ⟨rfl, items, rfl, beyond⟩
        · rintro ⟨rfl, _⟩
          rfl
      · rw [found]
        constructor
        · rintro ⟨⟩
        · rintro ⟨_, _, ⟨⟩, beyond⟩
          cases within.symm.trans beyond
  | _ => simp [arguments, pure, Except.pure]

/-- The section of the engine with its arguments as texts. -/
theorem withArguments_cases (entries : List (String × Value)) :
    (entries.lookup "args" = none ∧ withArguments entries = .ok entries) ∨
    (∃ value failure, entries.lookup "args" = some value ∧ arguments value = .error failure ∧
      withArguments entries = .error failure) ∨
    ∃ value args, entries.lookup "args" = some value ∧ arguments value = .ok args ∧
      withArguments entries = .ok (setEntry "args" (.list (args.map Value.string)) entries) := by
  unfold withArguments
  cases entries.lookup "args" with
  | none => exact .inl ⟨rfl, rfl⟩
  | some value =>
      cases read : arguments value with
      | error failure => exact .inr (.inl ⟨value, failure, rfl, read, by simp [read, bind, Except.bind]⟩)
      | ok args => exact .inr (.inr ⟨value, args, rfl, read, by simp [read, bind, Except.bind, pure, Except.pure]⟩)

end Settings

end LogtalkNavigation
