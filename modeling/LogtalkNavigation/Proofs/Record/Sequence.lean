import LogtalkNavigation.Proofs.Reading
import LogtalkNavigation.Record.Artifact

/-! The records of an artifact as a sequence. A line gives a record or nothing, unless it has a number
with too many digits: that ends the reading, and then there is no sequence. -/

namespace LogtalkNavigation.Record

open Act

section Failing
variable {α β : Type} {kind : Artifact.Kind} {line : Text}

-- The value fails only as a line does: it is no record of its kind, or has too many digits.
def FailsAsLine (kind : Artifact.Kind) (line : Text) (value : Except Failure α) : Prop :=
  ∀ failure, value = .error failure → failure = malformed kind line ∨ ∃ count, failure = .tooManyDigits count

theorem failsAsLine_ok (value : α) : FailsAsLine kind line (.ok value) := fun _ failed => nomatch failed

theorem failsAsLine_malformed : FailsAsLine kind line (.error (malformed kind line) : Except Failure α) := by
  intro failure failed
  cases failed
  exact .inl rfl

theorem failsAsLine_bind {value : Except Failure α} {next : α → Except Failure β}
    (first : FailsAsLine kind line value) (rest : ∀ found, FailsAsLine kind line (next found)) :
    FailsAsLine kind line (value >>= next) := by
  intro failure failed
  cases value with
  | error other =>
      cases failed
      exact first failure rfl
  | ok found => exact rest found failure failed

theorem failsAsLine_number (digits : Text) : FailsAsLine kind line (number digits) := by
  intro failure failed
  unfold number at failed
  split at failed
  case isTrue =>
    cases failed
    exact .inr ⟨_, rfl⟩
  case isFalse => cases failed

theorem failsAsLine_positive (digits : Text) : FailsAsLine kind line (positiveLine kind line digits) := by
  refine failsAsLine_bind (failsAsLine_number digits) fun row => ?_
  split
  · exact failsAsLine_malformed
  · exact failsAsLine_ok row

theorem failsAsLine_ofLine (kind : Artifact.Kind) (line : Text) : FailsAsLine kind line (ofLine kind line) := by
  have counted {α : Type} (digits : Text) (make : Int → α) :
      FailsAsLine kind line (do return make (← positiveLine kind line digits)) :=
    failsAsLine_bind (failsAsLine_positive digits) fun row => failsAsLine_ok _
  unfold ofLine
  split
  case h_1 | h_2 =>
    unfold callOfLine
    split
    · exact counted _ _
    · exact failsAsLine_malformed
  case h_3 | h_4 =>
    unfold entityOfLine
    split
    · exact counted _ _
    · exact failsAsLine_malformed
  case h_5 | h_6 =>
    unfold locationOfLine
    split
    · exact counted _ _
    · exact failsAsLine_malformed
  case h_7 =>
    unfold testOfLine
    split
    · exact counted _ _
    · split
      · exact counted _ _
      · split
        · exact counted _ _
        · exact failsAsLine_malformed
  case h_8 =>
    unfold metricOfLine
    split
    · exact failsAsLine_bind (failsAsLine_positive _) fun row =>
        failsAsLine_bind (failsAsLine_number _) fun score => failsAsLine_ok _
    · exact failsAsLine_malformed

end Failing

def said (kind : Artifact.Kind) (line : Text) : Except Failure (Option Record) :=
  if Text.allBlank line then .ok none
  else match ofLine kind line with
    | .ok record => .ok (some record)
    | .error (.malformedRecord _ _) => .ok none
    | .error failure => .error failure

theorem looks_ofLine? (kind : Artifact.Kind) (line : Text) :
    Looks (ofLine? kind line) fun _ => said kind line := by
  unfold ofLine? said
  split
  case isTrue => exact looks_pure none
  case isFalse =>
    cases ofLine kind line with
    | ok record => exact looks_pure (some record)
    | error failure =>
        cases failure with
        | malformedRecord word text => exact looks_bind (looks_note _ _) fun _ => looks_pure none
        | _ => exact looks_throw _

theorem ofLine_of_said (kind : Artifact.Kind) (line : Text) (record : Record)
    (read : said kind line = .ok (some record)) : ofLine kind line = .ok record := by
  unfold said at read
  split at read
  case isTrue => cases read
  case isFalse =>
    split at read
    case h_1 found => cases read; exact found
    case h_2 => cases read
    case h_3 => cases read

theorem overlong_of_said (kind : Artifact.Kind) (line : Text) (failure : Failure)
    (failed : said kind line = .error failure) : ∃ count, failure = .tooManyDigits count := by
  unfold said at failed
  split at failed
  case isTrue => cases failed
  case isFalse =>
    split at failed
    case h_1 => cases failed
    case h_2 => cases failed
    case h_3 other regular read =>
      cases failed
      rcases failsAsLine_ofLine kind line failure read with malformed | overlong
      · exact absurd malformed (regular _ _)
      · exact overlong

section Gathering
variable {α : Type}

def gathered (kind : Artifact.Kind) (each : Record → Except Failure (List α)) :
    List Text → Except Failure (List α)
  | [] => .ok []
  | line :: rest => do
    match ← said kind line with
    | some record =>
      let made ← each record
      return made ++ (← gathered kind each rest)
    | none => gathered kind each rest

theorem looks_collect (kind : Artifact.Kind) (each : Record → Act (List α))
    (answer : Record → Disk → Except Failure (List α)) (looks : ∀ record, Looks (each record) (answer record))
    (lines : List Text) :
    Looks (collect kind each lines) fun disk => gathered kind (answer · disk) lines := by
  induction lines with
  | nil => exact looks_pure []
  | cons line rest ih =>
      refine looks_bind (looks_ofLine? kind line) fun found => ?_
      cases found with
      | none => exact ih
      | some record =>
          exact looks_bind (looks record) fun made => looks_bind ih fun others => looks_pure _

end Gathering

def stop? (kind : Artifact.Kind) : List Text → Option Failure
  | [] => none
  | line :: rest =>
    match said kind line with
    | .error failure => some failure
    | .ok _ => stop? kind rest

def recorded (kind : Artifact.Kind) (lines : List Text) : List Record :=
  lines.filterMap fun line => (said kind line).toOption.join

theorem stop?_eq_none_iff (kind : Artifact.Kind) (lines : List Text) :
    stop? kind lines = none ↔ ∀ line ∈ lines, ∀ failure, said kind line ≠ .error failure := by
  induction lines with
  | nil => simp [stop?]
  | cons line rest ih =>
      rw [stop?, List.forall_mem_cons, ← ih]
      cases said kind line <;> simp

theorem gathered_single (kind : Artifact.Kind) (lines : List Text) :
    gathered kind (fun record => .ok [record]) lines =
      match stop? kind lines with
      | some failure => .error failure
      | none => .ok (recorded kind lines) := by
  induction lines with
  | nil => rfl
  | cons line rest ih =>
      rw [gathered, stop?, recorded, List.filterMap_cons, ← recorded, ih]
      cases said kind line with
      | error failure => rfl
      | ok found =>
          cases stopped : stop? kind rest with
          | none => cases found <;> simp [bind, Except.bind, Except.toOption, pure, Except.pure]
          | some failure => cases found <;> rfl

theorem looks_ofText (kind : Artifact.Kind) (text : Text) :
    Looks (ofText kind text) fun _ =>
      match stop? kind (Text.lines text) with
      | some failure => .error failure
      | none => .ok (recorded kind (Text.lines text)) := by
  have looks := looks_collect kind (fun record => return [record]) (fun record _ => .ok [record])
    (fun record => looks_pure [record]) (Text.lines text)
  intro world
  obtain ⟨log, ran⟩ := looks world
  refine ⟨log, ran.trans ?_⟩
  rw [gathered_single]

theorem overlong_of_stop (kind : Artifact.Kind) (lines : List Text) (failure : Failure)
    (stopped : stop? kind lines = some failure) : ∃ count, failure = .tooManyDigits count := by
  induction lines with
  | nil => cases stopped
  | cons line rest ih =>
      unfold stop? at stopped
      split at stopped
      case h_1 found failed =>
        cases stopped
        exact overlong_of_said kind line failure failed
      case h_2 => exact ih stopped

theorem mem_recorded (kind : Artifact.Kind) (lines : List Text) (record : Record) :
    record ∈ recorded kind lines ↔ ∃ line ∈ lines, said kind line = .ok (some record) := by
  rw [recorded, List.mem_filterMap]
  refine exists_congr fun line => and_congr_right fun _ => ?_
  cases said kind line with
  | error failure => simp [Except.toOption]
  | ok found => simp [Except.toOption]

section Shown
variable {disk : Disk}

theorem shows_ofText (kind : Artifact.Kind) (text : Text) :
    Shows disk (ofText kind text) (stop? kind (Text.lines text) ≠ none)
      (· = recorded kind (Text.lines text)) := by
  have sorts : Sorts (match stop? kind (Text.lines text) with
      | some failure => .error failure
      | none => .ok (recorded kind (Text.lines text))) (stop? kind (Text.lines text) ≠ none) := by
    cases stopped : stop? kind (Text.lines text) with
    | none => exact .inr ⟨fun some => some rfl, _, rfl⟩
    | some failure =>
        obtain ⟨count, overlong⟩ := overlong_of_stop kind _ failure stopped
        exact .inl ⟨Option.some_ne_none failure, failure, by rw [overlong]; rfl, rfl⟩
  refine (shows_of_looks (looks_ofText kind text) sorts).weaken fun records found => ?_
  cases stopped : stop? kind (Text.lines text) with
  | none =>
      rw [stopped] at found
      cases found
      rfl
  | some failure =>
      rw [stopped] at found
      cases found

theorem shows_ofLine? (kind : Artifact.Kind) (line : Text) :
    Shows disk (ofLine? kind line) (∃ failure, said kind line = .error failure)
      fun found => said kind line = .ok found := by
  refine shows_of_looks (looks_ofLine? kind line) ?_
  cases read : said kind line with
  | ok found => exact .inr ⟨(fun ⟨_, failed⟩ => nomatch failed), found, rfl⟩
  | error failure =>
      obtain ⟨count, overlong⟩ := overlong_of_said kind line failure read
      exact .inl ⟨⟨failure, rfl⟩, failure, by rw [overlong]; rfl, rfl⟩

def Faulty (kind : Artifact.Kind) (bad : Record → Prop) (lines : List Text) : Prop :=
  ∃ line ∈ lines, (∃ failure, said kind line = .error failure) ∨
    ∃ record, said kind line = .ok (some record) ∧ bad record

theorem shows_collect {α : Type} (kind : Artifact.Kind) (each : Record → Act (List α))
    (bad : Record → Prop) (every : ∀ record, Shows disk (each record) (bad record) fun _ => True)
    (lines : List Text) : Shows disk (collect kind each lines) (Faulty kind bad lines) fun _ => True := by
  induction lines with
  | nil => exact (shows_pure [] _ trivial).congr (by simp [Faulty])
  | cons line rest ih =>
      have either : ((∃ failure, said kind line = .error failure) ∨
          ((∃ record, said kind line = .ok (some record) ∧ bad record) ∨ Faulty kind bad rest)) ↔
            Faulty kind bad (line :: rest) := by
        simp only [Faulty, List.mem_cons, exists_eq_or_imp, or_assoc]
      refine Shows.congr (shows_bind (shows_ofLine? kind line) fun found read => ?_) either
      rw [read]
      cases found with
      | none => exact ih.congr (by simp)
      | some record =>
          refine Shows.congr (shows_bind (every record) fun made _ => shows_bind ih fun others _ =>
            shows_pure _ _ trivial) ?_
          simp

def foremost? (kind : Artifact.Kind) : List Text → Option (Except Failure Record)
  | [] => none
  | line :: rest =>
    match said kind line with
    | .error failure => some (.error failure)
    | .ok (some record) => some (.ok record)
    | .ok none => foremost? kind rest

theorem shows_first? (kind : Artifact.Kind) (lines : List Text) :
    Shows disk (first? kind lines) (∃ failure, foremost? kind lines = some (.error failure))
      fun found => foremost? kind lines = found.map .ok := by
  induction lines with
  | nil =>
      refine Shows.congr (shows_pure none _ rfl) ?_
      simp [foremost?]
  | cons line rest ih =>
      have either : ((∃ failure, said kind line = .error failure) ∨
          (said kind line = .ok none ∧ ∃ failure, foremost? kind rest = some (.error failure))) ↔
            ∃ failure, foremost? kind (line :: rest) = some (.error failure) := by
        rw [foremost?]
        cases said kind line with
        | error failure => simp
        | ok found => cases found <;> simp
      refine Shows.congr (shows_bind (shows_ofLine? kind line) fun found read => ?_) either
      rw [foremost?, read]
      cases found with
      | none => exact ih.congr (by simp)
      | some record =>
          refine Shows.congr (shows_pure (some record) _ rfl) ?_
          simp

end Shown

end LogtalkNavigation.Record
