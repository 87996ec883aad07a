import LogtalkNavigation.Artifact.Prune
import LogtalkNavigation.Proofs.Artifact.Taking
import LogtalkNavigation.Proofs.Record.Files
import LogtalkNavigation.Proofs.Record.Readers
import LogtalkNavigation.Proofs.Record.Sequence
import LogtalkNavigation.Proofs.Text.Stored

/-! Pruning against reading. Pruning drops the lines that are about a file by their text up to the first
semicolon; reading takes the longest name that a line can have. Both see the same file in a line whose
tag has plain letters and whose name has no semicolon. Elsewhere they may differ, and the main theorem
says exactly when a record of the pruned file is left and when another file loses one. -/

namespace LogtalkNavigation.Artifact

open Act Record

def recordsFor (artifact : Path) (file : Text) : Act (List Record) := do
  match (← Act.disk).read artifact with
  | .ok content => return about file (← ofText .metrics (Source.textOf content))
  | .error (.os error) => if error.code = .notFound then return [] else throw (.os error)
  | .error failure => throw failure

def linesOf (content : List UInt8) : List Text := Text.lines (Source.textOf content)

def held (file : Text) (lines : List Text) : Except Failure (List Record) :=
  match stop? .metrics lines with
  | some failure => .error failure
  | none => .ok (about file (recorded .metrics lines))

theorem recordsFor_of_content (artifact : Path) (file : Text) (world : World) (content : List UInt8)
    (there : world.disk.read artifact = .ok content) :
    (recordsFor artifact file).outcome world = held file (linesOf content) := by
  have looks := looks_bind (looks_ofText .metrics (Source.textOf content))
    fun records => looks_pure (about file records)
  have found := outcome_of_looks looks world
  rw [outcome, recordsFor, disk_bind, there]
  refine found.trans ?_
  rw [held, linesOf]
  cases stop? .metrics (Text.lines (Source.textOf content)) <;> rfl

theorem recordsFor_of_missing (artifact : Path) (file : Text) (world : World) (error : OsError)
    (gone : world.disk.read artifact = .error (.os error)) (code : error.code = .notFound) :
    (recordsFor artifact file).outcome world = .ok [] := by
  rw [outcome, recordsFor, disk_bind, gone]
  simp only [code, ↓reduceIte]
  rfl

def keptLines (document : Text) (lines : List Text) : List Text :=
  lines.filter fun line => !isAbout document line

theorem mem_keptLines (document line : Text) (lines : List Text) :
    line ∈ keptLines document lines ↔ line ∈ lines ∧ isAbout document line ≠ true := by
  rw [keptLines, List.mem_filter, Bool.not_eq_true', Ne, Bool.not_eq_true]

theorem keptLines_eq_self_iff (document : Text) (lines : List Text) :
    keptLines document lines = lines ↔ lines.any (isAbout document) = false := by
  rw [keptLines, List.filter_eq_self, List.any_eq_false]
  simp only [Bool.not_eq_true', Bool.not_eq_true]

def stored (lines : List Text) : Option (List UInt8) :=
  if lines.all Text.allBlank then none
  else some (Utf8.encode (Text.join ['\n'] lines ++ ['\n']))

theorem stored_eq_none_iff (lines : List Text) : stored lines = none ↔ lines.all Text.allBlank = true := by
  unfold stored
  split <;> simp_all

theorem linesOf_stored {lines : List Text} {content : List UInt8}
    (unbroken : ∀ line ∈ lines, Text.Unbroken line) (kept : stored lines = some content) :
    linesOf content = lines := by
  unfold stored at kept
  split at kept
  case isTrue => cases kept
  case isFalse filled =>
    cases kept
    have some : lines ≠ [] := by
      rintro rfl
      exact filled rfl
    rw [linesOf, Source.textOf, Text.lines_unifyBreaks, Utf8.decode_encode]
    exact Text.lines_joined lines some unbroken

theorem unbroken_kept (document : Text) (content : List UInt8) :
    ∀ line ∈ keptLines document (linesOf content), Text.Unbroken line :=
  fun line inside => Text.unbroken_of_mem_lines _ line ((mem_keptLines _ _ _).mp inside).1

def pruned (document : Text) : Option (List UInt8) → Option (List UInt8)
  | none => none
  | some content =>
    if keptLines document (linesOf content) = linesOf content then some content
    else stored (keptLines document (linesOf content))

def mentions (document : Text) : Option (List UInt8) → Bool
  | none => false
  | some content => (linesOf content).any (isAbout document)

theorem linesOf_pruned {document : Text} {content left : List UInt8}
    (kept : pruned document (some content) = some left) :
    linesOf left = keptLines document (linesOf content) := by
  dsimp only [pruned] at kept
  split at kept
  case isTrue all =>
    cases kept
    exact all.symm
  case isFalse => exact linesOf_stored (unbroken_kept document content) kept

theorem blank_of_pruned {document : Text} {content : List UInt8}
    (gone : pruned document (some content) = none) :
    (keptLines document (linesOf content)).all Text.allBlank = true := by
  dsimp only [pruned] at gone
  split at gone
  case isTrue => cases gone
  case isFalse => exact (stored_eq_none_iff _).mp gone

/-- The disk refuses nothing, and the path leads to a file, or to a place where nothing is. -/
structure Holds (disk : Disk) (p : Path) (place : Location) (held : Option (List UInt8)) : Prop where
  sound : disk.faults = {}
  leads : disk.Leads p place
  here : disk.node? place = held.map .file

section Holds

variable {disk : Disk} {p : Path} {place : Location}

theorem Holds.plain {held : Option (List UInt8)} (holds : Holds disk p place held) :
    disk.node? place ≠ some .directory := by
  rw [holds.here]
  cases held <;> simp

theorem Holds.becomes {after : Disk} {held left : Option (List UInt8)} (holds : Holds disk p place held)
    (becomes : disk.Becomes after place (left.map .file)) : Holds after p place left := by
  have file : left.map Node.file ≠ some .directory := by cases left <;> simp
  refine ⟨becomes.faults.trans holds.sound, ?_, becomes.here⟩
  exact holds.leads.kept (becomes.sameDirectories holds.plain file) becomes.home

theorem Holds.read_some {content : List UInt8} (holds : Holds disk p place (some content)) :
    disk.read p = .ok content := by
  rw [Disk.read_of_leads holds.sound holds.leads, holds.here]
  rfl

theorem Holds.read_none (holds : Holds disk p place none) :
    disk.read p = .error (disk.failure .notFound [p]) := by
  rw [Disk.read_of_leads holds.sound holds.leads, holds.here]
  rfl

theorem holds_of_read {content : List UInt8} (sound : disk.faults = {}) (there : disk.read p = .ok content) :
    ∃ place, Holds disk p place (some content) := by
  obtain ⟨place, leads, file⟩ := Disk.leads_of_read there
  exact ⟨place, sound, leads, file⟩

end Holds

theorem dropRecords_prunes {world : World} {artifact : Path} {place : Location}
    {held : Option (List UInt8)} (holds : Holds world.disk artifact place held) (document : Path) :
    ∃ after, dropRecords artifact document world = .ok (mentions (tidy document.text) held) after ∧
      Holds after.disk artifact place (pruned (tidy document.text) held) ∧
      (mentions (tidy document.text) held = false → after = world) := by
  have below := Disk.below_of_no_directory world.disk place holds.plain
  unfold dropRecords
  rw [disk_bind]
  cases held with
  | none =>
      rw [holds.read_none]
      exact ⟨world, rfl, holds, fun _ => rfl⟩
  | some content =>
      rw [holds.read_some]
      dsimp only [mentions, pruned]
      rw [← linesOf, ← keptLines]
      by_cases all : keptLines (tidy document.text) (linesOf content) = linesOf content
      · have silent := (keptLines_eq_self_iff _ _).mp all
        rw [if_pos (congrArg List.length all), if_pos all, silent]
        exact ⟨world, rfl, holds, fun _ => rfl⟩
      · have fewer : (keptLines (tidy document.text) (linesOf content)).length ≠ (linesOf content).length :=
          fun same => all (List.filter_eq_self.mpr (List.length_filter_eq_length_iff.mp same))
        have struck : (linesOf content).any (isAbout (tidy document.text)) = true := by
          rw [← Bool.not_eq_false]
          exact fun silent => all ((keptLines_eq_self_iff _ _).mpr silent)
        rw [if_neg fewer, if_neg all, struck, stored]
        split
        case isTrue =>
          refine ⟨_, bind_ran (discard_file world artifact place content holds.sound holds.leads holds.here) _,
            holds.becomes ?_, fun same => nomatch same⟩
          exact Disk.becomes_erase world.disk place below
        case isFalse =>
          rw [Disk.write_of_leads holds.sound holds.leads _ holds.plain]
          refine ⟨_, rfl, holds.becomes ?_, fun same => nomatch same⟩
          exact Disk.becomes_set world.disk place _ below

theorem held_of_blank (file : Text) (lines : List Text) (blank : lines.all Text.allBlank = true) :
    held file lines = .ok [] := by
  have silent : ∀ line ∈ lines, said .metrics line = .ok none := by
    intro line inside
    rw [said, if_pos (List.all_eq_true.mp blank line inside)]
  have going : stop? .metrics lines = none := by
    rw [stop?_eq_none_iff]
    intro line inside failure
    rw [silent line inside]
    exact fun same => nomatch same
  have nothing : recorded .metrics lines = [] := by
    rw [recorded, List.filterMap_eq_nil_iff]
    intro line inside
    rw [silent line inside]
    rfl
  rw [held, going, nothing]
  rfl

theorem dropRecords_leaves (world : World) (artifact document : Path) (content : List UInt8)
    (sound : world.disk.faults = {}) (there : world.disk.read artifact = .ok content) :
    ∃ changed after, dropRecords artifact document world = .ok changed after ∧
      ∀ file, (recordsFor artifact file).outcome after =
        held file (keptLines (tidy document.text) (linesOf content)) := by
  obtain ⟨place, holds⟩ := holds_of_read sound there
  obtain ⟨after, ran, left, _⟩ := dropRecords_prunes holds document
  refine ⟨_, after, ran, fun file => ?_⟩
  cases kept : pruned (tidy document.text) (some content) with
  | none =>
      rw [kept] at left
      rw [held_of_blank file _ (blank_of_pruned kept)]
      exact recordsFor_of_missing artifact file after _ left.read_none rfl
  | some bytes =>
      rw [kept] at left
      rw [recordsFor_of_content artifact file after bytes left.read_some, linesOf_pruned kept]

def PlainTag (line : Text) : Prop := Text.lower (line.take 5) = "file:".toList

def CutTo (file line : Text) : Prop :=
  PlainTag line ∧ ∃ name number score,
    metricFields? line = some (name, number, score) ∧
      sameFile (name.takeWhile (· ≠ ';')) file = true

def RecordedFor (file line : Text) : Prop :=
  ∃ record, said .metrics line = .ok (some record) ∧ sameFile record.file file = true

def Unreadable (line : Text) : Prop := ∃ failure, said .metrics line = .error failure

theorem metricFields_spelled (line name number score : Text)
    (fields : metricFields? line = some (name, number, score)) :
    ∃ tag rest, line = tag ++ (name ++ ';' :: rest) ∧ tag.length = 5 ∧ ';' ∉ tag := by
  obtain ⟨tag, blanks, spelled, _, _, _, _, _, rfl⟩ := (metricFields?_eq_some_iff _ _ _ _).mp fields
  exact ⟨tag, _, rfl, spelled.length, spelled.semicolon_notMem⟩

theorem takeWhile_append_semicolon (name rest : Text) :
    (name ++ ';' :: rest).takeWhile (· ≠ ';') = name.takeWhile (· ≠ ';') := by
  induction name with
  | nil => rfl
  | cons c name ih =>
      rw [List.cons_append, List.takeWhile_cons, List.takeWhile_cons, ih]

theorem isAbout_metric (document line name number score : Text)
    (fields : metricFields? line = some (name, number, score)) :
    isAbout document line = true ↔
      PlainTag line ∧ sameFile (name.takeWhile (· ≠ ';')) document = true := by
  obtain ⟨tag, rest, whole, size, plain⟩ := metricFields_spelled line name number score fields
  have cut : line.takeWhile (· ≠ ';') = tag ++ name.takeWhile (· ≠ ';') := by
    have inTag : ∀ c ∈ tag, (decide (c ≠ ';')) = true := by
      intro c inside
      exact decide_eq_true fun same => plain (same ▸ inside)
    rw [whole, List.takeWhile_append_of_pos inTag, takeWhile_append_semicolon]
  have shorter : (line.takeWhile (· ≠ ';')).length < line.length := by
    have kept := (List.takeWhile_prefix (· ≠ ';') : name.takeWhile (· ≠ ';') <+: name).length_le
    rw [cut, whole]
    simp only [List.length_append, List.length_cons]
    omega
  have front : (line.takeWhile (· ≠ ';')).take 5 = line.take 5 := by
    rw [cut, whole, List.take_append_of_le_length (by omega), List.take_append_of_le_length (by omega)]
  have back : (line.takeWhile (· ≠ ';')).drop 5 = name.takeWhile (· ≠ ';') := by
    rw [cut, ← size, List.drop_left]
  unfold isAbout PlainTag
  simp only [Bool.and_eq_true, decide_eq_true_eq, front, back, shorter, true_and]

theorem said_without_fields (line : Text) (none : metricFields? line = none) :
    said .metrics line = .ok Option.none := by
  unfold said
  split
  case isTrue => rfl
  case isFalse => simp only [ofLine, metricOfLine, none, malformed]

theorem said_with_fields (line name number score : Text) (record : Record)
    (fields : metricFields? line = some (name, number, score))
    (read : said .metrics line = .ok (some record)) : record.file = tidy name := by
  have decoded : metricOfLine .metrics line = .ok record := ofLine_of_said .metrics line record read
  unfold metricOfLine at decoded
  rw [fields] at decoded
  cases counted : positiveLine .metrics line number with
  | error failure => simp [counted, bind, Except.bind] at decoded
  | ok row =>
      cases scored : Record.number score with
      | error failure => simp [counted, scored, bind, Except.bind] at decoded
      | ok value =>
          simp only [counted, scored, bind, Except.bind, pure, Except.pure] at decoded
          cases decoded
          rfl

theorem fields_of_said (line : Text) (heard : said .metrics line ≠ .ok none) :
    ∃ name number score, metricFields? line = some (name, number, score) := by
  cases fields : metricFields? line with
  | none => exact absurd (said_without_fields line fields) heard
  | some found => exact ⟨found.1, found.2.1, found.2.2, rfl⟩

-- On lines that matter to a reader, pruning is told by the name up to its first semicolon.
theorem isAbout_iff_cutTo (document line : Text) (heard : said .metrics line ≠ .ok none) :
    isAbout (tidy document) line = true ↔ CutTo document line := by
  obtain ⟨name, number, score, fields⟩ := fields_of_said line heard
  rw [isAbout_metric _ line name number score fields, sameFile_tidy_right]
  constructor
  · rintro ⟨plain, same⟩
    exact ⟨plain, name, number, score, fields, same⟩
  · rintro ⟨plain, other, _, _, again, same⟩
    rw [fields] at again
    cases again
    exact ⟨plain, same⟩

theorem heard_of_recorded (file line : Text) (recorded : RecordedFor file line) :
    said .metrics line ≠ .ok none := by
  obtain ⟨record, read, _⟩ := recorded
  rw [read]
  exact fun same => nomatch same

theorem heard_of_unreadable (line : Text) (unreadable : Unreadable line) :
    said .metrics line ≠ .ok none := by
  obtain ⟨failure, read⟩ := unreadable
  rw [read]
  exact fun same => nomatch same

def recordFor? (file line : Text) : Option Record :=
  (said .metrics line).toOption.join.filter fun record => sameFile record.file file

theorem recordFor_eq_none_iff (file line : Text) :
    recordFor? file line = none ↔ ¬ RecordedFor file line := by
  unfold recordFor? RecordedFor
  cases said .metrics line with
  | error failure => simp [Except.toOption]
  | ok found => cases found <;> simp [Except.toOption]

theorem about_recorded (file : Text) (lines : List Text) :
    about file (recorded .metrics lines) = lines.filterMap (recordFor? file) := by
  rw [about, recorded, List.filter_filterMap]
  rfl

theorem filterMap_kept_iff {α β : Type} (keep : α → Bool) (found : α → Option β) (items : List α) :
    (items.filter keep).filterMap found = items.filterMap found ↔
      ∀ item ∈ items, found item ≠ none → keep item = true := by
  induction items with
  | nil => simp
  | cons item rest ih =>
      have fewer : ((rest.filter keep).filterMap found).length ≤ (rest.filterMap found).length :=
        (List.filter_sublist.filterMap found).length_le
      rw [List.forall_mem_cons]
      by_cases kept : keep item = true
      · rw [List.filter_cons_of_pos kept, List.filterMap_cons, List.filterMap_cons]
        cases found item <;> simp [kept, ih]
      · rw [List.filter_cons_of_neg kept, List.filterMap_cons]
        cases value : found item with
        | none => simp [ih]
        | some made =>
            constructor
            · intro same
              have longer := congrArg List.length same
              simp only [List.length_cons] at longer
              omega
            · intro both
              exact absurd (both.1 (by simp)) kept

theorem held_eq_nil_iff (file : Text) (lines : List Text) :
    held file lines = .ok [] ↔ ∀ line ∈ lines, ¬ (RecordedFor file line ∨ Unreadable line) := by
  have readable : stop? .metrics lines = none ↔ ∀ line ∈ lines, ¬ Unreadable line := by
    rw [stop?_eq_none_iff]
    simp [Unreadable]
  have none : about file (recorded .metrics lines) = [] ↔ ∀ line ∈ lines, ¬ RecordedFor file line := by
    rw [about_recorded, List.filterMap_eq_nil_iff]
    simp [recordFor_eq_none_iff]
  simp only [not_or, forall_and, ← readable, ← none]
  unfold held
  cases stop? .metrics lines <;> simp

theorem held_kept_eq_nil_iff (document : Text) (lines : List Text) :
    held document (keptLines (tidy document) lines) = .ok [] ↔
      ∀ line ∈ lines, RecordedFor document line ∨ Unreadable line → CutTo document line := by
  rw [held_eq_nil_iff]
  constructor
  · intro gone line inside matters
    have heard := matters.elim (heard_of_recorded document line) (heard_of_unreadable line)
    by_cases struck : isAbout (tidy document) line = true
    · exact (isAbout_iff_cutTo document line heard).mp struck
    · exact absurd matters (gone line ((mem_keptLines _ _ _).mpr ⟨inside, struck⟩))
  · intro cut line inside matters
    have heard := matters.elim (heard_of_recorded document line) (heard_of_unreadable line)
    obtain ⟨member, kept⟩ := (mem_keptLines _ _ _).mp inside
    exact kept ((isAbout_iff_cutTo document line heard).mpr (cut line member matters))

theorem held_kept_iff (document other : Text) (lines : List Text) :
    held other (keptLines (tidy document) lines) = held other lines ↔
      stop? .metrics (keptLines (tidy document) lines) = stop? .metrics lines ∧
        (stop? .metrics lines = none → ∀ line ∈ lines, RecordedFor other line → ¬ CutTo document line) := by
  have records : about other (recorded .metrics (keptLines (tidy document) lines)) =
      about other (recorded .metrics lines) ↔
        ∀ line ∈ lines, RecordedFor other line → ¬ CutTo document line := by
    rw [about_recorded, about_recorded, keptLines, filterMap_kept_iff]
    refine forall₂_congr fun line _ => ?_
    rw [Ne, recordFor_eq_none_iff, Classical.not_not, Bool.not_eq_true', ← Bool.not_eq_true]
    refine forall_congr' fun recorded => not_congr ?_
    exact isAbout_iff_cutTo document line (heard_of_recorded other line recorded)
  unfold held
  cases before : stop? .metrics lines with
  | none =>
      have still : stop? .metrics (keptLines (tidy document) lines) = none := by
        rw [stop?_eq_none_iff] at before ⊢
        intro line inside
        exact before line ((mem_keptLines _ _ _).mp inside).1
      simp [still, records]
  | some failure =>
      cases stop? .metrics (keptLines (tidy document) lines) <;> simp

/-- A line that both readings take alike: it can be read, and if it is a complexity, its tag is plain and
its name has no semicolon. -/
def PlainLine (line : Text) : Prop :=
  ¬ Unreadable line ∧ ∀ name number score, metricFields? line = some (name, number, score) →
    PlainTag line ∧ ';' ∉ name

theorem cutTo_iff_recordedFor (document file line : Text) (plain : PlainLine line)
    (recorded : RecordedFor file line) : CutTo document line ↔ RecordedFor document line := by
  have heard := heard_of_recorded file line recorded
  obtain ⟨name, number, score, fields⟩ := fields_of_said line heard
  obtain ⟨record, read, _⟩ := recorded
  have named := said_with_fields line name number score record fields read
  obtain ⟨tag, clean⟩ := plain.2 name number score fields
  have whole : name.takeWhile (· ≠ ';') = name := by
    have keeps : ∀ c ∈ name, (decide (c ≠ ';')) = true :=
      fun c inside => decide_eq_true fun same => clean (same ▸ inside)
    have all := @List.takeWhile_append_of_pos _ (fun c => decide (c ≠ ';')) name [] keeps
    rwa [List.append_nil, List.takeWhile_nil, List.append_nil] at all
  rw [← isAbout_iff_cutTo document line heard, isAbout_metric _ line name number score fields, whole,
    sameFile_tidy_right]
  constructor
  · rintro ⟨_, same⟩
    exact ⟨record, read, by rw [named, sameFile_tidy_left]; exact same⟩
  · rintro ⟨other, again, same⟩
    rw [read] at again
    cases again
    rw [named, sameFile_tidy_left] at same
    exact ⟨tag, same⟩

theorem sameFile_of_recorded (left right line : Text) (first : RecordedFor left line)
    (second : RecordedFor right line) : sameFile left right = true := by
  obtain ⟨record, read, same⟩ := first
  obtain ⟨other, again, alike⟩ := second
  rw [read] at again
  cases again
  rw [sameFile_comm] at same
  exact sameFile_trans same alike

/-- Pruning a document succeeds; none of its records is left exactly if each line that reads as one, or that
cannot be read, is cut to the document; and another file keeps its records exactly if the reading still ends
as before and no record of it is cut to the document. Plain lines satisfy both. -/
theorem pruned_records_exactly (world : World) (artifact document : Path) (content : List UInt8)
    (sound : world.disk.faults = {}) (there : world.disk.read artifact = .ok content) :
    ∃ changed after, dropRecords artifact document world = .ok changed after ∧
      ((recordsFor artifact document.text).outcome after = .ok [] ↔
        ∀ line ∈ linesOf content, RecordedFor document.text line ∨ Unreadable line →
          CutTo document.text line) ∧
      (∀ other, sameFile other document.text = false →
        ((recordsFor artifact other).outcome after = (recordsFor artifact other).outcome world ↔
          stop? .metrics (keptLines (tidy document.text) (linesOf content)) =
              stop? .metrics (linesOf content) ∧
            (stop? .metrics (linesOf content) = none → ∀ line ∈ linesOf content,
              RecordedFor other line → ¬ CutTo document.text line))) ∧
      ((∀ line ∈ linesOf content, PlainLine line) →
        (recordsFor artifact document.text).outcome after = .ok [] ∧
          ∀ other, sameFile other document.text = false →
            (recordsFor artifact other).outcome after = (recordsFor artifact other).outcome world) := by
  obtain ⟨changed, after, ran, leaves⟩ :=
    dropRecords_leaves world artifact document content sound there
  refine ⟨changed, after, ran, ?_, ?_, ?_⟩
  · rw [leaves]
    exact held_kept_eq_nil_iff document.text (linesOf content)
  · intro other _
    rw [leaves, recordsFor_of_content artifact other world content there]
    exact held_kept_iff document.text other (linesOf content)
  · intro plain
    constructor
    · rw [leaves, held_kept_eq_nil_iff]
      rintro line inside (recorded | unreadable)
      · exact (cutTo_iff_recordedFor _ _ line (plain line inside) recorded).mpr recorded
      · exact absurd unreadable (plain line inside).1
    · intro other different
      have going : stop? .metrics (linesOf content) = none :=
        (stop?_eq_none_iff _ _).mpr fun line inside failure read =>
          (plain line inside).1 ⟨failure, read⟩
      have still : stop? .metrics (keptLines (tidy document.text) (linesOf content)) = none :=
        (stop?_eq_none_iff _ _).mpr fun line inside failure read =>
          (plain line ((mem_keptLines _ _ _).mp inside).1).1 ⟨failure, read⟩
      rw [leaves, recordsFor_of_content artifact other world content there, held_kept_iff]
      refine ⟨still.trans going.symm, fun _ line inside recorded cut => ?_⟩
      have both := (cutTo_iff_recordedFor _ _ line (plain line inside) recorded).mp cut
      rw [sameFile_of_recorded _ _ line recorded both] at different
      cases different

-- The name of the file has a semicolon: its record is read, and stays when the file is pruned.
theorem semicolon_record_survives :
    ∃ changed after,
      dropRecords (Path.ofString "/m") (Path.ofString "/a;b")
          ⟨⟨[([⟨['m'], by decide⟩], .file (Utf8.encode "File:/a;b;Line:3;Score:7\n".toList))], [], {}⟩,
            ⟨.off, []⟩, {}⟩ = .ok changed after ∧
        (recordsFor (Path.ofString "/m") "/a;b".toList).outcome after ≠ .ok [] := by
  obtain ⟨changed, after, ran, left, _⟩ := pruned_records_exactly
    ⟨⟨[([⟨['m'], by decide⟩], .file (Utf8.encode "File:/a;b;Line:3;Score:7\n".toList))], [], {}⟩,
      ⟨.off, []⟩, {}⟩ (Path.ofString "/m") (Path.ofString "/a;b") _ rfl rfl
  refine ⟨changed, after, ran, fun none => ?_⟩
  have cut := left.mp none "File:/a;b;Line:3;Score:7".toList (by decide +kernel)
    (.inl ⟨.metric ⟨"/a;b".toList, 3, 7⟩, rfl, by decide +kernel⟩)
  obtain ⟨_, name, number, score, fields, same⟩ := cut
  have spelled : metricFields? "File:/a;b;Line:3;Score:7".toList = some ("/a;b".toList, ['3'], ['7']) := by
    decide +kernel
  rw [spelled] at fields
  cases fields
  exact absurd same (by decide +kernel)

end LogtalkNavigation.Artifact
