import LogtalkNavigation.Proofs.Hierarchy
import LogtalkNavigation.Proofs.Record.Files
import LogtalkNavigation.Proofs.Record.Rendering
import LogtalkNavigation.Proofs.Results

/-! What can be relied on in a record that was read. Whatever the artifact holds, a record is of a form that belongs to
its kind, has a line from one on, a tidy file and names that are not empty, and an entity is of a type that is known. What
is done with records as they are read is done with such records only. -/

namespace LogtalkNavigation

theorem Text.squeeze_single (c : Char) (text : Text) : ¬ [c, c] <:+: squeeze c text := by
  fun_induction squeeze c text with
  | case1 => simp
  | case2 last => simp [List.infix_cons_iff]
  | case3 first second rest run ih => exact ih
  | case4 first second rest apart ih =>
      rw [List.infix_cons_iff, not_or]
      refine ⟨?_, ih⟩
      rintro ⟨behind, whole⟩
      obtain ⟨same, whole⟩ := List.cons.inj whole
      have head := head?_squeeze c (second :: rest)
      rw [← whole] at head
      exact apart ⟨same.symm, (Option.some.inj head).symm⟩

namespace Record

open Text

structure TidyFile (file : Text) : Prop where
  fixed : tidy file = file
  forward : '\\' ∉ file
  single : ¬ ['/', '/'] <:+: file
  trimmed : Trimmed file

theorem tidyFile_tidy (file : Text) : TidyFile (tidy file) where
  fixed := tidy_tidy file
  forward inside := by
    obtain ⟨c, _, same⟩ := List.mem_map.mp (mem_of_mem_squeeze _ _ _ inside)
    by_cases back : c = '\\' <;> simp [back] at same
  single := squeeze_single '/' _
  trimmed := trimmed_tidy file

def labels : Record → List Text
  | .call r => [r.name]
  | .entity r => [r.name]
  | .test r => [r.object, r.test]
  | .summary r => [r.object]
  | .location _ | .status _ | .metric _ => []

structure Clean (record : Record) : Prop where
  counted : 1 ≤ record.line
  tidied : TidyFile record.file
  named : ∀ label ∈ record.labels, label ≠ []
  typed : ∀ fact, record = .entity fact → ∃ kind, ItemKind.ofEntityType fact.entityType = .ok kind

structure Fit (kind : Artifact.Kind) (record : Record) : Prop extends Clean record where
  suits : Suits kind record

theorem positive_of_positiveLine {kind : Artifact.Kind} {text digits : Text} {line : Int}
    (read : positiveLine kind text digits = .ok line) : 1 ≤ line := by
  obtain ⟨number, _, read⟩ := ok_of_bind read
  split at read
  case isTrue => cases read
  case isFalse enough =>
    cases read
    omega

theorem named_of_callFields {text name file line : Text} (read : callFields? text = some (name, file, line)) :
    name ≠ [] := by
  obtain ⟨rest, _, found⟩ := Option.bind_eq_some_iff.mp read
  obtain ⟨_, _, filled, _⟩ := shortestSome_divides rest name _ found
  exact filled

theorem clean_of_callOfLine {kind : Artifact.Kind} {text : Text} {record : Record}
    (read : callOfLine kind text = .ok record) : (∃ fact, record = .call fact) ∧ Clean record := by
  unfold callOfLine at read
  split at read
  case h_1 name file digits fields =>
    obtain ⟨line, counted, made⟩ := ok_of_bind read
    cases made
    refine ⟨⟨_, rfl⟩, positive_of_positiveLine counted, tidyFile_tidy file, ?_, by simp⟩
    simpa [labels] using named_of_callFields fields
  case h_2 => cases read

theorem named_of_entityFields {text entityType name file line : Text}
    (read : entityFields? text = some (entityType, name, file, line)) : name ≠ [] := by
  obtain ⟨rest, _, found⟩ := Option.bind_eq_some_iff.mp read
  obtain ⟨word, _, chosen⟩ := List.exists_of_findSome?_eq_some found
  obtain ⟨_, _, chosen⟩ := Option.bind_eq_some_iff.mp chosen
  obtain ⟨_, _, chosen⟩ := Option.bind_eq_some_iff.mp chosen
  obtain ⟨fields, call, chosen⟩ := Option.bind_eq_some_iff.mp chosen
  cases chosen
  exact named_of_callFields call

theorem clean_of_entityOfLine {kind : Artifact.Kind} {text : Text} {record : Record}
    (read : entityOfLine kind text = .ok record) : (∃ fact, record = .entity fact) ∧ Clean record := by
  have typed : ∀ fact, record = .entity fact → ∃ kind, ItemKind.ofEntityType fact.entityType = .ok kind := by
    rintro fact rfl
    exact Hierarchy.typed_of_entityOfLine kind text fact read
  unfold entityOfLine at read
  split at read
  case h_1 entityType name file digits fields =>
    obtain ⟨line, counted, made⟩ := ok_of_bind read
    cases made
    refine ⟨⟨_, rfl⟩, positive_of_positiveLine counted, tidyFile_tidy file, ?_, typed⟩
    simpa [labels] using named_of_entityFields fields
  case h_2 => cases read

theorem clean_of_locationOfLine {kind : Artifact.Kind} {text : Text} {record : Record}
    (read : locationOfLine kind text = .ok record) : (∃ fact, record = .location fact) ∧ Clean record := by
  unfold locationOfLine at read
  split at read
  case h_1 file digits fields =>
    obtain ⟨line, counted, made⟩ := ok_of_bind read
    cases made
    exact ⟨⟨_, rfl⟩, positive_of_positiveLine counted, tidyFile_tidy file, by simp [labels], by simp⟩
  case h_2 => cases read

theorem clean_of_metricOfLine {kind : Artifact.Kind} {text : Text} {record : Record}
    (read : metricOfLine kind text = .ok record) : (∃ fact, record = .metric fact) ∧ Clean record := by
  unfold metricOfLine at read
  split at read
  case h_1 file digits score fields =>
    obtain ⟨line, counted, read⟩ := ok_of_bind read
    obtain ⟨value, _, made⟩ := ok_of_bind read
    cases made
    exact ⟨⟨_, rfl⟩, positive_of_positiveLine counted, tidyFile_tidy file, by simp [labels], by simp⟩
  case h_2 => cases read

theorem named_of_objectOf {α : Type} {follower : Text → Option α} {text line object : Text} {found : α}
    (read : objectOf? follower text = some (line, object, found)) : object ≠ [] ∧ ∃ rest, follower rest = some found := by
  obtain ⟨_, _, read⟩ := Option.bind_eq_some_iff.mp read
  obtain ⟨behind, _, read⟩ := Option.bind_eq_some_iff.mp read
  obtain ⟨_, scanned, made⟩ := Option.bind_eq_some_iff.mp read
  cases made
  obtain ⟨rest, _, filled, accepted⟩ := shortestSome_divides behind object found scanned
  exact ⟨filled, rest, accepted⟩

theorem objectOf_of_shortest {α : Type} {follower : Text → Option α} {text file : Text} {found : Text × Text × α}
    (read : (afterFileTag? text).bind (shortestSome (objectOf? follower)) = some (file, found)) :
    ∃ rest, objectOf? follower rest = some found := by
  obtain ⟨behind, _, scanned⟩ := Option.bind_eq_some_iff.mp read
  obtain ⟨rest, _, _, accepted⟩ := shortestSome_divides behind file found scanned
  exact ⟨rest, accepted⟩

theorem named_of_lastTest {text test status : Text} {reason : Option Text}
    (read : lastTest? text = some (test, status, reason)) : test ≠ [] := by
  obtain ⟨behind, _, scanned⟩ := Option.bind_eq_some_iff.mp read
  obtain ⟨_, _, filled, _⟩ := shortestSome_divides behind test _ scanned
  exact filled

theorem clean_of_testOfLine {kind : Artifact.Kind} {text : Text} {record : Record}
    (read : testOfLine kind text = .ok record) : Suits .tests record ∧ Clean record := by
  unfold testOfLine at read
  split at read
  case h_1 file digits object test status reason fields =>
    obtain ⟨line, counted, made⟩ := ok_of_bind read
    cases made
    obtain ⟨rest, divided⟩ := objectOf_of_shortest fields
    obtain ⟨objectNamed, _, last⟩ := named_of_objectOf divided
    refine ⟨trivial, positive_of_positiveLine counted, tidyFile_tidy file, ?_, by simp⟩
    simpa [labels] using ⟨objectNamed, named_of_lastTest last⟩
  case h_2 =>
    split at read
    case h_1 file digits object status fields =>
      obtain ⟨line, counted, made⟩ := ok_of_bind read
      cases made
      obtain ⟨rest, divided⟩ := objectOf_of_shortest fields
      refine ⟨trivial, positive_of_positiveLine counted, tidyFile_tidy file, ?_, by simp⟩
      simpa [labels] using (named_of_objectOf divided).1
    case h_2 =>
      split at read
      case h_1 file digits status fields =>
        obtain ⟨line, counted, made⟩ := ok_of_bind read
        cases made
        exact ⟨trivial, positive_of_positiveLine counted, tidyFile_tidy file, by simp [labels], by simp⟩
      case h_2 => cases read

/-- A line gives nothing but records that are fit. -/
theorem fit_of_ofLine {kind : Artifact.Kind} {text : Text} {record : Record} (read : ofLine kind text = .ok record) :
    Fit kind record := by
  cases kind with
  | callers | callees =>
      obtain ⟨⟨_, rfl⟩, clean⟩ := clean_of_callOfLine read
      exact ⟨clean, trivial⟩
  | ancestors | descendants =>
      obtain ⟨⟨_, rfl⟩, clean⟩ := clean_of_entityOfLine read
      exact ⟨clean, trivial⟩
  | references | typeDefinition =>
      obtain ⟨⟨_, rfl⟩, clean⟩ := clean_of_locationOfLine read
      exact ⟨clean, trivial⟩
  | tests =>
      obtain ⟨suits, clean⟩ := clean_of_testOfLine read
      exact ⟨clean, suits⟩
  | metrics =>
      obtain ⟨⟨_, rfl⟩, clean⟩ := clean_of_metricOfLine read
      exact ⟨clean, trivial⟩

theorem fit_of_said {kind : Artifact.Kind} {line : Text} {record : Record} (read : said kind line = .ok (some record)) :
    Fit kind record :=
  fit_of_ofLine (ofLine_of_said kind line record read)

theorem fit_of_recorded {kind : Artifact.Kind} {lines : List Text} {record : Record}
    (inside : record ∈ recorded kind lines) : Fit kind record := by
  obtain ⟨line, _, read⟩ := (mem_recorded kind lines record).mp inside
  exact fit_of_said read

theorem typed_of_fit {kind : Artifact.Kind} {records : List Record} (fit : ∀ record ∈ records, Fit kind record) :
    ∀ fact ∈ Hierarchy.entities records, ∃ kind, ItemKind.ofEntityType fact.entityType = .ok kind := by
  intro fact inside
  obtain ⟨record, among, same⟩ := List.mem_filterMap.mp inside
  cases record with
  | entity other =>
      cases same
      exact (fit _ among).typed fact rfl
  | _ => cases same

theorem fit_of_ofText {kind : Artifact.Kind} {text : Text} {world : World} {records : List Record}
    (read : (ofText kind text).outcome world = .ok records) : ∀ record ∈ records, Fit kind record := by
  rw [Act.outcome_of_looks (looks_ofText kind text)] at read
  split at read
  case h_1 => cases read
  case h_2 =>
    cases read
    exact fun _ => fit_of_recorded

theorem fit_of_ofLine? {kind : Artifact.Kind} {line : Text} {world : World} {record : Record}
    (read : (ofLine? kind line).outcome world = .ok (some record)) : Fit kind record := by
  rw [Act.outcome_of_looks (looks_ofLine? kind line)] at read
  exact fit_of_said read

/-- What is done with a record that is not fit makes no difference: there is none, not even before a line that cannot be
read. -/
theorem collect_congr {α : Type} {kind : Artifact.Kind} {each other : Record → Act (List α)}
    (same : ∀ record, Fit kind record → each record = other record) (lines : List Text) :
    collect kind each lines = collect kind other lines := by
  induction lines with
  | nil => rfl
  | cons line rest ih =>
      refine Act.bind_congr_of_outcome fun world found read => ?_
      cases found with
      | none => exact ih
      | some record =>
          dsimp only
          rw [same record (fit_of_ofLine? read), ih]

theorem fit_of_first? {kind : Artifact.Kind} {lines : List Text} {world : World} {record : Record}
    (read : (first? kind lines).outcome world = .ok (some record)) : Fit kind record := by
  induction lines generalizing world with
  | nil => cases read
  | cons line rest ih =>
      obtain ⟨found, between, heard, ran⟩ := Act.ran_of_bind (Act.ran_of_outcome read)
      cases found with
      | none => exact ih (Act.outcome_of_ran ran)
      | some other =>
          cases ran
          exact fit_of_ofLine? (Act.outcome_of_ran heard)

end Record

end LogtalkNavigation
