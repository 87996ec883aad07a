import LogtalkNavigation.Lens
import LogtalkNavigation.Proofs.Disk.Frame
import LogtalkNavigation.Proofs.Record.Locality

/-! The lenses of a document and the results of other files. Records are sorted out by their file before
anything else is done with them, so lines about other files, and lines that are no records, may stand anywhere in
an artifact. -/

namespace LogtalkNavigation

namespace Disk

section Rewritten
variable {disk : Disk} {place : Location} {content : List UInt8} (other : List UInt8)
  (there : disk.node? place = some (.file content))
include there

theorem node?_rewritten (spot : Location) : (disk.set place (.file other)).node? spot =
    if spot = place then some (.file other) else disk.node? spot := by
  apply node?_set
  rintro rfl
  cases there

theorem walk_rewritten (start : Location) (names : List Name) :
    (disk.set place (.file other)).walk start names = disk.walk start names := by
  induction names generalizing start with
  | nil => rfl
  | cons name rest ih =>
      rw [walk, walk, node?_rewritten other there]
      by_cases here : start = place
      · subst here
        rw [if_pos rfl, there]
      · rw [if_neg here]
        simp only [ih]

theorem locate_rewritten (p : Path) : (disk.set place (.file other)).locate p = disk.locate p := by
  have written : (disk.set place (.file other)).shown p = disk.shown p := by simp only [shown, set_home]
  have followed : (disk.set place (.file other)).absolute p = disk.absolute p := by simp only [absolute, set_home]
  rw [locate, locate, written, followed, walk_rewritten other there]

theorem isFile_rewritten (p : Path) : (disk.set place (.file other)).isFile p = disk.isFile p := by
  have failures (code : OsCode) : (disk.set place (.file other)).failure code [p] = disk.failure code [p] := by
    simp only [failure, List.map_cons, List.map_nil, shown, set_home]
  unfold isFile stat
  split
  case isTrue => rfl
  case isFalse =>
    rw [locate_rewritten other there]
    cases disk.locate p with
    | error code => cases code <;> simp only [failures]
    | ok spot =>
        dsimp only
        rw [node?_rewritten other there]
        by_cases here : spot = place
        · subst here
          rw [if_pos rfl, there]
          rfl
        · rw [if_neg here]

theorem read_rewritten (p : Path) : (disk.set place (.file other)).read p = disk.read p ∨
    disk.read p = .ok content ∧ (disk.set place (.file other)).read p = .ok other := by
  have failures (code : OsCode) : (disk.set place (.file other)).failure code [p] = disk.failure code [p] := by
    simp only [failure, List.map_cons, List.map_nil, shown, set_home]
  have found : (disk.set place (.file other)).find p [p] = disk.find p [p] := by
    simp only [find, locate_rewritten other there, failures]
  unfold read
  rw [set_faults, found]
  cases allow disk.faults.openDenied [p] with
  | error failure => exact .inl rfl
  | ok allowed =>
      cases disk.find p [p] with
      | error failure => exact .inl rfl
      | ok spot =>
          simp only [bind, Except.bind, node?_rewritten other there, failures]
          by_cases here : spot = place
          · subst here
            rw [if_pos rfl, there]
            exact .inr ⟨rfl, rfl⟩
          · rw [if_neg here]
            exact .inl rfl

theorem firstFile?_rewritten (paths : List Path) :
    Artifact.firstFile? (disk.set place (.file other)) paths = Artifact.firstFile? disk paths := by
  induction paths with
  | nil => rfl
  | cons p rest ih => simp only [Artifact.firstFile?, isFile_rewritten other there, ih]

end Rewritten

end Disk

/-- The second list is the first one with `extra` lines inserted anywhere. -/
inductive Padded (extra : Text → Prop) : List Text → List Text → Prop where
  | nil : Padded extra [] []
  | keep {before after : List Text} (line : Text) (rest : Padded extra before after) :
      Padded extra (line :: before) (line :: after)
  | insert {before after : List Text} {line : Text} (added : extra line) (rest : Padded extra before after) :
      Padded extra before (line :: after)

namespace Padded

variable {extra : Text → Prop} {before after : List Text}

theorem refl (lines : List Text) : Padded extra lines lines := by
  induction lines with
  | nil => exact .nil
  | cons line rest ih => exact .keep line ih

theorem behind (front : List Text) (padded : Padded extra before after) :
    Padded extra (front ++ before) (front ++ after) := by
  induction front with
  | nil => exact padded
  | cons line rest ih => exact .keep line ih

theorem insert_all {added : List Text} (extras : ∀ line ∈ added, extra line)
    (padded : Padded extra before after) : Padded extra before (added ++ after) := by
  induction added with
  | nil => exact padded
  | cons line rest ih =>
      apply Padded.insert (extras line List.mem_cons_self)
      exact ih fun other inside => extras other (List.mem_cons_of_mem _ inside)

-- Bytes that are put behind a line feed, with a line feed of their own, insert their lines.
theorem of_bytes (blank : extra []) (first second : List UInt8) {added : List UInt8}
    (extras : ∀ line ∈ Text.lines (Utf8.decode added), extra line) :
    Padded extra (Text.lines (Utf8.decode (first ++ Utf8.newline :: second)))
      (Text.lines (Utf8.decode (first ++ Utf8.newline :: (added ++ Utf8.newline :: second)))) := by
  obtain ⟨gap, _, divided⟩ := Text.lines_append_break (Utf8.decode first)
  obtain ⟨space, small, parted⟩ := Text.lines_append_break (Utf8.decode added)
  have empty : ∀ line ∈ space, extra line := by
    intro line inside
    rcases small with rfl | rfl
    · cases inside
    · rw [List.mem_singleton.mp inside]
      exact blank
  rw [Utf8.decode_newline, Utf8.decode_newline, Utf8.decode_newline, divided, divided, parted]
  apply behind
  apply behind
  apply insert_all extras
  apply insert_all empty
  exact refl _

end Padded

namespace Record

/-- The line says nothing about a file: it is blank, malformed, or a record of another file. -/
def Foreign (kind : Artifact.Kind) (file line : Text) : Prop :=
  Idle kind line ∨ ∃ record, ofLine kind line = .ok record ∧ sameFile record.file file = false

theorem said_of_foreign {kind : Artifact.Kind} {file line : Text} (foreign : Foreign kind file line) :
    said kind line = .ok none ∨
      ∃ record, said kind line = .ok (some record) ∧ sameFile record.file file = false := by
  rcases foreign with idle | ⟨record, read, other⟩
  · exact .inl (said_of_idle idle)
  · unfold said
    split
    case isTrue => exact .inl rfl
    case isFalse =>
      rw [read]
      exact .inr ⟨record, rfl, other⟩

def Sifts {α : Type} (file : Text) (each : Record → Except Failure (List α)) : Prop :=
  ∀ record, sameFile record.file file = false → each record = .ok []

-- The induction is on the insertion; a line that is kept leads to the same failure on both sides.
theorem gathered_padded {α : Type} {kind : Artifact.Kind} {file : Text}
    {each : Record → Except Failure (List α)} (sifts : Sifts file each) {before after : List Text}
    (padded : Padded (Foreign kind file) before after) :
    gathered kind each after = gathered kind each before := by
  induction padded with
  | nil => rfl
  | keep line rest ih => rw [gathered, gathered, ih]
  | insert foreign rest ih =>
      rw [gathered, ← ih]
      rcases said_of_foreign foreign with silent | ⟨record, read, other⟩
      · rw [silent]
        rfl
      · rw [read]
        simp only [bind, Except.bind, sifts record other, List.nil_append]
        cases gathered kind each _ <;> rfl

theorem about_reading (kind : Artifact.Kind) (file : Text) (lines : List Text) :
    (reading kind lines).map (about file) = gathered kind (fun record => .ok (about file [record])) lines := by
  have whole : reading kind lines = gathered kind (fun record => .ok [record]) lines :=
    (gathered_single kind lines).symm
  rw [whole]
  clear whole
  induction lines with
  | nil => rfl
  | cons line rest ih =>
      rw [gathered, gathered, ← ih]
      cases said kind line with
      | error failure => rfl
      | ok found =>
          cases found with
          | none => rfl
          | some record =>
              simp only [bind, Except.bind, pure, Except.pure]
              cases gathered kind (fun record => .ok [record]) rest with
              | error failure => rfl
              | ok records => exact congrArg Except.ok (List.filter_append [record] records)

end Record

namespace Lens

open Act

section Shown
variable (freshness : Freshness) (document : Path) (root : Option Path) (uri : Option Text)

def textOn (kind : Artifact.Kind) (disk : Disk) : Except Failure (Option Text) := do
  match ← Artifact.kept? disk root document.parent kind with
  | none => return none
  | some artifact =>
    match disk.read artifact with
    | .ok content => return some (Source.textOf content)
    | .error (.os _) => return none
    | .error failure => .error failure

theorem looks_keptText (kind : Artifact.Kind) :
    Looks (keptText root document kind) (textOn document root kind) := by
  refine looks_disk_bind fun disk => looks_bind (looks_ofExcept _) fun found => ?_
  cases found with
  | none => exact looks_pure none
  | some artifact =>
      dsimp only
      cases disk.read artifact with
      | ok content => exact looks_pure _
      | error failure =>
          cases failure with
          | os error => exact looks_bind (looks_note _ _) fun _ => looks_pure none
          | _ => exact looks_throw _

def uriOn (disk : Disk) : Except Failure Text :=
  match uri with
  | some (c :: rest) => .ok (c :: rest)
  | _ => disk.uriOf document

theorem looks_uriOf : Looks (uriOf document uri) (uriOn document uri) := by
  have own : Looks (do Act.ofExcept ((← disk).uriOf document)) (Disk.uriOf · document) :=
    looks_disk_bind fun disk => looks_ofExcept _
  cases uri with
  | none => exact own
  | some given =>
      cases given with
      | nil => exact own
      | cons c rest => exact looks_pure (c :: rest)

def ofMetric (uri : Text) : Record → Except Failure (List Lens)
  | .metric record => do
    if Record.sameFile record.file document.text then
      let title := "Cyclomatic complexity: ".toList ++ Text.ofInt record.score
      return [← ofRecord freshness .metrics uri title record.line]
    else return []
  | _ => return []

def ofOutcomes (uri : Text) (records : List Record) : Except Failure (List Lens) :=
  let shown := (Record.latest subject records).filterMap fun record =>
    (outcomeTitle record).map fun title => (title, record.line)
  shown.mapM fun (title, line) => ofRecord freshness .tests uri title line

def metricsOf (uri : Text) (lines : List Text) : Except Failure (List Lens) :=
  Record.gathered .metrics (ofMetric freshness document uri) lines

def testsOf (uri : Text) (lines : List Text) : Except Failure (List Lens) := do
  ofOutcomes freshness uri (← (Record.reading .tests lines).map (Record.about document.text))

def lensesOn (kind : Artifact.Kind) (view : Text → List Text → Except Failure (List Lens)) (disk : Disk) :
    Except Failure (List Lens) := do
  match ← textOn document root kind disk with
  | none => return []
  | some text => view (← uriOn document uri disk) (Text.lines text)

theorem looks_metrics : Looks (metrics freshness document root uri)
    (lensesOn document root uri .metrics (metricsOf freshness document)) := by
  refine looks_bind (looks_keptText document root .metrics) fun found => ?_
  cases found with
  | none => exact looks_pure []
  | some text =>
      refine looks_bind (looks_uriOf document uri) fun uri => ?_
      refine Record.looks_collect .metrics _ (fun record _ => ofMetric freshness document uri record) ?_ _
      intro record
      cases record with
      | metric record =>
          unfold ofMetric
          dsimp only
          split
          · exact looks_bind (looks_ofExcept _) fun lens => looks_pure [lens]
          · exact looks_pure []
      | _ => exact looks_pure []

theorem looks_tests : Looks (tests freshness document root uri)
    (lensesOn document root uri .tests (testsOf freshness document)) := by
  refine looks_bind (looks_keptText document root .tests) fun found => ?_
  cases found with
  | none => exact looks_pure []
  | some text =>
      refine looks_bind (looks_uriOf document uri) fun uri => ?_
      have made := looks_bind (Record.looks_ofText .tests text) fun records =>
        looks_mapM (fun shown : Text × Int => looks_ofExcept (ofRecord freshness .tests uri shown.1 shown.2))
          ((Record.latest subject (Record.about document.text records)).filterMap fun record =>
            (outcomeTitle record).map fun title => (title, record.line))
      intro world
      obtain ⟨log, ran⟩ := made world
      refine ⟨log, ran.trans (congrArg _ ?_)⟩
      unfold testsOf Record.reading
      cases Record.stop? .tests (Text.lines text) <;> rfl

section Rewritten
variable {disk : Disk} {place : Location} {content other : List UInt8}
  (there : disk.node? place = some (.file content))
include there

-- Either the file is not the one that is shown, or its text is.
theorem textOn_rewritten (kind : Artifact.Kind) :
    textOn document root kind (disk.set place (.file other)) = textOn document root kind disk ∨
      textOn document root kind disk = .ok (some (Source.textOf content)) ∧
        textOn document root kind (disk.set place (.file other)) = .ok (some (Source.textOf other)) := by
  unfold textOn Artifact.kept?
  dsimp only
  rw [Disk.firstFile?_rewritten other there]
  cases Artifact.firstFile? disk _ with
  | error failure => exact .inl rfl
  | ok found =>
      cases found with
      | none => exact .inl rfl
      | some artifact =>
          simp only [bind, Except.bind]
          rcases Disk.read_rewritten other there artifact with same | ⟨read, rewritten⟩
          · rw [same]
            exact .inl rfl
          · rw [read, rewritten]
            exact .inr ⟨rfl, rfl⟩

theorem lensesOn_rewritten (kind : Artifact.Kind) (view : Text → List Text → Except Failure (List Lens))
    (alike : ∀ uri, view uri (Text.lines (Source.textOf other)) = view uri (Text.lines (Source.textOf content))) :
    lensesOn document root uri kind view (disk.set place (.file other)) =
      lensesOn document root uri kind view disk := by
  have named : uriOn document uri (disk.set place (.file other)) = uriOn document uri disk := by
    simp only [uriOn, Disk.uriOf, Disk.set_home]
  unfold lensesOn
  rw [named]
  rcases textOn_rewritten document root there kind with same | ⟨read, rewritten⟩
  · rw [same]
  · rw [read, rewritten]
    simp only [bind, Except.bind, alike]

end Rewritten

theorem sifts_ofMetric (uri : Text) : Record.Sifts document.text (ofMetric freshness document uri) := by
  intro record other
  cases record with
  | metric record =>
      have apart : ¬ Record.sameFile record.file document.text = true := by
        rw [Bool.not_eq_true]
        exact other
      rw [ofMetric, if_neg apart]
      rfl
  | _ => rfl

theorem sifts_about (file : Text) : Record.Sifts file fun record => .ok (Record.about file [record]) := by
  intro record other
  have sorted : Record.about file [record] = [] := by simp [Record.about, other]
  exact congrArg Except.ok sorted

/-- Lines that say nothing about a document may be inserted anywhere in any file, with any line ends. Both the lenses
of complexities and those of test outcomes stay as they are, whatever the disk, the log and the age of the results. -/
theorem lenses_blind_to_others {world : World} {place : Location} {content : List UInt8}
    (there : world.disk.node? place = some (.file content)) (other : List UInt8) :
    (Padded (Record.Foreign .metrics document.text) (Text.lines (Source.textOf content))
        (Text.lines (Source.textOf other)) →
      (metrics freshness document root uri).outcome { world with disk := world.disk.set place (.file other) } =
        (metrics freshness document root uri).outcome world) ∧
    (Padded (Record.Foreign .tests document.text) (Text.lines (Source.textOf content))
        (Text.lines (Source.textOf other)) →
      (tests freshness document root uri).outcome { world with disk := world.disk.set place (.file other) } =
        (tests freshness document root uri).outcome world) := by
  constructor
  · intro padded
    rw [outcome_of_looks (looks_metrics freshness document root uri),
      outcome_of_looks (looks_metrics freshness document root uri)]
    apply lensesOn_rewritten document root uri there
    intro uri
    exact Record.gathered_padded (sifts_ofMetric freshness document uri) padded
  · intro padded
    rw [outcome_of_looks (looks_tests freshness document root uri),
      outcome_of_looks (looks_tests freshness document root uri)]
    apply lensesOn_rewritten document root uri there
    intro uri
    rw [testsOf, testsOf, Record.about_reading, Record.about_reading,
      Record.gathered_padded (sifts_about document.text) padded]

end Shown

-- A result of a file, and one of another file that shares its line, and its object and test if it has them.
namespace Shared

def own : Report → List UInt8
  | .metrics => Utf8.encode "File:/w/a.lgt;Line:3;Score:7".toList
  | .tests => Utf8.encode "File:/w/a.lgt;Line:3;Object:o;Test:t;Status:passed".toList

def alien : Report → Text
  | .metrics => "File:/w/b.lgt;Line:3;Score:9".toList
  | .tests => "File:/w/b.lgt;Line:3;Object:o;Test:t;Status:failed".toList

def added (report : Report) : List UInt8 := Utf8.encode ("no record\r\x0c".toList ++ alien report)

def document : Path := Path.ofString "/w/a.lgt"

def place (report : Report) : Location := (Path.ofString ("/w/" ++ report.artifact.result)).names

-- The artifact stands beside the document, and holds its record twice.
def world (report : Report) : World where
  disk := ⟨[((Path.ofString "/w").names, .directory),
    (place report, .file (own report ++ Utf8.newline :: own report))], [], {}⟩
  log := ⟨.off, []⟩

-- The records of the other file stand between those of the document.
def crowded (report : Report) : World :=
  let content := own report ++ Utf8.newline :: (added report ++ Utf8.newline :: own report)
  { world report with disk := (world report).disk.set (place report) (.file content) }

theorem foreign (report : Report) (line : Text) (inside : line ∈ Text.lines (Utf8.decode (added report))) :
    Record.Foreign report.artifact document.text line := by
  have divided : Text.lines (Utf8.decode (added report)) = ["no record".toList, [], alien report] := by
    cases report <;> decide +kernel
  rw [divided] at inside
  simp only [List.mem_cons, List.not_mem_nil, or_false] at inside
  rcases inside with rfl | rfl | rfl
  · exact .inl (by cases report <;> decide +kernel)
  · exact .inl (by cases report <;> decide +kernel)
  · cases report with
    | metrics => exact .inr ⟨.metric ⟨"/w/b.lgt".toList, 3, 9⟩, by decide +kernel, by decide +kernel⟩
    | tests =>
        exact .inr ⟨.test ⟨"/w/b.lgt".toList, 3, ['o'], ['t'], "failed".toList, none⟩, by decide +kernel,
          by decide +kernel⟩

theorem padded (report : Report) : Padded (Record.Foreign report.artifact document.text)
    (Text.lines (Source.textOf (own report ++ Utf8.newline :: own report)))
    (Text.lines (Source.textOf (own report ++ Utf8.newline :: (added report ++ Utf8.newline :: own report)))) := by
  unfold Source.textOf
  rw [Text.lines_unifyBreaks, Text.lines_unifyBreaks]
  exact Padded.of_bytes (.inl (.inl rfl)) _ _ (foreign report)

theorem there (report : Report) : (world report).disk.node? (place report) =
    some (.file (own report ++ Utf8.newline :: own report)) := by
  cases report <;> decide +kernel

end Shared

theorem shared_results_shown_as_before :
    (metrics {} Shared.document none none).outcome (Shared.crowded .metrics) = .ok
      [⟨Range.empty ⟨2, 0⟩, .metrics, "Cyclomatic complexity: 7".toList, "file:///w/a.lgt".toList⟩,
        ⟨Range.empty ⟨2, 0⟩, .metrics, "Cyclomatic complexity: 7".toList, "file:///w/a.lgt".toList⟩] ∧
    (tests {} Shared.document none none).outcome (Shared.crowded .tests) = .ok
      [⟨Range.empty ⟨2, 0⟩, .tests, "passed".toList, "file:///w/a.lgt".toList⟩] := by
  constructor
  · rw [Shared.crowded, (lenses_blind_to_others {} _ none none (Shared.there .metrics) _).1 (Shared.padded .metrics)]
    decide +kernel
  · rw [Shared.crowded, (lenses_blind_to_others {} _ none none (Shared.there .tests) _).2 (Shared.padded .tests)]
    decide +kernel

end Lens

end LogtalkNavigation
