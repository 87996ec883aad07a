import LogtalkNavigation.Proofs.Record.Fitness
import LogtalkNavigation.Service.Errand

/-! What is made of records. Those who show records rely on what holds of each record that was read, and check none of
it. Here the checks are put in front of them, with whatever may be done when one fails, and nothing changes; and no
failure of theirs is about an entity of an unknown type or a position before the first. -/

namespace LogtalkNavigation

/-- A failure that is not due to a record that should not be there: an entity of an unknown type, or a coordinate below
zero. -/
def Failure.Excusable : Failure → Prop
  | .unknownEntityType _ => False
  | .positionOutOfRange _ value => maxCoordinate < value
  | _ => True

def Excused {α : Type} (value : Except Failure α) : Prop := ∀ failure, value = .error failure → failure.Excusable

def Act.Careful {α : Type} (action : Act α) : Prop :=
  ∀ world failure, action.outcome world = .error failure → failure.Excusable

section Values
variable {α β : Type}

theorem excused_ok (value : α) : Excused (.ok value) := by
  rintro failure ⟨⟩

theorem excused_error {failure : Failure} (excused : failure.Excusable) : Excused (.error failure : Except Failure α) := by
  rintro _ ⟨⟩
  exact excused

theorem excused_bind {first : Except Failure α} {next : α → Except Failure β} (one : Excused first)
    (rest : ∀ value, first = .ok value → Excused (next value)) : Excused (first >>= next) := by
  cases first with
  | error failure => exact excused_error (one failure rfl)
  | ok value => exact rest value rfl

end Values

namespace Act

variable {α β : Type}

theorem careful_pure (value : α) : (pure value : Act α).Careful := by
  rintro world failure ⟨⟩

theorem careful_throw {failure : Failure} (excused : failure.Excusable) : (throw failure : Act α).Careful := by
  rintro world _ ⟨⟩
  exact excused

theorem careful_note (level : Level) (message : String) : (note level message).Careful := by
  rintro world failure ⟨⟩

theorem careful_disk : disk.Careful := by
  rintro world failure ⟨⟩

theorem careful_ofExcept {value : Except Failure α} (careful : Excused value) :
    (ofExcept value).Careful := by
  cases value with
  | ok value => exact careful_pure value
  | error failure => exact careful_throw (careful failure rfl)

theorem careful_bind {action : Act α} {next : α → Act β} (first : action.Careful)
    (rest : ∀ world value, action.outcome world = .ok value → (next value).Careful) : (action >>= next).Careful := by
  intro world failure failed
  cases ended : action.outcome world with
  | error other =>
      have stopped := bind_failed (failed_of_outcome ended) next
      rw [outcome, stopped] at failed
      cases failed
      exact first world failure ended
  | ok value =>
      have ran := bind_ran (ran_of_outcome ended) next
      rw [outcome, ran] at failed
      exact rest world value ended _ failure failed

theorem careful_mapM {each : α → Act β} {items : List α} (every : ∀ item ∈ items, (each item).Careful) :
    (items.mapM each).Careful := by
  induction items with
  | nil => exact careful_pure []
  | cons item rest ih =>
      rw [List.mapM_cons]
      refine careful_bind (every item List.mem_cons_self) fun _ made _ => ?_
      refine careful_bind (ih fun other inside => every other (List.mem_cons_of_mem _ inside)) fun _ others _ => ?_
      exact careful_pure (made :: others)

end Act

open Act

theorem excused_coordinate (field : String) {value : Int} (counted : 0 ≤ value) :
    Excused (Position.coordinate field value) := by
  unfold Position.coordinate
  split
  case isTrue => exact excused_ok _
  case isFalse outside =>
    split
    case isTrue =>
      refine excused_error ?_
      change (maxCoordinate : Int) < value
      omega
    case isFalse => exact excused_error trivial

theorem excused_ofInts {line character : Int} (rowCounted : 0 ≤ line) (columnCounted : 0 ≤ character) :
    Excused (Position.ofInts line character) :=
  excused_bind (excused_coordinate "line" rowCounted) fun _ _ =>
    excused_bind (excused_coordinate "character" columnCounted) fun _ _ => excused_ok _

theorem excused_onLine {line start stop : Int} (counted : 0 ≤ line) (first : 0 ≤ start) (last : 0 ≤ stop) :
    Excused (Range.onLine line start stop) :=
  excused_bind (excused_ofInts counted first) fun _ _ => excused_bind (excused_ofInts counted last) fun _ _ => excused_ok _

theorem excused_lineStart (index : Int) : Excused (lineStart index) :=
  excused_bind (excused_ofInts (Int.le_max_right index 0) (Int.le_refl 0)) fun _ _ => excused_ok _

theorem Disk.excused_uriOf (disk : Disk) (p : Path) : Excused (disk.uriOf p) := by
  unfold uriOf
  split
  · exact excused_ok _
  · split
    · exact excused_error trivial
    · exact excused_ok _

theorem Disk.excused_read (disk : Disk) (p : Path) : Excused (disk.read p) := by
  rcases disk.read_cases p with ⟨_, failed⟩ | ⟨_, ⟨content, read⟩ | ⟨error, refused, _⟩⟩
  · exact failed ▸ excused_error trivial
  · exact read ▸ excused_ok content
  · exact refused ▸ excused_error trivial

namespace Source

theorem careful_rows (p : Path) : (rows p).Careful := by
  refine careful_bind careful_disk fun _ disk _ => ?_
  have careful := disk.excused_read p
  cases read : disk.read p with
  | ok content => exact careful_pure _
  | error failure =>
      cases failure with
      | os error => exact careful_bind (careful_note _ _) fun _ _ _ => careful_pure none
      | _ => exact careful_throw (careful _ read)

theorem careful_knownRows (known : Known) (p : Path) : (knownRows known p).Careful := by
  unfold knownRows
  split
  · exact careful_pure _
  · exact careful_bind (careful_rows p) fun _ rows _ => careful_pure _

-- A span is only found on a row that is there, and without one the line is not taken from below zero.
theorem careful_locatedOr (p : Path) {index : Int} {found : Except Lost Span}
    (within : ∀ span, found = .ok span → span.Within index) : (locatedOr p index found).Careful := by
  cases found with
  | ok span =>
      have counted := (within span rfl).counted
      exact careful_ofExcept (excused_bind (excused_onLine counted (Int.le_refl 0) (Int.natCast_nonneg _)) fun _ _ =>
        excused_bind (excused_onLine counted (Int.natCast_nonneg _) (Int.natCast_nonneg _)) fun _ _ => excused_ok _)
  | error lost =>
      exact careful_bind (careful_note _ _) fun _ _ _ => careful_ofExcept (excused_lineStart index)

theorem careful_callSites (p : Path) (rows : Option (List Text)) (line : Int) (symbol : Text) :
    (callSites p rows line symbol).Careful := by
  unfold callSites
  dsimp only
  cases found : rowAt rows (line - 1) with
  | error lost => exact careful_bind (careful_note _ _) fun _ _ _ => careful_pure []
  | ok row =>
      have counted := index_of_rowAt rows (line - 1) row found
      dsimp only
      split
      · exact careful_pure []
      · exact careful_mapM fun start _ => careful_ofExcept (excused_onLine counted (by omega) (by omega))

end Source

namespace Record

theorem careful_ofLine? (kind : Artifact.Kind) (line : Text) : (ofLine? kind line).Careful := by
  intro world failure failed
  rw [outcome_of_looks (looks_ofLine? kind line)] at failed
  obtain ⟨count, rfl⟩ := overlong_of_said kind line failure failed
  trivial

theorem careful_collect {α : Type} {kind : Artifact.Kind} {each : Record → Act (List α)}
    (every : ∀ record, Fit kind record → (each record).Careful) (lines : List Text) :
    (collect kind each lines).Careful := by
  induction lines with
  | nil => exact careful_pure []
  | cons line rest ih =>
      refine careful_bind (careful_ofLine? kind line) fun _ found read => ?_
      cases found with
      | none => exact ih
      | some record =>
          refine careful_bind (every record (fit_of_ofLine? read)) fun _ made _ => ?_
          exact careful_bind ih fun _ others _ => careful_pure _

theorem careful_ofText (kind : Artifact.Kind) (text : Text) : (ofText kind text).Careful :=
  careful_collect (fun record _ => careful_pure [record]) (Text.lines text)

theorem careful_first? (kind : Artifact.Kind) (lines : List Text) : (first? kind lines).Careful := by
  induction lines with
  | nil => exact careful_pure none
  | cons line rest ih =>
      refine careful_bind (careful_ofLine? kind line) fun _ found _ => ?_
      cases found with
      | none => exact ih
      | some record => exact careful_pure (some record)

end Record

namespace Hierarchy

theorem careful_uriOf (file : Text) : (uriOf file).Careful :=
  careful_bind careful_disk fun _ disk _ => careful_ofExcept (disk.excused_uriOf (Path.ofText file))

theorem careful_itemOfCall (known : Source.Known) (record : CallFact) : (itemOfCall known record).Careful := by
  refine careful_bind (Source.careful_knownRows known _) fun _ found _ => ?_
  refine careful_bind (Source.careful_locatedOr _ (Source.symbolSpan_within _ _ _)) fun _ located _ => ?_
  exact careful_bind (careful_uriOf record.file) fun _ uri _ => careful_pure _

theorem careful_itemOfEntity (known : Source.Known) {record : EntityFact}
    (typed : ∃ kind, ItemKind.ofEntityType record.entityType = .ok kind) : (itemOfEntity known record).Careful := by
  obtain ⟨kind, named⟩ := typed
  refine careful_bind (Source.careful_knownRows known _) fun _ found _ => ?_
  refine careful_bind (Source.careful_locatedOr _ (Source.entitySpan_within _ _ _)) fun _ located _ => ?_
  refine careful_bind (careful_ofExcept (named ▸ excused_ok kind)) fun _ kind _ => ?_
  exact careful_bind (careful_uriOf record.file) fun _ uri _ => careful_pure _

theorem careful_callsAt (site : CallFact → Path × Int × Text) (known : Source.Known) (records : List CallFact) :
    (callsAt site known records).Careful := by
  induction records generalizing known with
  | nil => exact careful_pure []
  | cons record rest ih =>
      refine careful_bind (careful_itemOfCall known record) fun _ item _ => ?_
      refine careful_bind (Source.careful_knownRows item.2 _) fun _ found _ => ?_
      refine careful_bind (Source.careful_callSites _ _ _ _) fun _ sites _ => ?_
      exact careful_bind (ih found.2) fun _ others _ => careful_pure _

theorem careful_itemsOfEntities (known : Source.Known) {records : List EntityFact}
    (typed : ∀ record ∈ records, ∃ kind, ItemKind.ofEntityType record.entityType = .ok kind) :
    (itemsOfEntities known records).Careful := by
  induction records generalizing known with
  | nil => exact careful_pure []
  | cons record rest ih =>
      refine careful_bind (careful_itemOfEntity known (typed record List.mem_cons_self)) fun _ item _ => ?_
      refine careful_bind (ih item.2 fun other inside => typed other (List.mem_cons_of_mem _ inside)) fun _ others _ => ?_
      exact careful_pure _

theorem careful_typeItems {kind : Artifact.Kind} {records : List Record} (fit : ∀ record ∈ records, Record.Fit kind record) :
    (typeItems (entities records)).Careful :=
  careful_itemsOfEntities [] fun fact inside =>
    Record.typed_of_fit fit fact (mem_of_mem_latest entityKey _ fact inside)

theorem careful_place {record : PlaceFact} (counted : 1 ≤ record.line) : (place record).Careful := by
  refine careful_bind (careful_uriOf record.file) fun _ uri _ => ?_
  refine careful_bind (careful_ofExcept (excused_ofInts (by omega) (Int.le_refl 0))) fun _ position _ => ?_
  exact careful_pure _

theorem careful_placesOfText (text : Text) : (placesOfText text).Careful := by
  refine Record.careful_collect (fun record fit => ?_) (Text.lines text)
  cases record with
  | location record => exact careful_bind (careful_place fit.counted) fun _ made _ => careful_pure [made]
  | _ => exact careful_pure []

theorem careful_typeDefinitionOfText (text : Text) : (typeDefinitionOfText text).Careful := by
  have nothing : (typeDefinition none).Careful := careful_bind (careful_note _ _) fun _ _ _ => careful_pure none
  refine careful_bind (Record.careful_first? .typeDefinition (Text.lines text)) fun _ found read => ?_
  cases found with
  | none => exact nothing
  | some record =>
      have fit := Record.fit_of_first? read
      cases record with
      | location record => exact careful_bind (careful_place fit.counted) fun _ made _ => careful_pure (some made)
      | _ => exact nothing

end Hierarchy

/-- However an artifact is damaged, what it holds for a request is not refused for a record. -/
theorem Request.careful_answer (request : Request) (content : List UInt8) : (request.answer content).Careful := by
  obtain ⟨kind, file, line, character, symbol⟩ := request
  cases kind with
  | incomingCalls | outgoingCalls =>
      refine careful_bind (Record.careful_ofText _ _) fun _ records _ => ?_
      exact careful_bind (Hierarchy.careful_callsAt _ _ _) fun _ calls _ => careful_pure _
  | supertypes | subtypes =>
      refine careful_bind (Record.careful_ofText _ _) fun _ records read => ?_
      exact careful_bind (Hierarchy.careful_typeItems (Record.fit_of_ofText read)) fun _ items _ => careful_pure _
  | references => exact careful_bind (Hierarchy.careful_placesOfText _) fun _ places _ => careful_pure _
  | typeDefinition => exact careful_bind (Hierarchy.careful_typeDefinitionOfText _) fun _ place _ => careful_pure _

theorem Disk.excused_isFile (disk : Disk) (p : Path) : Excused (disk.isFile p) := by
  have excused : Excused (disk.stat p) := by
    unfold stat
    split
    · exact excused_ok none
    · split
      · exact excused_ok _
      · exact excused_ok none
      · exact excused_ok none
      · exact excused_error trivial
  refine excused_bind excused fun found _ => ?_
  split
  · exact excused_ok true
  · exact excused_ok false

theorem Artifact.excused_firstFile? (disk : Disk) (paths : List Path) : Excused (firstFile? disk paths) := by
  induction paths with
  | nil => exact excused_ok none
  | cons p rest ih =>
      refine excused_bind (disk.excused_isFile p) fun found _ => ?_
      cases found with
      | true => exact excused_ok (some p)
      | false => exact ih

namespace Lens

section Shown
variable (freshness : Freshness) (document : Path) (root : Option Path) (uri : Option Text)

theorem careful_keptText (kind : Artifact.Kind) : (keptText root document kind).Careful := by
  refine careful_bind careful_disk fun _ disk _ => ?_
  refine careful_bind (careful_ofExcept (Artifact.excused_firstFile? disk _)) fun _ found _ => ?_
  cases found with
  | none => exact careful_pure none
  | some artifact =>
      dsimp only
      have excused := disk.excused_read artifact
      cases read : disk.read artifact with
      | ok content => exact careful_pure _
      | error failure =>
          cases failure with
          | os error => exact careful_bind (careful_note _ _) fun _ _ _ => careful_pure none
          | _ => exact careful_throw (excused _ read)

theorem excused_ofRecord (kind : Report) (uri title : Text) (line : Int) :
    Excused (ofRecord freshness kind uri title line) :=
  excused_bind (excused_ofInts (Int.le_max_right _ 0) (Int.le_refl 0)) fun _ _ => excused_ok _

theorem careful_uriOf : (uriOf document uri).Careful := by
  have own : (do Act.ofExcept ((← disk).uriOf document) : Act Text).Careful :=
    careful_bind careful_disk fun _ disk _ => careful_ofExcept (disk.excused_uriOf document)
  unfold uriOf
  split
  · exact careful_pure _
  · exact own

theorem careful_metrics : (metrics freshness document root uri).Careful := by
  refine careful_bind (careful_keptText document root .metrics) fun _ found _ => ?_
  cases found with
  | none => exact careful_pure []
  | some text =>
      refine careful_bind (careful_uriOf document uri) fun _ uri _ => Record.careful_collect (fun record _ => ?_) _
      cases record with
      | metric record =>
          dsimp only
          split
          · exact careful_bind (careful_ofExcept (excused_ofRecord freshness _ uri _ _)) fun _ lens _ => careful_pure [lens]
          · exact careful_pure []
      | _ => exact careful_pure []

theorem careful_tests : (tests freshness document root uri).Careful := by
  refine careful_bind (careful_keptText document root .tests) fun _ found _ => ?_
  cases found with
  | none => exact careful_pure []
  | some text =>
      refine careful_bind (careful_uriOf document uri) fun _ uri _ => ?_
      refine careful_bind (Record.careful_ofText .tests text) fun _ records _ => ?_
      exact careful_mapM fun shown _ => careful_ofExcept (excused_ofRecord freshness _ uri _ _)

end Shown

end Lens

namespace Record

def guarded {α : Type} (check : Record → Bool) (each otherwise : Record → Act α) (record : Record) : Act α :=
  if check record then each record else otherwise record

def isMetric : Record → Bool
  | .metric _ => true
  | _ => false

def isOutcome : Record → Bool
  | .test _ | .summary _ | .status _ => true
  | _ => false

theorem Fit.isMetric {record : Record} (fit : Fit .metrics record) : record.isMetric = true := by
  have suits := fit.suits
  cases record with
  | metric record => rfl
  | _ => exact suits.elim

theorem Fit.isOutcome {record : Record} (fit : Fit .tests record) : record.isOutcome = true := by
  have suits := fit.suits
  cases record with
  | test _ | summary _ | status _ => rfl
  | _ => exact suits.elim

/-- A check that holds of all records that are fit changes nothing, whatever is done when it fails. -/
theorem collect_guarded {α : Type} {kind : Artifact.Kind} {check : Record → Bool}
    (holds : ∀ record, Fit kind record → check record = true) (each otherwise : Record → Act (List α)) (lines : List Text) :
    collect kind (guarded check each otherwise) lines = collect kind each lines :=
  collect_congr (fun record fit => if_pos (holds record fit)) lines

end Record

namespace Lens

section Checked
variable (freshness : Freshness) (document : Path) (root : Option Path) (uri : Option Text)

def metricsBy (each : Text → Record → Act (List Lens)) : Act (List Lens) := do
  match ← keptText root document .metrics with
  | none => return []
  | some text =>
    let uri ← uriOf document uri
    Record.collect .metrics (each uri) (Text.lines text)

def shownMetric (uri : Text) : Record → Act (List Lens)
  | .metric record => do
    if Record.sameFile record.file document.text then
      let title := "Cyclomatic complexity: ".toList ++ Text.ofInt record.score
      return [← Act.ofExcept (ofRecord freshness .metrics uri title record.line)]
    else return []
  | _ => return []

theorem metricsBy_shown : metricsBy document root uri (shownMetric freshness document) =
    metrics freshness document root uri := rfl

theorem metricsBy_guarded (otherwise : Record → Act (List Lens)) :
    metricsBy document root uri (fun uri => Record.guarded Record.isMetric (shownMetric freshness document uri) otherwise) =
      metrics freshness document root uri := by
  rw [← metricsBy_shown]
  unfold metricsBy
  simp only [Record.collect_guarded fun record => Record.Fit.isMetric]

def testsBy (each : Text → Record → Act Lens) : Act (List Lens) := do
  match ← keptText root document .tests with
  | none => return []
  | some text =>
    let uri ← uriOf document uri
    let records := Record.about document.text (← Record.ofText .tests text)
    (Record.latest subject records).mapM (each uri)

def shownOutcome (uri : Text) (record : Record) : Act Lens :=
  Act.ofExcept (ofRecord freshness .tests uri ((outcomeTitle record).getD []) record.line)

theorem titled_of_isOutcome {record : Record} (outcome : record.isOutcome = true) :
    ∃ title, outcomeTitle record = some title := by
  cases record with
  | test record =>
      unfold outcomeTitle
      dsimp only
      split <;> exact ⟨_, rfl⟩
  | summary record => exact ⟨record.status, rfl⟩
  | status record => exact ⟨record.status, rfl⟩
  | _ => cases outcome

theorem mapM_shownOutcome (uri : Text) (otherwise : Record → Act Lens) {records : List Record}
    (outcomes : ∀ record ∈ records, record.isOutcome = true) :
    records.mapM (Record.guarded Record.isOutcome (shownOutcome freshness uri) otherwise) =
      (records.filterMap fun record => (outcomeTitle record).map fun title => (title, record.line)).mapM
        fun (title, line) => Act.ofExcept (ofRecord freshness .tests uri title line) := by
  induction records with
  | nil => rfl
  | cons record rest ih =>
      have outcome := outcomes record List.mem_cons_self
      obtain ⟨title, titled⟩ := titled_of_isOutcome outcome
      rw [List.mapM_cons, ih fun other inside => outcomes other (List.mem_cons_of_mem _ inside), List.filterMap_cons, titled]
      rw [Record.guarded, if_pos outcome, shownOutcome, titled, Option.map_some]
      dsimp only
      rw [List.mapM_cons]
      rfl

theorem testsBy_guarded (otherwise : Record → Act Lens) :
    testsBy document root uri (fun uri => Record.guarded Record.isOutcome (shownOutcome freshness uri) otherwise) =
      tests freshness document root uri := by
  refine bind_congr_of_outcome fun _ found _ => ?_
  cases found with
  | none => rfl
  | some text =>
      refine bind_congr_of_outcome fun _ uri _ => bind_congr_of_outcome fun _ records read => ?_
      refine mapM_shownOutcome freshness uri otherwise fun record inside => ?_
      have about := Hierarchy.mem_of_mem_latest subject _ record inside
      exact (Record.fit_of_ofText read record (List.mem_filter.mp about).1).isOutcome

end Checked

end Lens

def Hierarchy.shownPlace : Record → Act (List Place)
  | .location record => return [← place record]
  | _ => return []

theorem Hierarchy.places_guarded (otherwise : Record → Act (List Place)) (text : Text) :
    Record.collect .references (Record.guarded (fun record => 1 ≤ record.line) shownPlace otherwise) (Text.lines text) =
      placesOfText text :=
  Record.collect_guarded (fun _ fit => decide_eq_true fit.counted) shownPlace otherwise (Text.lines text)

namespace Record

/-- Records that are read from any text or bytes are fit, and nobody who goes through an artifact meets others. So a check
of the form of records before lenses are made of them, or of the line before a place is, changes nothing whatever is done
when it fails; and neither lenses nor the answer to a request ever fail for an entity of an unknown type or a position
below zero. -/
theorem parsed_records_fit_consumers :
    (∀ (kind : Artifact.Kind) (world : World) (records : List Record),
      (∀ text, (ofText kind text).outcome world = .ok records → ∀ record ∈ records, Fit kind record) ∧
      ∀ bytes, (ofBytes kind bytes).outcome world = .ok records → ∀ record ∈ records, Fit kind record) ∧
    (∀ (kind : Artifact.Kind) (α : Type) (each other : Record → Act (List α)),
      (∀ record, Fit kind record → each record = other record) → collect kind each = collect kind other) ∧
    (∀ (kind : Artifact.Kind) (lines : List Text) (world : World) (record : Record),
      (first? kind lines).outcome world = .ok (some record) → Fit kind record) ∧
    (∀ (freshness : Freshness) (document : Path) (root : Option Path) (uri : Option Text),
      (∀ otherwise, Lens.metricsBy document root uri
          (fun uri => guarded isMetric (Lens.shownMetric freshness document uri) otherwise) =
        Lens.metrics freshness document root uri) ∧
      (∀ otherwise, Lens.testsBy document root uri
          (fun uri => guarded isOutcome (Lens.shownOutcome freshness uri) otherwise) =
        Lens.tests freshness document root uri) ∧
      (Lens.metrics freshness document root uri).Careful ∧ (Lens.tests freshness document root uri).Careful) ∧
    (∀ (otherwise : Record → Act (List Place)) (text : Text),
      collect .references (guarded (fun record => 1 ≤ record.line) Hierarchy.shownPlace otherwise) (Text.lines text) =
        Hierarchy.placesOfText text) ∧
    ∀ (request : Request) (content : List UInt8), (request.answer content).Careful := by
  refine ⟨fun kind world records => ⟨fun text => fit_of_ofText, fun bytes => fit_of_ofText⟩, ?_, ?_, ?_, ?_, ?_⟩
  · intro kind α each other same
    exact funext (collect_congr same)
  · intro kind lines world record
    exact fit_of_first?
  · intro freshness document root uri
    exact ⟨Lens.metricsBy_guarded freshness document root uri, Lens.testsBy_guarded freshness document root uri,
      Lens.careful_metrics freshness document root uri, Lens.careful_tests freshness document root uri⟩
  · exact Hierarchy.places_guarded
  · exact Request.careful_answer

-- An artifact with a line that is no text, and an entity of which name and file are badly written.
namespace Garbled

def world : World := { disk := ⟨[], [], {}⟩, log := ⟨.off, []⟩ }

def bytes : List UInt8 :=
  [0xFF, 0x0A] ++ Utf8.encode "Type:protocol;Name:".toList ++ [0xC3] ++
    Utf8.encode ";File:\t C:\\\\x//y.lgt ;Line:007\n".toList

def record : Record := .entity ⟨"protocol".toList, ['\uFFFD'], "C:/x/y.lgt".toList, 7⟩

end Garbled

theorem garbled_entity_fit :
    (ofBytes .ancestors Garbled.bytes).outcome Garbled.world = .ok [Garbled.record] ∧ Fit .ancestors Garbled.record := by
  have read : (ofBytes .ancestors Garbled.bytes).outcome Garbled.world = .ok [Garbled.record] := by decide +kernel
  refine ⟨read, ?_⟩
  obtain ⟨parsed, _⟩ := parsed_records_fit_consumers
  exact (parsed .ancestors Garbled.world [Garbled.record]).2 Garbled.bytes read Garbled.record List.mem_cons_self

end Record

end LogtalkNavigation
