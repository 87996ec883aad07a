import LogtalkNavigation.Hierarchy
import LogtalkNavigation.Proofs.Disk.Frame
import LogtalkNavigation.Proofs.Record.Latest
import LogtalkNavigation.Proofs.Record.Sequence
import LogtalkNavigation.Proofs.Text.Scan

/-! When the records of an artifact cannot be shown. A record that can be read may still name a line or a
row that no position reaches, or a file whose name no call on files takes. Showing it then ends in a
failure that is not contained, and nothing is shown of the others either. -/

namespace LogtalkNavigation

open Act

def Beyond (value : Int) : Prop := value < 0 ∨ maxCoordinate < value

theorem sorts_coordinate (field : String) (value : Int) :
    Sorts (Position.coordinate field value) (Beyond value) := by
  unfold Position.coordinate
  split
  case isTrue within => exact .inr ⟨by unfold Beyond; omega, value.toNat, rfl⟩
  case isFalse outside =>
    have beyond : Beyond value := by
      unfold Beyond
      omega
    split
    case isTrue => exact .inl ⟨beyond, _, rfl, rfl⟩
    case isFalse => exact .inl ⟨beyond, _, rfl, rfl⟩

theorem sorts_ofInts (line character : Int) :
    Sorts (Position.ofInts line character) (Beyond line ∨ Beyond character) := by
  refine Sorts.congr (sorts_bind (sorts_coordinate "line" line) fun row _ =>
    sorts_bind (sorts_coordinate "character" character) fun column _ => sorts_pure _) ?_
  rw [or_false]

theorem sorts_onLine (line start stop : Int) :
    Sorts (Range.onLine line start stop) (Beyond line ∨ Beyond start ∨ Beyond stop) := by
  refine Sorts.congr (sorts_bind (sorts_ofInts line start) fun first _ =>
    sorts_bind (sorts_ofInts line stop) fun last _ => sorts_pure _) ?_
  grind

theorem sorts_lineStart (index : Int) : Sorts (lineStart index) (maxCoordinate < index) := by
  refine Sorts.congr (sorts_bind (sorts_ofInts (max index 0) 0) fun position _ =>
    sorts_pure _) ?_
  have top : (maxCoordinate : Int) = 2147483647 := rfl
  unfold Beyond
  rw [or_false]
  constructor <;> omega

def Path.Adrift (p : Path) : Prop := p.isAbsolute = false ∧ '\x00' ∈ p.text

theorem Disk.sorts_uriOf (disk : Disk) (p : Path) : Sorts (disk.uriOf p) p.Adrift := by
  unfold uriOf Path.Adrift
  split
  case isTrue absolute => exact .inr ⟨by simp [absolute], _, rfl⟩
  case isFalse relative =>
    have apart : p.isAbsolute = false := Bool.eq_false_iff.mpr relative
    split
    case isTrue nul => exact .inl ⟨⟨apart, by simpa using nul⟩, _, rfl, rfl⟩
    case isFalse clean => exact .inr ⟨fun adrift => clean (by simpa using adrift.2), _, rfl⟩

theorem shows_uriOf (disk : Disk) (file : Text) :
    Shows disk (Hierarchy.uriOf file) (Path.ofText file).Adrift fun _ => True := by
  refine Shows.congr (shows_bind shows_disk fun found same => ?_) (iff_of_eq (false_or _))
  rw [same]
  exact (shows_ofExcept (disk.sorts_uriOf (Path.ofText file))).weaken fun _ _ => trivial

namespace Source

def rowsOn (disk : Disk) (p : Path) : Option (List Text) :=
  match disk.read p with
  | .ok content => some (Text.rows (textOf content))
  | .error _ => none

theorem shows_rows (disk : Disk) (p : Path) :
    Shows disk (rows p) (disk.Chokes p) fun found => found = rowsOn disk p ∧ ¬ disk.Chokes p := by
  intro world same
  subst same
  rw [rows, disk_bind]
  unfold rowsOn
  rcases world.disk.read_cases p with
    ⟨chokes, failed⟩ | ⟨fine, ⟨content, read⟩ | ⟨error, refused, _⟩⟩
  · rw [failed]
    exact ⟨world.log, .inl ⟨chokes, .nulInPath, rfl, rfl⟩⟩
  · rw [read]
    exact ⟨world.log, .inr ⟨fine, _, ⟨rfl, fine⟩, rfl⟩⟩
  · rw [refused]
    exact ⟨_, .inr ⟨fine, none, ⟨rfl, fine⟩, rfl⟩⟩

-- What is known of files is what reading them again would give.
def Faithful (disk : Disk) (known : Known) : Prop :=
  ∀ p rows, known.lookup p = some rows → rows = rowsOn disk p ∧ ¬ disk.Chokes p

theorem faithful_nil (disk : Disk) : Faithful disk [] := fun _ _ found => nomatch found

theorem faithful_append (disk : Disk) (known : Known) (p : Path) (faithful : Faithful disk known)
    (fine : ¬ disk.Chokes p) : Faithful disk (known ++ [(p, rowsOn disk p)]) := by
  intro q rows found
  rw [List.lookup_append] at found
  cases before : known.lookup q with
  | some old =>
      rw [before] at found
      cases found
      exact faithful q rows before
  | none =>
      rw [before, Option.none_or, List.lookup_cons, List.lookup_nil] at found
      by_cases same : q = p
      · subst same
        simp only [beq_self_eq_true, Option.some.injEq] at found
        exact ⟨found.symm, fine⟩
      · rw [beq_eq_false_iff_ne.mpr same] at found
        cases found

theorem shows_knownRows (disk : Disk) (known : Known) (p : Path) (faithful : Faithful disk known) :
    Shows disk (knownRows known p) (disk.Chokes p)
      fun found => found.1 = rowsOn disk p ∧ Faithful disk found.2 := by
  unfold knownRows
  split
  case h_1 rows before =>
    obtain ⟨same, fine⟩ := faithful p rows before
    exact (shows_pure (rows, known) _ ⟨same, faithful⟩).congr (iff_of_false id fine)
  case h_2 unknown =>
    refine Shows.congr (shows_bind (shows_rows disk p) fun rows good => ?_) (iff_of_eq (or_false _))
    obtain ⟨same, fine⟩ := good
    subst same
    exact shows_pure _ _ ⟨rfl, faithful_append disk known p faithful fine⟩

-- The span lies within its row, and the row is not in front of the first one.
structure Span.Within (span : Span) (index : Int) : Prop where
  counted : 0 ≤ index
  ordered : span.start ≤ span.stop
  inside : span.stop ≤ span.row.length

theorem index_of_rowAt (rows : Option (List Text)) (index : Int) (row : Text)
    (found : rowAt rows index = .ok row) : 0 ≤ index := by
  unfold rowAt at found
  split at found
  case h_1 => cases found
  case h_2 =>
    split at found
    case isTrue => cases found
    case isFalse counted => omega

theorem indexOf_bound (part text : Text) (start : Nat) (found : Text.indexOf? part text = some start) :
    start + part.length ≤ text.length := by
  induction text generalizing start with
  | nil =>
      unfold Text.indexOf? at found
      split at found
      case isTrue empty =>
        cases found
        simp [List.isEmpty_iff.mp empty]
      case isFalse => cases found
  | cons c text ih =>
      unfold Text.indexOf? at found
      split at found
      case isTrue starts =>
        cases found
        have short := (List.isPrefixOf_iff_prefix.mp starts).length_le
        omega
      case isFalse =>
        obtain ⟨later, further, same⟩ := Option.map_eq_some_iff.mp found
        have bound := ih later further
        rw [← same, List.length_cons]
        omega

theorem symbolSpan_within (rows : Option (List Text)) (index : Int) (symbol : Text) (span : Span)
    (found : symbolSpan rows index symbol = .ok span) : span.Within index := by
  unfold symbolSpan at found
  cases row : rowAt rows index with
  | error lost => rw [row] at found; cases found
  | ok text =>
      rw [row] at found
      simp only [bind, Except.bind] at found
      split at found
      case h_1 start at_ =>
        cases found
        split at at_
        case isTrue => cases at_
        case isFalse =>
          exact ⟨index_of_rowAt rows index text row, Nat.le_add_right _ _, indexOf_bound _ _ _ at_⟩
      case h_2 => cases found

theorem directiveOffset_bound (name text : Text) (offset : Nat)
    (found : directiveOffset? name text = some offset) : offset + name.length ≤ text.length := by
  unfold directiveOffset? at found
  obtain ⟨opener, _, opened⟩ := List.exists_of_findSome?_eq_some found
  obtain ⟨rest, tagged, named⟩ := Option.bind_eq_some_iff.mp opened
  obtain ⟨behind, spelled, ended⟩ := Option.bind_eq_some_iff.mp named
  have whole := (Text.after_eq_some_iff _ _ _).mp tagged
  have argument := congrArg List.length ((Text.after_eq_some_iff _ _ _).mp spelled)
  have shorter := (List.dropWhile_suffix Text.isBlank : rest.dropWhile Text.isBlank <:+ rest).length_le
  split at ended
  case isTrue =>
    cases ended
    rw [List.length_append] at argument
    have total : rest.length ≤ text.length := by
      rw [whole, List.length_append]
      omega
    omega
  case isFalse => cases ended

theorem directiveColumnFrom_bound (name : Text) (word : Bool) (column : Nat) (text : Text) (start : Nat)
    (found : directiveColumnFrom name word column text = some start) :
    start + name.length ≤ column + text.length := by
  induction text generalizing word column with
  | nil => cases found
  | cons c rest ih =>
      unfold directiveColumnFrom at found
      split at found
      case h_1 offset here =>
        cases found
        split at here
        case isTrue => cases here
        case isFalse =>
          have bound := directiveOffset_bound name (c :: rest) offset here
          omega
      case h_2 =>
        have bound := ih _ _ found
        rw [List.length_cons]
        omega

theorem entitySpan_within (rows : Option (List Text)) (index : Int) (entity : Text) (span : Span)
    (found : entitySpan rows index entity = .ok span) : span.Within index := by
  unfold entitySpan at found
  cases row : rowAt rows index with
  | error lost => rw [row] at found; cases found
  | ok text =>
      rw [row] at found
      simp only [bind, Except.bind] at found
      split at found
      case h_1 start directive =>
        cases found
        split at directive
        case isTrue => cases directive
        case isFalse =>
          have bound := directiveColumnFrom_bound _ _ _ _ _ directive
          exact ⟨index_of_rowAt rows index text row, Nat.le_add_right _ _, by simpa using bound⟩
      case h_2 => exact symbolSpan_within rows index _ span found

/-- No range says where the span is: its index, or the end of its row, is beyond every position. Of a
span that is lost, the index alone counts. -/
def Misplaced (index : Int) (found : Except Lost Span) : Prop :=
  maxCoordinate < index ∨ ∃ span, found = .ok span ∧ maxCoordinate < span.row.length

theorem sorts_located (span : Span) (index : Int) (within : span.Within index) :
    Sorts (span.located index) (Misplaced index (.ok span)) := by
  refine Sorts.congr (sorts_bind (sorts_onLine index 0 span.row.length) fun whole _ =>
    sorts_bind (sorts_onLine index span.start span.stop) fun part _ => sorts_pure _) ?_
  obtain ⟨counted, ordered, inside⟩ := within
  have only : (∃ other, (.ok span : Except Lost Span) = .ok other ∧
      maxCoordinate < other.row.length) ↔ maxCoordinate < span.row.length := by
    simp
  rw [Misplaced, only, or_false]
  unfold Beyond
  constructor <;> omega

theorem shows_locatedOr (disk : Disk) (p : Path) (index : Int) (found : Except Lost Span)
    (within : ∀ span, found = .ok span → span.Within index) :
    Shows disk (locatedOr p index found) (Misplaced index found) fun _ => True := by
  cases found with
  | ok span => exact (shows_ofExcept (sorts_located span index (within span rfl))).weaken fun _ _ => trivial
  | error lost =>
      refine Shows.congr (shows_bind (shows_note _ _) fun _ _ =>
        (shows_ofExcept (sorts_lineStart index)).weaken fun _ _ => trivial) ?_
      simp [Misplaced]

def SiteBeyond (rows : Option (List Text)) (line : Int) (symbol : Text) : Prop :=
  ∃ row, rowAt rows (line - 1) = .ok row ∧ Symbol.bare symbol ≠ [] ∧
    ∃ start ∈ Text.occurrences (Symbol.bare symbol) row,
      (maxCoordinate : Int) < line - 1 ∨ maxCoordinate < start + (Symbol.bare symbol).length

theorem shows_callSites (disk : Disk) (p : Path) (rows : Option (List Text)) (line : Int)
    (symbol : Text) :
    Shows disk (callSites p rows line symbol) (SiteBeyond rows line symbol) fun _ => True := by
  unfold callSites SiteBeyond
  dsimp only
  cases found : rowAt rows (line - 1) with
  | error lost =>
      refine Shows.congr (shows_bind (shows_note _ _) fun _ _ => shows_pure [] _ trivial) ?_
      simp
  | ok row =>
      have counted := index_of_rowAt rows (line - 1) row found
      dsimp only
      split
      case isTrue empty =>
        refine (shows_pure [] _ trivial).congr ?_
        simp [List.isEmpty_iff.mp empty]
      case isFalse filled =>
        have named : Symbol.bare symbol ≠ [] := fun empty => filled (List.isEmpty_iff.mpr empty)
        refine Shows.congr (shows_mapM _ fun (start : Nat) _ =>
          (shows_ofExcept (sorts_onLine (line - 1) start
            (start + (Symbol.bare symbol).length))).weaken fun _ _ => trivial) ?_
        -- The start of a place is no further than its end, and a row that is found is counted.
        have each (start : Nat) : (Beyond (line - 1) ∨ Beyond start ∨
            Beyond (start + (Symbol.bare symbol).length)) ↔ ((maxCoordinate : Int) < line - 1 ∨
              maxCoordinate < start + (Symbol.bare symbol).length) := by
          unfold Beyond
          constructor <;> omega
        simp only [each, named, Except.ok.injEq, ne_eq, not_false_eq_true, true_and, exists_eq_left']

end Source

namespace Hierarchy

open Source

def Unplaced (disk : Disk) (file : Text) (line : Int)
    (span : Option (List Text) → Int → Except Lost Span) : Prop :=
  disk.Chokes (Path.ofText file) ∨
    Misplaced (line - 1) (span (rowsOn disk (Path.ofText file)) (line - 1)) ∨ (Path.ofText file).Adrift

def CallUnplaced (disk : Disk) (record : CallFact) : Prop :=
  Unplaced disk record.file record.line fun rows index => symbolSpan rows index record.name

def EntityUnplaced (disk : Disk) (record : EntityFact) : Prop :=
  Unplaced disk record.file record.line fun rows index => entitySpan rows index record.name

def SiteUnplaced (disk : Disk) (site : Path × Int × Text) : Prop :=
  disk.Chokes site.1 ∨ SiteBeyond (rowsOn disk site.1) site.2.1 site.2.2

theorem shows_itemOfCall (disk : Disk) (known : Known) (record : CallFact)
    (faithful : Faithful disk known) :
    Shows disk (itemOfCall known record) (CallUnplaced disk record)
      fun found => Faithful disk found.2 := by
  refine Shows.congr (shows_bind (shows_knownRows disk known (Path.ofText record.file) faithful)
    fun found good => ?_) Iff.rfl
  obtain ⟨rows, known⟩ := found
  obtain ⟨rfl, faithful⟩ := good
  refine Shows.congr (shows_bind (shows_locatedOr disk _ (record.line - 1) _ fun span found =>
    symbolSpan_within _ _ _ span found) fun located _ => ?_) Iff.rfl
  refine Shows.congr (shows_bind (shows_uriOf disk record.file) fun uri _ =>
    shows_pure _ _ faithful) (iff_of_eq (or_false _))

theorem shows_itemOfEntity (disk : Disk) (known : Known) (record : EntityFact)
    (faithful : Faithful disk known)
    (typed : ∃ kind, ItemKind.ofEntityType record.entityType = .ok kind) :
    Shows disk (itemOfEntity known record) (EntityUnplaced disk record)
      fun found => Faithful disk found.2 := by
  obtain ⟨kind, known_⟩ := typed
  refine Shows.congr (shows_bind (shows_knownRows disk known (Path.ofText record.file) faithful)
    fun found good => ?_) Iff.rfl
  obtain ⟨rows, known⟩ := found
  obtain ⟨rfl, faithful⟩ := good
  refine Shows.congr (shows_bind (shows_locatedOr disk _ (record.line - 1) _ fun span found =>
    entitySpan_within _ _ _ span found) fun located _ => ?_) Iff.rfl
  rw [known_]
  refine Shows.congr (shows_bind (shows_ofExcept (sorts_pure kind)) fun kind _ =>
    shows_bind (shows_uriOf disk record.file) fun uri _ => shows_pure _ _ faithful) ?_
  rw [false_or, or_false]

theorem shows_callsAt (disk : Disk) (site : CallFact → Path × Int × Text) (known : Known)
    (records : List CallFact) (faithful : Faithful disk known) :
    Shows disk (callsAt site known records)
      (∃ record ∈ records, CallUnplaced disk record ∨ SiteUnplaced disk (site record))
      fun _ => True := by
  induction records generalizing known with
  | nil => exact (shows_pure [] _ trivial).congr (by simp)
  | cons record rest ih =>
      have either : (CallUnplaced disk record ∨ SiteUnplaced disk (site record) ∨
          ∃ other ∈ rest, CallUnplaced disk other ∨ SiteUnplaced disk (site other)) ↔
            ∃ other ∈ record :: rest, CallUnplaced disk other ∨ SiteUnplaced disk (site other) := by
        simp only [List.mem_cons, exists_eq_or_imp, or_assoc]
      refine Shows.congr (shows_bind (shows_itemOfCall disk known record faithful)
        fun found faithful => ?_) either
      obtain ⟨item, known⟩ := found
      refine Shows.congr (shows_bind (shows_knownRows disk known (site record).1 faithful)
        fun found good => ?_) or_assoc.symm
      obtain ⟨rows, known⟩ := found
      obtain ⟨rfl, faithful⟩ := good
      refine shows_bind (shows_callSites disk _ _ _ _) fun sites _ => ?_
      refine Shows.congr (shows_bind (ih known faithful) fun calls _ => shows_pure _ _ trivial)
        (iff_of_eq (or_false _))

theorem shows_itemsOfEntities (disk : Disk) (known : Known) (records : List EntityFact)
    (faithful : Faithful disk known)
    (typed : ∀ record ∈ records, ∃ kind, ItemKind.ofEntityType record.entityType = .ok kind) :
    Shows disk (itemsOfEntities known records) (∃ record ∈ records, EntityUnplaced disk record)
      fun _ => True := by
  induction records generalizing known with
  | nil => exact (shows_pure [] _ trivial).congr (by simp)
  | cons record rest ih =>
      have either : (EntityUnplaced disk record ∨ ∃ other ∈ rest, EntityUnplaced disk other) ↔
          ∃ other ∈ record :: rest, EntityUnplaced disk other := by
        simp only [List.mem_cons, exists_eq_or_imp]
      refine Shows.congr (shows_bind (shows_itemOfEntity disk known record faithful
        (typed record List.mem_cons_self)) fun found faithful => ?_) either
      obtain ⟨item, known⟩ := found
      refine Shows.congr (shows_bind (ih known faithful fun other inside =>
        typed other (List.mem_cons_of_mem _ inside)) fun items _ => shows_pure _ _ trivial)
          (iff_of_eq (or_false _))

def PlaceUnplaced (record : PlaceFact) : Prop :=
  (Path.ofText record.file).Adrift ∨ Beyond (record.line - 1)

theorem shows_place (disk : Disk) (record : PlaceFact) :
    Shows disk (place record) (PlaceUnplaced record) fun _ => True := by
  refine Shows.congr (shows_bind (shows_uriOf disk record.file) fun uri _ =>
    shows_bind (shows_ofExcept (sorts_ofInts (record.line - 1) 0)) fun position _ =>
      shows_pure _ _ trivial) ?_
  have start : ¬ Beyond 0 := by
    have top : (maxCoordinate : Int) = 2147483647 := rfl
    unfold Beyond
    omega
  simp only [PlaceUnplaced, start, or_false]

theorem mem_of_mem_latest {α κ : Type} [DecidableEq κ] (key : α → κ) (records : List α) (record : α)
    (inside : record ∈ Record.latest key records) : record ∈ records := by
  obtain ⟨before, after, rfl, _⟩ := (Record.mem_latest_iff key records record).mp inside
  exact List.mem_append_right before List.mem_cons_self

theorem typed_of_entityOfLine (kind : Artifact.Kind) (line : Text) (record : EntityFact)
    (read : Record.entityOfLine kind line = .ok (.entity record)) :
    ∃ kind, ItemKind.ofEntityType record.entityType = .ok kind := by
  have words : ∀ word ∈ Record.entityTypes, ∃ kind, ItemKind.ofEntityType word.toList = .ok kind := by
    intro word inside
    simp only [Record.entityTypes, List.mem_cons, List.not_mem_nil, or_false] at inside
    rcases inside with rfl | rfl | rfl
    · exact ⟨.object, rfl⟩
    · exact ⟨.protocol, rfl⟩
    · exact ⟨.category, rfl⟩
  unfold Record.entityOfLine at read
  split at read
  case h_1 entityType name file digits fields =>
    cases counted : Record.positiveLine kind line digits with
    | error failure => rw [counted] at read; cases read
    | ok row =>
        rw [counted] at read
        cases read
        obtain ⟨rest, _, found⟩ := Option.bind_eq_some_iff.mp fields
        obtain ⟨word, listed, chosen⟩ := List.exists_of_findSome?_eq_some found
        obtain ⟨_, _, chosen⟩ := Option.bind_eq_some_iff.mp chosen
        obtain ⟨_, _, chosen⟩ := Option.bind_eq_some_iff.mp chosen
        obtain ⟨_, _, chosen⟩ := Option.bind_eq_some_iff.mp chosen
        cases chosen
        exact words word listed
  case h_2 => cases read

section Answers
variable (disk : Disk)

theorem shows_incomingCalls (symbol : Text) (records : List CallFact) :
    Shows disk (incomingCalls symbol records)
      (∃ record ∈ Record.latest callKey records, CallUnplaced disk record ∨
        SiteUnplaced disk (Path.ofText record.file, record.line, symbol)) fun _ => True :=
  shows_callsAt disk _ [] _ (faithful_nil disk)

theorem shows_outgoingCalls (p : Path) (line : Int) (records : List CallFact) :
    Shows disk (outgoingCalls p line records)
      (∃ record ∈ Record.latest callKey records, CallUnplaced disk record ∨
        SiteUnplaced disk (p, line, record.name)) fun _ => True :=
  shows_callsAt disk _ [] _ (faithful_nil disk)

theorem shows_typeItems (records : List EntityFact)
    (typed : ∀ record ∈ records, ∃ kind, ItemKind.ofEntityType record.entityType = .ok kind) :
    Shows disk (typeItems records)
      (∃ record ∈ Record.latest entityKey records, EntityUnplaced disk record) fun _ => True :=
  shows_itemsOfEntities disk [] _ (faithful_nil disk) fun record inside =>
    typed record (mem_of_mem_latest entityKey records record inside)

def UnplacedLocation : Record → Prop
  | .location record => PlaceUnplaced record
  | _ => False

theorem shows_placesOfText (text : Text) :
    Shows disk (placesOfText text) (Record.Faulty .references UnplacedLocation (Text.lines text))
      fun _ => True := by
  refine Record.shows_collect .references _ UnplacedLocation (fun record => ?_) (Text.lines text)
  cases record with
  | location record =>
      refine Shows.congr (shows_bind (shows_place disk record) fun made _ => shows_pure [made] _ trivial) ?_
      simp [UnplacedLocation]
  | call _ | entity _ | test _ | summary _ | status _ | metric _ => exact shows_pure [] _ trivial

def DefinitionUnplaced (lines : List Text) : Prop :=
  (∃ failure, Record.foremost? .typeDefinition lines = some (.error failure)) ∨
    ∃ record, Record.foremost? .typeDefinition lines = some (.ok record) ∧ UnplacedLocation record

theorem shows_typeDefinitionOfText (text : Text) :
    Shows disk (typeDefinitionOfText text) (DefinitionUnplaced (Text.lines text)) fun _ => True := by
  refine shows_bind (Record.shows_first? .typeDefinition (Text.lines text)) fun found first => ?_
  rw [first]
  have nothing : Shows disk (typeDefinition none) False fun _ => True :=
    Shows.congr (shows_bind (shows_note _ _) fun _ _ => shows_pure none _ trivial) (by simp)
  cases found with
  | none => exact nothing.congr (by simp)
  | some record =>
      cases record with
      | location record =>
          refine Shows.congr (shows_bind (shows_place disk record) fun made _ =>
            shows_pure (some made) _ trivial) ?_
          simp [UnplacedLocation]
      | call _ | entity _ | test _ | summary _ | status _ | metric _ =>
          exact nothing.congr (by simp [UnplacedLocation])

end Answers

end Hierarchy

end LogtalkNavigation
