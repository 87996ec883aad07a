import LogtalkNavigation.Proofs.Hierarchy
import LogtalkNavigation.Proofs.Position
import LogtalkNavigation.Proofs.Text.Search

/-! What is answered about a line of a source file. A file is read, and the answer is made of its rows alone; so it can
be said without the log and without the world. A symbol is found at the first of its places on the line, and its
places are stretches of that line. -/

namespace LogtalkNavigation.Source

open Act

def rowsRead (disk : Disk) (p : Path) : Except Failure (Option (List Text)) :=
  match disk.read p with
  | .ok content => .ok (some (Text.rows (textOf content)))
  | .error (.os _) => .ok none
  | .error failure => .error failure

theorem looks_rows (p : Path) : Looks (rows p) fun disk => rowsRead disk p := by
  apply looks_disk_bind
  intro disk
  unfold rowsRead
  cases disk.read p with
  | ok content => exact looks_pure _
  | error failure =>
      cases failure with
      | os error => exact looks_bind (looks_note _ _) fun _ => looks_pure none
      | _ => exact looks_throw _

theorem rowsRead_eq_ok_iff (disk : Disk) (p : Path) (rows : Option (List Text)) :
    rowsRead disk p = .ok rows ↔ rows = rowsOn disk p ∧ ¬ disk.Chokes p := by
  unfold rowsRead rowsOn
  rcases disk.read_cases p with ⟨chokes, failed⟩ | ⟨fine, ⟨content, read⟩ | ⟨error, refused, _⟩⟩
  · rw [failed]
    simp [chokes]
  · rw [read]
    simp [fine, eq_comm]
  · rw [refused]
    simp [fine, eq_comm]

def LineIs (disk : Disk) (p : Path) (line : Int) (row : Text) : Prop :=
  ∃ rows, rowsOn disk p = some rows ∧ 1 ≤ line ∧ rows[(line - 1).toNat]? = some row

theorem rowAt_eq_ok_iff (rows : Option (List Text)) (index : Int) (row : Text) :
    rowAt rows index = .ok row ↔ ∃ found, rows = some found ∧ 0 ≤ index ∧ found[index.toNat]? = some row := by
  cases rows with
  | none => simp [rowAt]
  | some found =>
      rw [rowAt]
      split
      case isTrue early =>
        constructor
        · intro taken
          cases taken
        · rintro ⟨_, _, counted, _⟩
          omega
      case isFalse counted =>
        cases taken : found[index.toNat]? with
        | none => simp [taken]
        | some other => simp [taken, Int.not_lt.mp counted]

theorem rowAt_eq_ok_iff_lineIs (disk : Disk) (p : Path) (line : Int) (row : Text) :
    rowAt (rowsOn disk p) (line - 1) = .ok row ↔ LineIs disk p line row := by
  rw [rowAt_eq_ok_iff, LineIs]
  apply exists_congr
  intro found
  rw [show 0 ≤ line - 1 ↔ 1 ≤ line by omega]

theorem LineIs.unique {disk : Disk} {p : Path} {line : Int} {row other : Text} (is : LineIs disk p line row)
    (same : LineIs disk p line other) : row = other := by
  rw [← rowAt_eq_ok_iff_lineIs] at is same
  rw [is] at same
  exact Except.ok.inj same

-- A name that no file has stops everything; otherwise the answer is that for the rows on the disk.
theorem reading_eq_ok_iff {α : Type} (value : Option (List Text) → Except Failure α) (disk : Disk) (p : Path)
    (found : α) : (rowsRead disk p >>= value) = .ok found ↔
      ¬ disk.Chokes p ∧ value (rowsOn disk p) = .ok found := by
  constructor
  · intro answered
    obtain ⟨rows, read, answered⟩ := ok_of_bind answered
    obtain ⟨rfl, fine⟩ := (rowsRead_eq_ok_iff disk p rows).mp read
    exact ⟨fine, answered⟩
  · rintro ⟨fine, answered⟩
    rw [(rowsRead_eq_ok_iff disk p _).mpr ⟨rfl, fine⟩]
    exact answered

def placed (index : Int) : Except Lost Span → Except Failure Located
  | .ok span => span.located index
  | .error _ => lineStart index

theorem looks_locatedOr (p : Path) (index : Int) (found : Except Lost Span) :
    Looks (locatedOr p index found) fun _ => placed index found := by
  cases found with
  | ok span => exact looks_ofExcept _
  | error lost => exact looks_bind (looks_note _ _) fun _ => looks_ofExcept _

theorem looks_locate (p : Path) (line : Int) (symbol : Text) :
    Looks (locate p line symbol) fun disk =>
      rowsRead disk p >>= fun found => placed (line - 1) (symbolSpan found (line - 1) symbol) :=
  looks_bind (looks_rows p) fun found => looks_locatedOr p (line - 1) (symbolSpan found (line - 1) symbol)

theorem outcome_locate (p : Path) (line : Int) (symbol : Text) (world : World) (located : Located) :
    (locate p line symbol).outcome world = .ok located ↔ ¬ world.disk.Chokes p ∧
      placed (line - 1) (symbolSpan (rowsOn world.disk p) (line - 1) symbol) = .ok located := by
  rw [outcome_of_looks (looks_locate p line symbol), reading_eq_ok_iff]

-- On one disk the second reading finds the rows that the first one has found.
theorem simulates_locateEntity (disk : Disk) (p : Path) (line : Int) (entity : Text) :
    Simulates disk Eq (locateEntity p line entity)
      (rowsRead disk p >>= fun found => placed (line - 1) (entitySpan found (line - 1) entity)) := by
  apply simulates_look_bind (looks_rows p)
  intro found read
  unfold entitySpan
  cases rowAt found (line - 1) with
  | error lost => exact simulates_of_looks (looks_locatedOr p (line - 1) (.error lost))
  | ok row =>
      dsimp only [bind, Except.bind]
      cases if (entityName entity).isEmpty then none else directiveColumn? (entityName entity) row with
      | some start => exact simulates_of_looks (looks_locatedOr p (line - 1) (.ok _))
      | none =>
          have second := @simulates_of_looks _ disk _ _
            (looks_locate p line (if (entityName entity).isEmpty then entity else entityName entity))
          rw [read] at second
          exact second

theorem outcome_locateEntity (p : Path) (line : Int) (entity : Text) (world : World) (located : Located) :
    (locateEntity p line entity).outcome world = .ok located ↔ ¬ world.disk.Chokes p ∧
      placed (line - 1) (entitySpan (rowsOn world.disk p) (line - 1) entity) = .ok located := by
  rw [outcome_of_simulates (simulates_locateEntity world.disk p line entity), reading_eq_ok_iff]

theorem located_eq_ok_iff (span : Span) (index : Int) (located : Located) :
    span.located index = .ok located ↔ ∃ line : Nat, index = line ∧ line ≤ maxCoordinate ∧
      span.row.length ≤ maxCoordinate ∧ span.start ≤ maxCoordinate ∧ span.stop ≤ maxCoordinate ∧
      located = ⟨.stretch line 0 span.row.length, .stretch line span.start span.stop⟩ := by
  constructor
  · intro made
    obtain ⟨whole, began, rest⟩ := ok_of_bind made
    obtain ⟨part, chosen, made⟩ := ok_of_bind rest
    cases made
    obtain ⟨line, rfl, counted, _, long, rfl⟩ := (onLine_eq_ok_iff index 0 span.row.length whole).mp began
    obtain ⟨_, same, _, early, late, rfl⟩ := (onLine_eq_ok_iff line span.start span.stop part).mp chosen
    obtain rfl := Int.ofNat_inj.mp same
    exact ⟨line, rfl, counted, long, early, late, rfl⟩
  · rintro ⟨line, rfl, counted, long, early, late, rfl⟩
    have whole := (onLine_eq_ok_iff line 0 span.row.length _).mpr ⟨line, rfl, counted, Nat.zero_le _, long, rfl⟩
    have part := (onLine_eq_ok_iff line span.start span.stop _).mpr ⟨line, rfl, counted, early, late, rfl⟩
    have zero : ((0 : Nat) : Int) = 0 := rfl
    rw [zero] at whole
    rw [Span.located, whole, part]
    rfl

theorem symbolSpan_eq_ok_iff (rows : Option (List Text)) (index : Int) (symbol : Text) (span : Span) :
    symbolSpan rows index symbol = .ok span ↔ rowAt rows index = .ok span.row ∧ Symbol.bare symbol ≠ [] ∧
      Text.FirstAt (Symbol.bare symbol) span.row span.start ∧
      span.stop = span.start + (Symbol.bare symbol).length := by
  unfold symbolSpan
  cases found : rowAt rows index with
  | error lost =>
      constructor
      · intro made
        cases made
      · rintro ⟨absent, _⟩
        cases absent
  | ok row =>
      dsimp only [bind, Except.bind]
      by_cases empty : Symbol.bare symbol = []
      · simp [empty]
      · rw [if_neg (by simpa using empty)]
        obtain ⟨text, start, stop⟩ := span
        dsimp only
        constructor
        · intro made
          split at made
          case h_1 column found =>
            cases made
            exact ⟨rfl, empty, (Text.indexOf?_eq_some_iff empty _).mp found, rfl⟩
          case h_2 => cases made
        · rintro ⟨same, _, first, rfl⟩
          cases same
          rw [(Text.indexOf?_eq_some_iff empty start).mpr first]
          rfl

def columns (rows : Option (List Text)) (index : Int) (symbol : Text) : List Nat :=
  match rowAt rows index with
  | .error _ => []
  | .ok row => if (Symbol.bare symbol).isEmpty then [] else Text.occurrences (Symbol.bare symbol) row

theorem columns_of_row {rows : Option (List Text)} {index : Int} {row : Text} (found : rowAt rows index = .ok row)
    (symbol : Text) (named : Symbol.bare symbol ≠ []) :
    columns rows index symbol = Text.occurrences (Symbol.bare symbol) row := by
  rw [columns, found]
  exact if_neg (by simpa using named)

theorem columns_eq_nil_iff (rows : Option (List Text)) (index : Int) (symbol : Text) :
    columns rows index symbol = [] ↔
      ∀ row, rowAt rows index = .ok row → Symbol.bare symbol = [] ∨ ¬ Symbol.bare symbol <:+: row := by
  by_cases empty : Symbol.bare symbol = []
  · unfold columns
    split <;> simp [empty]
  · cases found : rowAt rows index with
    | error lost => simp [columns, found]
    | ok row => simp [columns_of_row found symbol empty, Text.occurrences_eq_nil_iff empty, empty]

theorem looks_callSites (p : Path) (rows : Option (List Text)) (line : Int) (symbol : Text) :
    Looks (callSites p rows line symbol) fun _ => (columns rows (line - 1) symbol).mapM fun (start : Nat) =>
      Range.onLine (line - 1) start (start + (Symbol.bare symbol).length) := by
  unfold callSites columns
  dsimp only
  cases rowAt rows (line - 1) with
  | error lost => exact looks_bind (looks_note _ _) fun _ => looks_pure []
  | ok row =>
      dsimp only
      split
      · exact looks_pure []
      · exact looks_mapM (fun _ => looks_ofExcept _) _

def ranges (found : Option (List Text)) (line : Int) (symbol : Text) : Except Failure (List Range) :=
  (columns found (line - 1) symbol).mapM fun (start : Nat) =>
    Range.onLine (line - 1) start (start + (Symbol.bare symbol).length)

theorem looks_sites (p : Path) (line : Int) (symbol : Text) :
    Looks (sites p line symbol) fun disk => rowsRead disk p >>= fun found => ranges found line symbol :=
  looks_bind (looks_rows p) fun found => looks_callSites p found line symbol

theorem outcome_sites (p : Path) (line : Int) (symbol : Text) (world : World) (ranges : List Range) :
    (sites p line symbol).outcome world = .ok ranges ↔ ¬ world.disk.Chokes p ∧
      (∀ start ∈ columns (rowsOn world.disk p) (line - 1) symbol, 0 ≤ line - 1 ∧ line - 1 ≤ maxCoordinate ∧
        start + (Symbol.bare symbol).length ≤ maxCoordinate) ∧
      ranges = (columns (rowsOn world.disk p) (line - 1) symbol).map fun start =>
        .stretch (line - 1).toNat start (start + (Symbol.bare symbol).length) := by
  have each (start : Nat) (range : Range) :
      Range.onLine (line - 1) start (start + (Symbol.bare symbol).length) = .ok range ↔
        (0 ≤ line - 1 ∧ line - 1 ≤ maxCoordinate ∧ start + (Symbol.bare symbol).length ≤ maxCoordinate) ∧
          range = .stretch (line - 1).toNat start (start + (Symbol.bare symbol).length) := by
    rw [← Int.natCast_add, onLine_eq_ok_iff]
    constructor
    · rintro ⟨index, same, counted, _, within, rfl⟩
      rw [same, Int.toNat_natCast]
      exact ⟨⟨by omega, by omega, within⟩, rfl⟩
    · rintro ⟨⟨least, most, within⟩, rfl⟩
      exact ⟨(line - 1).toNat, by omega, by omega, by omega, within, rfl⟩
  rw [outcome_of_looks (looks_sites p line symbol), reading_eq_ok_iff, Source.ranges, mapM_eq_ok_iff each]

end LogtalkNavigation.Source
