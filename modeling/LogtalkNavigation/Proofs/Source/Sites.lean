import LogtalkNavigation.Proofs.Source.Answers

/-! The places of a symbol on a line. They are those that a search from left to right meets, so that every place where
the name stands is one of them or overlaps one. The first is what is selected where a single place is asked for. -/

namespace LogtalkNavigation.Source

open Act

structure Covers (name row : Text) (line : Int) (range : Range) : Prop where
  starts : (range.start.line : Int) = line - 1
  stops : (range.stop.line : Int) = line - 1
  ordered : range.start.character ≤ range.stop.character
  inside : range.stop.character ≤ row.length
  covered : (row.drop range.start.character).take (range.stop.character - range.start.character) = name

theorem covers_stretch {name row : Text} {line : Int} {start : Nat} (counted : 1 ≤ line) (nonempty : name ≠ [])
    (there : name <+: row.drop start) :
    Covers name row line (.stretch (line - 1).toNat start (start + name.length)) := by
  have index : ((line - 1).toNat : Int) = line - 1 := Int.toNat_of_nonneg (by omega)
  have covered : (row.drop start).take (start + name.length - start) = name := by
    rw [Nat.add_sub_cancel_left]
    exact (List.prefix_iff_eq_take.mp there).symm
  exact ⟨index, index, Nat.le_add_right _ _, Text.end_le_of_stands nonempty there, covered⟩

/-- Why a symbol has no place: the file cannot be read, it has no such line, there is no name, or the line is
without it. -/
def Unfound (disk : Disk) (p : Path) (line : Int) (symbol : Text) : Prop :=
  rowsOn disk p = none ∨ (∃ rows, rowsOn disk p = some rows ∧ (line < 1 ∨ rows.length < line)) ∨
    Symbol.bare symbol = [] ∨ ∃ row, LineIs disk p line row ∧ ¬ Symbol.bare symbol <:+: row

theorem lineIs_or_lost (disk : Disk) (p : Path) (line : Int) :
    (∃ row, LineIs disk p line row) ∨ rowsOn disk p = none ∨
      ∃ rows, rowsOn disk p = some rows ∧ (line < 1 ∨ rows.length < line) := by
  cases read : rowsOn disk p with
  | none => exact .inr (.inl rfl)
  | some rows =>
      by_cases outside : line < 1 ∨ rows.length < line
      · exact .inr (.inr ⟨rows, rfl, outside⟩)
      · have within : (line - 1).toNat < rows.length := by omega
        exact .inl ⟨_, rows, read, by omega, List.getElem?_eq_getElem within⟩

theorem not_lost_of_lineIs {disk : Disk} {p : Path} {line : Int} {row : Text} (is : LineIs disk p line row) :
    rowsOn disk p ≠ none ∧ ¬ ∃ rows, rowsOn disk p = some rows ∧ (line < 1 ∨ rows.length < line) := by
  obtain ⟨rows, read, counted, taken⟩ := is
  have within := (List.getElem?_eq_some_iff.mp taken).1
  constructor
  · rw [read]
    exact Option.some_ne_none rows
  · rintro ⟨others, same, outside⟩
    rw [read] at same
    cases same
    omega

theorem unfound_iff (disk : Disk) (p : Path) (line : Int) (symbol : Text) :
    Unfound disk p line symbol ↔
      ∀ row, LineIs disk p line row → Symbol.bare symbol = [] ∨ ¬ Symbol.bare symbol <:+: row := by
  constructor
  · intro unfound row is
    obtain ⟨readable, inside⟩ := not_lost_of_lineIs is
    rcases unfound with unreadable | outside | empty | ⟨other, same, missing⟩
    · exact absurd unreadable readable
    · exact absurd outside inside
    · exact .inl empty
    · cases is.unique same
      exact .inr missing
  · intro absent
    rcases lineIs_or_lost disk p line with ⟨row, is⟩ | unreadable | outside
    · rcases absent row is with empty | missing
      · exact .inr (.inr (.inl empty))
      · exact .inr (.inr (.inr ⟨row, is, missing⟩))
    · exact .inl unreadable
    · exact .inr (.inl outside)

theorem columns_eq_nil_iff_unfound (disk : Disk) (p : Path) (line : Int) (symbol : Text) :
    columns (rowsOn disk p) (line - 1) symbol = [] ↔ Unfound disk p line symbol := by
  simp only [columns_eq_nil_iff, rowAt_eq_ok_iff_lineIs, unfound_iff]

theorem unfound_of_lost {disk : Disk} {p : Path} {line : Int} {symbol : Text} {lost : Lost}
    (failed : symbolSpan (rowsOn disk p) (line - 1) symbol = .error lost) : Unfound disk p line symbol := by
  apply (unfound_iff disk p line symbol).mpr
  intro row is
  by_cases empty : Symbol.bare symbol = []
  · exact .inl empty
  · right
    rw [← Text.indexOf?_eq_none_iff empty, Option.eq_none_iff_forall_ne_some]
    intro start found
    have taken := (rowAt_eq_ok_iff_lineIs disk p line row).mpr is
    have first := (Text.indexOf?_eq_some_iff empty start).mp found
    have spanned := (symbolSpan_eq_ok_iff (rowsOn disk p) (line - 1) symbol
      ⟨row, start, start + (Symbol.bare symbol).length⟩).mpr ⟨taken, empty, first, rfl⟩
    rw [failed] at spanned
    cases spanned

def spanning (line : Int) (row name : Text) (column : Nat) : Located :=
  ⟨.stretch (line - 1).toNat 0 row.length, .stretch (line - 1).toNat column (column + name.length)⟩

theorem locate_cases {world : World} {p : Path} {line : Int} {symbol : Text} {located : Located}
    (found : (locate p line symbol).outcome world = .ok located) :
    (Unfound world.disk p line symbol ∧ located = .atStart (line - 1).toNat) ∨
      ∃ row column, LineIs world.disk p line row ∧ Symbol.bare symbol ≠ [] ∧
        Text.FirstAt (Symbol.bare symbol) row column ∧ located = spanning line row (Symbol.bare symbol) column := by
  obtain ⟨_, answer⟩ := (outcome_locate p line symbol world located).mp found
  cases spanned : symbolSpan (rowsOn world.disk p) (line - 1) symbol with
  | error lost =>
      rw [spanned] at answer
      exact .inl ⟨unfound_of_lost spanned, ((lineStart_eq_ok_iff _ _).mp answer).2⟩
  | ok span =>
      rw [spanned] at answer
      obtain ⟨taken, named, first, stop⟩ := (symbolSpan_eq_ok_iff _ _ _ _).mp spanned
      obtain ⟨index, same, _, _, _, _, rfl⟩ := (located_eq_ok_iff _ _ _).mp answer
      have counted : index = (line - 1).toNat := by omega
      refine .inr ⟨span.row, span.start, (rowAt_eq_ok_iff_lineIs _ _ _ _).mp taken, named, first, ?_⟩
      rw [spanning, stop, counted]

def site (line : Int) (symbol : Text) (start : Nat) : Range :=
  .stretch (line - 1).toNat start (start + (Symbol.bare symbol).length)

theorem map_site_start (line : Int) (symbol : Text) (columns : List Nat) :
    (columns.map (site line symbol)).map (·.start.character) = columns := by
  rw [List.map_map]
  exact List.map_id columns

-- Either both searches find nothing, or the first place of the one is the place of the other.
theorem columns_of_located {world : World} {p : Path} {line : Int} {symbol : Text} {located : Located}
    (found : (locate p line symbol).outcome world = .ok located) :
    (columns (rowsOn world.disk p) (line - 1) symbol = [] ∧ located = .atStart (line - 1).toNat) ∨
      ∃ start rest, columns (rowsOn world.disk p) (line - 1) symbol = start :: rest ∧
        located.selection = site line symbol start ∧ located ≠ .atStart (line - 1).toNat := by
  rcases locate_cases found with ⟨unfound, start⟩ | ⟨row, column, is, named, first, rfl⟩
  · exact .inl ⟨(columns_eq_nil_iff_unfound _ _ _ _).mpr unfound, start⟩
  · have head := (Text.meets_occurrences named row).head?_eq_some_iff column
    rw [← columns_of_row ((rowAt_eq_ok_iff_lineIs _ _ _ _).mpr is) symbol named] at head
    obtain ⟨rest, columns⟩ := List.head?_eq_some_iff.mp (head.mpr first)
    refine .inr ⟨column, rest, columns, rfl, ?_⟩
    -- What is selected has a name in it, so it is not empty.
    intro empty
    have last : column + (Symbol.bare symbol).length = 0 := congrArg (·.selection.stop.character) empty
    have filled := List.length_pos_iff.mpr named
    omega

/-- The places of a symbol on a line lie within the line and cover its name. They are in order and apart from each
other, each is the first from the end of the one before, and no place where the name stands is without one that it
overlaps. There are none exactly if the symbol is not to be found. Where a single place is found, it is the first of
them, and where the start of the line stands in for it, there are none. -/
theorem sites_are_all_occurrences {world : World} {p : Path} {line : Int} {symbol : Text} {ranges : List Range}
    (answered : (sites p line symbol).outcome world = .ok ranges) :
    (∀ row, LineIs world.disk p line row →
      (∀ range ∈ ranges, Covers (Symbol.bare symbol) row line range) ∧
      ranges.Pairwise (fun earlier later => earlier.start.character < later.start.character ∧
        earlier.stop.character ≤ later.start.character) ∧
      (Symbol.bare symbol ≠ [] → Text.Meets (Symbol.bare symbol) row 0 (ranges.map (·.start.character)) ∧
        ∀ column, Symbol.bare symbol <+: row.drop column → ∃ range ∈ ranges,
          range.start.character < column + (Symbol.bare symbol).length ∧ column < range.stop.character)) ∧
    (ranges = [] ↔ Unfound world.disk p line symbol) ∧
    ∀ located, (locate p line symbol).outcome world = .ok located →
      (ranges = [] ↔ located = .atStart (line - 1).toNat) ∧ ∀ first ∈ ranges.head?, located.selection = first := by
  obtain ⟨_, _, made⟩ := (outcome_sites p line symbol world ranges).mp answered
  replace made : ranges = (columns (rowsOn world.disk p) (line - 1) symbol).map (site line symbol) := made
  subst made
  refine ⟨?_, ?_, ?_⟩
  · intro row is
    have counted : 1 ≤ line := by
      obtain ⟨_, _, counted, _⟩ := is
      exact counted
    by_cases empty : Symbol.bare symbol = []
    · have nothing : columns (rowsOn world.disk p) (line - 1) symbol = [] :=
        (columns_eq_nil_iff_unfound _ _ _ _).mpr (.inr (.inr (.inl empty)))
      rw [nothing]
      exact ⟨by simp, by simp, fun named => absurd empty named⟩
    · have meets := Text.meets_occurrences empty row
      have filled := List.length_pos_iff.mpr empty
      rw [columns_of_row ((rowAt_eq_ok_iff_lineIs _ _ _ _).mpr is) symbol empty]
      refine ⟨?_, ?_, fun _ => ⟨?_, ?_⟩⟩
      · intro range inside
        obtain ⟨start, met, rfl⟩ := List.mem_map.mp inside
        exact covers_stretch counted empty (meets.stands start met).2
      · apply List.pairwise_map.mpr
        apply meets.disjoint.imp
        intro earlier later apart
        exact ⟨show earlier < later by omega, apart⟩
      · rw [map_site_start]
        exact meets
      · intro column there
        obtain ⟨start, met, before, behind⟩ := meets.overlaps empty (Nat.zero_le column) there
        exact ⟨site line symbol start, List.mem_map_of_mem met, before, behind⟩
  · rw [List.map_eq_nil_iff]
    exact columns_eq_nil_iff_unfound world.disk p line symbol
  · intro located found
    rcases columns_of_located found with ⟨nothing, start⟩ | ⟨first, rest, columns, selected, apart⟩
    · rw [nothing]
      exact ⟨iff_of_true rfl start, by simp⟩
    · rw [columns]
      constructor
      · exact iff_of_false (by simp) apart
      · rintro range ⟨⟩
        exact selected

namespace Lone

def file : Path := Path.ofString "/f"

def world (text : Text) : World := ⟨⟨[([⟨['f'], by decide⟩], .file (Utf8.encode text))], [], {}⟩, ⟨.off, []⟩, {}⟩

end Lone

-- A name that overlaps itself, on the second line of a file.
namespace Overlapping

def world : World := Lone.world "b.\r\n aaaaa, aa".toList

def symbol : Text := "x::aa/1".toList

theorem lineIs : LineIs world.disk Lone.file 2 " aaaaa, aa".toList :=
  ⟨["b.".toList, " aaaaa, aa".toList], by decide +kernel, by decide, rfl⟩

end Overlapping

theorem overlapping_places_met_once :
    (sites Lone.file 2 Overlapping.symbol).outcome Overlapping.world =
      .ok [.stretch 1 1 3, .stretch 1 3 5, .stretch 1 8 10] ∧
    Text.Meets ['a', 'a'] " aaaaa, aa".toList 0 [1, 3, 8] ∧
    (locate Lone.file 2 Overlapping.symbol).outcome Overlapping.world =
      .ok ⟨.stretch 1 0 10, .stretch 1 1 3⟩ := by
  have answered : (sites Lone.file 2 Overlapping.symbol).outcome Overlapping.world =
      .ok [.stretch 1 1 3, .stretch 1 3 5, .stretch 1 8 10] := rfl
  obtain ⟨placed, _, _⟩ := sites_are_all_occurrences answered
  obtain ⟨_, _, met⟩ := placed _ Overlapping.lineIs
  exact ⟨answered, (met (by decide)).1, rfl⟩

end LogtalkNavigation.Source
