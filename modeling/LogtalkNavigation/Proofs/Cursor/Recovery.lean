import LogtalkNavigation.Proofs.Cursor.Qualified
import LogtalkNavigation.Proofs.Record.Files
import LogtalkNavigation.Proofs.Source.Sites
import LogtalkNavigation.Proofs.Text.Numeral

/-! Symbols under the cursor, found again on their line. The name of a call is put together from the word under the
cursor and an arity; taken apart again, it gives what stands behind the qualifier of the word. That stands in the row
of the cursor, so it is found in every file that has this row. -/

namespace LogtalkNavigation

namespace Text

theorem afterLast?_colons {name : Text} (absent : ':' ∉ name) (front : Text) :
    afterLast? [':', ':'] (front ++ ':' :: ':' :: name) = some name := by
  apply afterLast?_append
  have second : after? [':', ':'] (':' :: name) = none := after?_of_notMem [] absent
  rw [afterLast?, afterLast?, afterLast?_of_notMem [':'] absent, second]
  rfl

end Text

namespace Cursor

open Text

theorem trimmed_of_visible {text : Text} (visible : ∀ c ∈ text, isBlank c = false) : Trimmed text := by
  constructor
  · intro c first
    exact visible c (List.mem_of_mem_head? first)
  · intro c last
    exact visible c (List.mem_of_mem_getLast? last)

theorem Letters.starts {name : Text} (letters : Letters name) : ∃ c rest, name = c :: rest ∧ isWord c = true := by
  obtain ⟨c, rest, rfl⟩ := List.exists_cons_of_ne_nil letters.1
  exact ⟨c, rest, rfl, letters.2 c List.mem_cons_self⟩

theorem Written.starts {word qualifier name : Text} (written : Written word qualifier name) :
    ∃ c rest, word = c :: rest ∧ isBlank c = false := by
  rw [written.divided]
  cases written.qualified with
  | absent =>
      rcases written.named with letters | ⟨_, rest, rfl, _⟩
      · obtain ⟨c, rest, rfl, letter⟩ := letters.starts
        exact ⟨c, rest, rfl, word_not_blank c letter⟩
      · exact ⟨'@', rest, rfl, rfl⟩
  | toSelf => exact ⟨':', ':' :: name, rfl, rfl⟩
  | inherited => exact ⟨'^', '^' :: name, rfl, rfl⟩
  | object letters =>
      obtain ⟨c, rest, rfl, letter⟩ := letters.starts
      exact ⟨c, _, rfl, word_not_blank c letter⟩
  | parametric letters flat =>
      obtain ⟨c, rest, rfl, letter⟩ := letters.starts
      exact ⟨c, _, rfl, word_not_blank c letter⟩

theorem dropArity_numbered (front : Text) {c : Char} (letter : isWord c = true) (arity : Nat) :
    Symbol.dropArity (front ++ [c] ++ '/' :: ofNat arity) = front ++ [c] := by
  have digits : ∀ d ∈ (ofNat arity).reverse, isDigit d = true := by
    simpa using isDigit_of_mem_ofNat arity
  have filled := List.length_pos_iff.mpr (ofNat_ne_nil arity)
  have cut : (front ++ [c] ++ '/' :: ofNat arity).reverse.dropWhile isDigit = '/' :: c :: front.reverse := by
    rw [List.reverse_append, List.reverse_cons, List.append_assoc, List.dropWhile_append_of_pos digits,
      List.singleton_append, List.reverse_concat]
    rfl
  have shorter : ('/' :: c :: front.reverse).length ≠ (front ++ [c] ++ '/' :: ofNat arity).length := by
    simp
    omega
  rw [Symbol.dropArity, cut, if_neg shorter]
  split
  case h_1 rest same =>
    cases same
    cases letter
  case h_2 rest _ same =>
    cases same
    simp
  case h_3 _ none => exact absurd rfl (none _)

theorem trimmed_numbered {word qualifier name : Text} (written : Written word qualifier name) (arity : Nat) :
    Trimmed (word ++ '/' :: ofNat arity) := by
  obtain ⟨first, rest, rfl, visible⟩ := written.starts
  constructor
  · rintro c ⟨⟩
    exact visible
  · intro c last
    have inside : c ∈ ofNat arity := by
      rw [List.getLast?_append, List.getLast?_cons_of_ne_nil (ofNat_ne_nil arity),
        List.getLast?_eq_some_getLast (ofNat_ne_nil arity)] at last
      cases last
      exact List.getLast_mem _
    exact digit_not_blank c (isDigit_of_mem_ofNat arity c inside)

theorem Written.notMem_name {word qualifier name : Text} (written : Written word qualifier name) {c : Char}
    (odd : isWord c = false) (other : c ≠ '@') : c ∉ name := by
  rcases written.named with letters | ⟨_, rest, rfl, letters⟩
  · exact letters.notMem odd
  · exact List.not_mem_cons_of_ne_of_not_mem other (letters.notMem odd)

theorem Qualifier.cases_mark {qualifier : Text} (qualified : Qualifier qualifier) :
    qualifier = [] ∨ qualifier = ['^', '^'] ∨ ∃ front, qualifier = front ++ [':', ':'] := by
  cases qualified with
  | absent => exact .inl rfl
  | toSelf => exact .inr (.inr ⟨[], rfl⟩)
  | inherited => exact .inr (.inl rfl)
  | object letters => exact .inr (.inr ⟨_, rfl⟩)
  | @parametric object inner letters flat => exact .inr (.inr ⟨object ++ '(' :: (inner ++ [')']), by simp⟩)

/-- What is left of the symbol of a call is the name that was written behind the qualifier. -/
theorem bare_written {word qualifier name : Text} (written : Written word qualifier name) (arity : Nat) :
    Symbol.bare (word ++ '/' :: ofNat arity) = name := by
  have colon : ':' ∉ name := written.notMem_name rfl (by decide)
  have caret : after? ['^', '^'] name = none := after?_of_notMem ['^'] (written.notMem_name rfl (by decide))
  have whole : trim name = name := trim_of_trimmed name (trimmed_of_visible written.name_visible)
  have numbered : Symbol.dropArity (word ++ '/' :: ofNat arity) = word := by
    obtain ⟨front, c, rfl, letter⟩ := written.ends
    exact dropArity_numbered front letter arity
  rw [Symbol.bare, trim_of_trimmed _ (trimmed_numbered written arity), numbered, written.divided]
  rcases written.qualified.cases_mark with rfl | rfl | ⟨front, rfl⟩
  · rw [List.nil_append, afterLast?_of_notMem [':'] colon, Option.getD_none, caret]
    exact whole
  · have plain : ':' ∉ ['^', '^'] ++ name := by simpa using colon
    rw [afterLast?_of_notMem [':'] plain, Option.getD_none, after_append, Option.getD_some]
    exact whole
  · rw [List.append_assoc]
    have last : afterLast? [':', ':'] (front ++ ([':', ':'] ++ name)) = some name := afterLast?_colons colon front
    rw [last, Option.getD_some, caret]
    exact whole

end Cursor

namespace Source

theorem not_chokes_of_lineIs {disk : Disk} {p : Path} {line : Int} {row : Text} (is : LineIs disk p line row) :
    ¬ disk.Chokes p := by
  intro chokes
  obtain ⟨rows, read, _⟩ := is
  rcases disk.read_cases p with ⟨_, failed⟩ | ⟨fine, _⟩
  · rw [rowsOn, failed] at read
    cases read
  · exact fine chokes

structure Found (world : World) (p : Path) (line : Int) (symbol row : Text) : Prop where
  selected : ∃ located, (locate p line symbol).outcome world = .ok located ∧
    located.selection.start.character < located.selection.stop.character ∧
    Covers (Symbol.bare symbol) row line located.selection
  called : ∃ ranges, (sites p line symbol).outcome world = .ok ranges ∧ ranges ≠ []

section Standing
variable {world : World} {p : Path} {line : Int} {symbol row : Text} (is : LineIs world.disk p line row)
  (named : Symbol.bare symbol ≠ [])
include is named

theorem sites_answered (low : line - 1 ≤ maxCoordinate) (short : row.length ≤ maxCoordinate) :
    ∃ ranges, (sites p line symbol).outcome world = .ok ranges := by
  have taken := (rowAt_eq_ok_iff_lineIs _ _ _ _).mpr is
  have fine := not_chokes_of_lineIs is
  refine ⟨_, (outcome_sites _ _ _ _ _).mpr ⟨fine, ?_, rfl⟩⟩
  rw [columns_of_row taken symbol named]
  intro start met
  have within := Text.end_le_of_stands named ((Text.meets_occurrences named row).stands start met).2
  obtain ⟨_, _, counted, _⟩ := is
  exact ⟨by omega, low, by omega⟩

variable (there : Symbol.bare symbol <:+: row)
include there

theorem not_unfound : ¬ Unfound world.disk p line symbol := by
  intro unfound
  rcases (unfound_iff _ _ _ _).mp unfound row is with empty | missing
  · exact named empty
  · exact missing there

theorem selected_of_located {located : Located} (found : (locate p line symbol).outcome world = .ok located) :
    located.selection.start.character < located.selection.stop.character ∧
      Covers (Symbol.bare symbol) row line located.selection := by
  rcases locate_cases found with ⟨unfound, _⟩ | ⟨other, column, same, _, first, rfl⟩
  · exact absurd unfound (not_unfound is named there)
  · cases is.unique same
    obtain ⟨_, _, counted, _⟩ := is
    have filled := List.length_pos_iff.mpr named
    exact ⟨Nat.lt_add_of_pos_right filled, covers_stretch counted named first.1⟩

theorem called_of_sites {ranges : List Range} (found : (sites p line symbol).outcome world = .ok ranges) :
    ranges ≠ [] := by
  obtain ⟨_, _, rfl⟩ := (outcome_sites _ _ _ _ _).mp found
  intro empty
  exact not_unfound is named there ((columns_eq_nil_iff_unfound _ _ _ _).mp (List.map_eq_nil_iff.mp empty))

theorem span_of_standing : ∃ column, Text.FirstAt (Symbol.bare symbol) row column ∧
    symbolSpan (rowsOn world.disk p) (line - 1) symbol =
      .ok ⟨row, column, column + (Symbol.bare symbol).length⟩ := by
  have taken := (rowAt_eq_ok_iff_lineIs _ _ _ _).mpr is
  cases found : Text.indexOf? (Symbol.bare symbol) row with
  | none => exact absurd there ((Text.indexOf?_eq_none_iff named row).mp found)
  | some column =>
      have first := (Text.indexOf?_eq_some_iff named column).mp found
      exact ⟨column, first, (symbolSpan_eq_ok_iff _ _ _ _).mpr ⟨taken, named, first, rfl⟩⟩

-- What stops the answer is a line that no position reaches, or a row that is too long for one.
theorem located_iff : (∃ located, (locate p line symbol).outcome world = .ok located) ↔
    line - 1 ≤ maxCoordinate ∧ row.length ≤ maxCoordinate := by
  obtain ⟨column, first, spanned⟩ := span_of_standing is named there
  have within := Text.end_le_of_stands named first.1
  simp only [outcome_locate, spanned, placed, located_eq_ok_iff]
  constructor
  · rintro ⟨_, _, index, same, low, short, _⟩
    exact ⟨by omega, short⟩
  · rintro ⟨low, short⟩
    have fine := not_chokes_of_lineIs is
    obtain ⟨_, _, counted, _⟩ := is
    exact ⟨_, fine, (line - 1).toNat, by omega, by omega, short, by omega, by omega, rfl⟩

theorem found_iff : Found world p line symbol row ↔ line - 1 ≤ maxCoordinate ∧ row.length ≤ maxCoordinate := by
  constructor
  · rintro ⟨⟨located, found, _⟩, _⟩
    exact (located_iff is named there).mp ⟨located, found⟩
  · rintro ⟨low, short⟩
    obtain ⟨located, found⟩ := (located_iff is named there).mpr ⟨low, short⟩
    obtain ⟨ranges, answered⟩ := sites_answered is named low short
    constructor
    · exact ⟨located, found, selected_of_located is named there found⟩
    · exact ⟨ranges, answered, called_of_sites is named there answered⟩

end Standing

end Source

namespace Cursor

open Text Source

/-- The bare name of the symbol under the cursor is the word there without its qualifier. In every file with the row
of the cursor at the line of the cursor it is found again, as far as positions reach. -/
theorem symbol_found_on_its_line {document : Text} {line character : Int} {symbol : Text}
    (answered : call? document line character = .ok (some symbol)) :
    ∃ row word qualifier before behind, row? (Text.rows document) line = some row ∧
      touched? character (calls row) = some word ∧ word.Stands row before behind ∧
      Written word.text qualifier (Symbol.bare symbol) ∧ Symbol.bare symbol ≠ [] ∧
      ∀ (world : World) (p : Path), LineIs world.disk p (line + 1) row →
        (Found world p (line + 1) symbol row ↔ line ≤ maxCoordinate ∧ row.length ≤ maxCoordinate) ∧
        (∀ located, (locate p (line + 1) symbol).outcome world = .ok located → Found world p (line + 1) symbol row) ∧
        ∀ ranges, (sites p (line + 1) symbol).outcome world = .ok ranges → ranges ≠ [] := by
  obtain ⟨word, arity, found, _, _, rfl⟩ := (call?_eq_ok_iff _ _ _ _).mp answered
  obtain ⟨row, taken, touched⟩ := Option.bind_eq_some_iff.mp found
  obtain ⟨before, behind, qualifier, name, stands, written⟩ := stands_of_touched touched
  have bare := bare_written written arity
  have named : name ≠ [] := by
    rcases written.named with letters | ⟨_, rest, rfl, _⟩
    · exact letters.1
    · exact List.cons_ne_nil _ _
  have there : name <:+: row := by
    refine ⟨before ++ qualifier, behind, ?_⟩
    rw [stands.1, written.divided]
    simp
  have index : line + 1 - 1 = line := Int.add_sub_cancel line 1
  rw [← bare] at written named there
  refine ⟨row, word, qualifier, before, behind, taken, touched, stands, written, named, ?_⟩
  intro world p is
  have reached := found_iff is named there
  have located := located_iff is named there
  rw [index] at reached located
  refine ⟨reached, ?_, ?_⟩
  · intro place chosen
    exact reached.mpr (located.mp ⟨place, chosen⟩)
  · intro ranges sited
    exact called_of_sites is named there sited

-- A call to an object with a parameter that looks like a call itself.
namespace Parameters

def row : Text := "  o(a::b/2, c)::go(X), go.".toList

def document : Text := "p :-\r\n".toList ++ row

def symbol : Text := "o(a::b/2, c)::go/1".toList

def world : World := Lone.world document

theorem lineIs : LineIs world.disk Lone.file 2 row := ⟨["p :-".toList, row], by decide +kernel, by decide, rfl⟩

end Parameters

theorem parametric_call_found :
    call? Parameters.document 1 5 = .ok (some Parameters.symbol) ∧ Symbol.bare Parameters.symbol = ['g', 'o'] ∧
      Found Parameters.world Lone.file 2 Parameters.symbol Parameters.row := by
  have answered : call? Parameters.document 1 5 = .ok (some Parameters.symbol) := by decide
  obtain ⟨row, _, _, _, _, taken, _, _, _, _, again⟩ := symbol_found_on_its_line answered
  cases taken
  exact ⟨answered, by decide, (again _ _ Parameters.lineIs).1.mpr (by decide)⟩

end Cursor

end LogtalkNavigation
