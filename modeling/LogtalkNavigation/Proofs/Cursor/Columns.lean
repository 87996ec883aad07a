import LogtalkNavigation.Proofs.Cursor.Qualified

/-! Words and columns. The words of a row follow each other without sharing a character, though the end of one may be the
start of the next. So a column behind the start of a word, up to its end, belongs to that word alone, and what a request
is about does not depend on which of these columns the cursor is at. -/

namespace LogtalkNavigation.Cursor

open Text

section Scanning
variable {measure : Text → Nat} {skip column : Nat} {text : Text} {word : Word}

theorem start_of_mem_wordsFrom (inside : word ∈ wordsFrom measure skip column text) : column + skip ≤ word.start := by
  fun_induction wordsFrom measure skip column text with
  | case1 => cases inside
  | case2 skip column c text ih =>
      have later := ih inside
      omega
  | case3 column c text measured ih =>
      have later := ih inside
      omega
  | case4 column c text length measured ih =>
      rcases List.mem_cons.mp inside with rfl | further
      · exact Nat.le_refl column
      · have later := ih further
        omega

variable (bounded : ∀ text, measure text ≤ text.length)
include bounded

theorem stop_first {c : Char} {length : Nat} (measured : measure (c :: text) = length + 1) :
    Word.stop ⟨column, (c :: text).take (length + 1)⟩ = column + (length + 1) := by
  have within := bounded (c :: text)
  rw [Word.stop, List.length_take_of_le (by omega)]

theorem ordered_wordsFrom :
    (wordsFrom measure skip column text).Pairwise fun one other => one.stop ≤ other.start := by
  fun_induction wordsFrom measure skip column text with
  | case1 => exact .nil
  | case2 skip column c text ih => exact ih
  | case3 column c text measured ih => exact ih
  | case4 column c text length measured ih =>
      refine List.pairwise_cons.mpr ⟨fun other inside => ?_, ih⟩
      have later := start_of_mem_wordsFrom inside
      rw [stop_first bounded measured]
      omega

-- What is skipped belongs to the word before, so only the columns behind it are asked for.
theorem complete_wordsFrom {place : Nat} (behind : column + skip ≤ place)
    (free : ∀ word ∈ wordsFrom measure skip column text, ¬ (word.start ≤ place ∧ place < word.stop)) :
    measure (text.drop (place - column)) = 0 := by
  have further {c : Char} {column : Nat} {text : Text} (past : column + 1 ≤ place) :
      (c :: text).drop (place - column) = text.drop (place - (column + 1)) := by
    obtain ⟨more, rfl⟩ := Nat.exists_eq_add_of_le past
    rw [Nat.add_sub_cancel_left, Nat.add_assoc, Nat.add_sub_cancel_left, Nat.add_comm, List.drop_succ_cons]
  fun_induction wordsFrom measure skip column text with
  | case1 =>
      rw [List.drop_nil]
      exact Nat.le_zero.mp (bounded [])
  | case2 skip column c text ih =>
      rw [further (by omega)]
      exact ih (by omega) free
  | case3 column c text measured ih =>
      rcases Nat.eq_or_lt_of_le behind with rfl | past
      · rw [Nat.add_zero, Nat.sub_self]
        exact measured
      · rw [further past]
        exact ih past free
  | case4 column c text length measured ih =>
      have outside := free _ List.mem_cons_self
      rw [stop_first bounded measured] at outside
      have past : column + 1 + length ≤ place := by
        dsimp only at outside
        omega
      rw [further (by omega)]
      exact ih past fun word inside => free word (List.mem_cons_of_mem _ inside)

end Scanning

/-- The words that a measure finds in a row, from left to right. Each stands in the row as it is measured there, none
reaches into the next, and outside of them no word starts. -/
structure Lays (measure : Text → Nat) (row : Text) (words : List Word) : Prop where
  ordered : words.Pairwise fun one other => one.stop ≤ other.start
  filled : ∀ word ∈ words, word.text ≠ []
  standing : ∀ word ∈ words, ∃ before behind, word.Stands row before behind ∧
    measure (word.text ++ behind) = word.text.length
  complete : ∀ column, (∀ word ∈ words, ¬ (word.start ≤ column ∧ column < word.stop)) → measure (row.drop column) = 0

theorem lays_wordsFrom {measure : Text → Nat} (bounded : ∀ text, measure text ≤ text.length) (row : Text) :
    Lays measure row (wordsFrom measure 0 0 row) := by
  refine ⟨ordered_wordsFrom bounded, fun word inside => ?_, fun word inside => ?_, fun column free => ?_⟩
  · obtain ⟨_, _, _, _, _, filled⟩ := stands_of_mem_wordsFrom bounded inside
    exact filled
  · obtain ⟨before, behind, divided, start, measured, _⟩ := stands_of_mem_wordsFrom bounded inside
    exact ⟨before, behind, ⟨divided, by omega⟩, measured⟩
  · exact @complete_wordsFrom measure 0 0 row bounded column (Nat.zero_le column) free

theorem plainLength_le (text : Text) : plainLength text ≤ text.length := (List.takeWhile_prefix _).length_le

theorem lays_plainWords (row : Text) : Lays plainLength row (plainWords row) := lays_wordsFrom plainLength_le row

theorem lays_calls (row : Text) : Lays callLength row (calls row) := lays_wordsFrom callLength_le row

def Word.Holds (word : Word) (column : Int) : Prop := word.start < column ∧ column ≤ word.stop

section Touching
variable {words : List Word} {column : Int}

theorem touched?_eq_none_iff :
    touched? column words = none ↔ ∀ word ∈ words, ¬ (word.start ≤ column ∧ column ≤ word.stop) := by
  simp only [touched?, List.find?_eq_none, Word.touches_iff]

-- A column that two words touch is the end of the one and the start of the other, and goes to the first.
theorem touched?_eq_some_iff (ordered : words.Pairwise fun one other => one.stop ≤ other.start)
    (filled : ∀ word ∈ words, word.text ≠ []) (word : Word) :
    touched? column words = some word ↔
      word ∈ words ∧ (word.Holds column ∨ column = word.start ∧ ∀ other ∈ words, other.stop ≠ word.start) := by
  have proper : ∀ word ∈ words, word.start < word.stop := fun word inside =>
    Nat.lt_add_of_pos_right (List.length_pos_iff.mpr (filled word inside))
  unfold Word.Holds
  induction words with
  | nil => simp [touched?]
  | cons first rest ih =>
      obtain ⟨before, others⟩ := List.pairwise_cons.mp ordered
      obtain ⟨wide, wider⟩ := List.forall_mem_cons.mp proper
      rw [touched?_cons]
      by_cases touches : first.touches column = true
      · rw [if_pos touches]
        rw [Word.touches_iff] at touches
        constructor
        · rintro ⟨⟩
          refine ⟨List.mem_cons_self, ?_⟩
          by_cases start : column = word.start
          · refine .inr ⟨start, fun other inside => ?_⟩
            rcases List.mem_cons.mp inside with rfl | later
            · omega
            · have apart := before other later
              have size := wider other later
              omega
          · exact .inl ⟨by omega, touches.2⟩
        · rintro ⟨inside, held⟩
          rcases List.mem_cons.mp inside with rfl | later
          · rfl
          · have apart := before word later
            rcases held with within | ⟨start, alone⟩
            · omega
            · exact absurd (by omega) (alone first List.mem_cons_self)
      · rw [if_neg touches]
        rw [Word.touches_iff] at touches
        refine (ih others (fun word inside => filled word (List.mem_cons_of_mem _ inside)) wider).trans ⟨?_, ?_⟩
        · rintro ⟨later, held⟩
          have apart := before word later
          refine ⟨List.mem_cons_of_mem _ later, ?_⟩
          rcases held with within | ⟨start, alone⟩
          · exact .inl within
          · exact .inr ⟨start, List.forall_mem_cons.mpr ⟨by omega, alone⟩⟩
        · rintro ⟨inside, held⟩
          rcases List.mem_cons.mp inside with rfl | later
          · omega
          · refine ⟨later, ?_⟩
            rcases held with within | ⟨start, alone⟩
            · exact .inl within
            · exact .inr ⟨start, fun other among => alone other (List.mem_cons_of_mem _ among)⟩

end Touching

/-- Which word is found from which column: from the columns that a word holds that word, and from its start too unless
another word ends there. Columns that no word touches find none. -/
structure FoundByColumn (words : List Word) : Prop where
  held : ∀ word ∈ words, ∀ column, word.Holds column → touched? column words = some word
  start : ∀ word ∈ words, touched? word.start words = some word ↔ ∀ other ∈ words, other.stop ≠ word.start
  outside : ∀ column : Int, (∀ word ∈ words, ¬ (word.start ≤ column ∧ column ≤ word.stop)) →
    touched? column words = none

theorem Lays.foundByColumn {measure : Text → Nat} {row : Text} {words : List Word} (lays : Lays measure row words) :
    FoundByColumn words := by
  refine ⟨fun word inside column held => ?_, fun word inside => ?_, fun column => touched?_eq_none_iff.mpr⟩
  · exact (touched?_eq_some_iff lays.ordered lays.filled word).mpr ⟨inside, .inl held⟩
  · rw [touched?_eq_some_iff lays.ordered lays.filled]
    simp [inside, Word.Holds]

def entityAt? (document : Text) (line character : Int) : Option Word :=
  (row? (rows document) line).bind fun row => touched? character (plainWords row)

theorem entity?_eq (document : Text) (line character : Int) :
    entity? document line character = (entityAt? document line character).bind fun word =>
      if isVariableName word.text then none
      else
        let text := remainder (rows document) line.toNat word.start
        match text.drop word.text.length with
        | '(' :: arguments =>
          some (text.take (word.text.length + (scanArguments ('(' :: arguments)).1))
        | _ => some word.text := by
  unfold entity? entityAt?
  rw [Option.bind_assoc]
  rfl

section Position
variable {wordsOf : Text → List Word} {rows : List Text} {line column : Int}

theorem bind_touched?_of_holds {row : Text} (found : FoundByColumn (wordsOf row)) (placed : row? rows line = some row)
    {word : Word} (inside : word ∈ wordsOf row) (held : word.Holds column) :
    ((row? rows line).bind fun row => touched? column (wordsOf row)) = some word := by
  rw [placed, Option.bind_some]
  exact found.held word inside column held

theorem bind_touched?_eq_none_iff :
    ((row? rows line).bind fun row => touched? column (wordsOf row)) = none ↔
      ∀ row, row? rows line = some row → ∀ word ∈ wordsOf row, ¬ (word.start ≤ column ∧ column ≤ word.stop) := by
  simp only [Option.bind_eq_none_iff, touched?_eq_none_iff]

end Position

/-- The words of a row follow each other from left to right and share no character, and each column finds the word that
it belongs to. So from all columns that a word holds the answer about a call, or about an entity, is the same, and there
is none from columns outside of all words. -/
theorem answer_fixed_within_word :
    (∀ row, Lays plainLength row (plainWords row) ∧ FoundByColumn (plainWords row) ∧
      Lays callLength row (calls row) ∧ FoundByColumn (calls row)) ∧
    ∀ document line,
      (∀ row, row? (rows document) line = some row →
        (∀ word ∈ calls row, ∀ one other, word.Holds one → word.Holds other →
          call? document line one = call? document line other) ∧
        ∀ word ∈ plainWords row, ∀ one other, word.Holds one → word.Holds other →
          entity? document line one = entity? document line other) ∧
      ∀ column : Int,
        ((∀ row, row? (rows document) line = some row → ∀ word ∈ calls row,
            ¬ (word.start ≤ column ∧ column ≤ word.stop)) → call? document line column = .ok none) ∧
        ((∀ row, row? (rows document) line = some row → ∀ word ∈ plainWords row,
            ¬ (word.start ≤ column ∧ column ≤ word.stop)) → entity? document line column = none) := by
  have calling (row : Text) := (lays_calls row).foundByColumn
  have naming (row : Text) := (lays_plainWords row).foundByColumn
  refine ⟨fun row => ⟨lays_plainWords row, naming row, lays_calls row, calling row⟩, fun document line => ⟨?_, ?_⟩⟩
  · intro row placed
    constructor
    · intro word inside one other first second
      have same : callAt? document line one = callAt? document line other :=
        (bind_touched?_of_holds (calling row) placed inside first).trans
          (bind_touched?_of_holds (calling row) placed inside second).symm
      rw [call?_eq, call?_eq, same]
    · intro word inside one other first second
      have same : entityAt? document line one = entityAt? document line other :=
        (bind_touched?_of_holds (naming row) placed inside first).trans
          (bind_touched?_of_holds (naming row) placed inside second).symm
      rw [entity?_eq, entity?_eq, same]
  · intro column
    constructor
    · intro free
      have nothing : callAt? document line column = none := bind_touched?_eq_none_iff.mpr free
      rw [call?_eq, nothing]
    · intro free
      have nothing : entityAt? document line column = none := bind_touched?_eq_none_iff.mpr free
      rw [entity?_eq, nothing]
      rfl

-- The second word starts where the first one ends, and that column still belongs to the first.
theorem abutting_words_told_apart :
    let row := "a::b::c(d, e)".toList
    calls row = [⟨0, "a::b".toList⟩, ⟨4, "::c".toList⟩, ⟨8, "d".toList⟩, ⟨11, "e".toList⟩] ∧
      touched? 4 (calls row) = some ⟨0, "a::b".toList⟩ ∧
      call? row 0 4 = .ok (some "a::b/0".toList) ∧ call? row 0 1 = .ok (some "a::b/0".toList) ∧
      call? row 0 5 = .ok (some "::c/2".toList) ∧ call? row 0 7 = .ok (some "::c/2".toList) := by
  intro row
  have words : calls row = [⟨0, "a::b".toList⟩, ⟨4, "::c".toList⟩, ⟨8, "d".toList⟩, ⟨11, "e".toList⟩] := by
    decide +kernel
  have first : (⟨0, "a::b".toList⟩ : Word) ∈ calls row := by simp [words]
  have second : (⟨4, "::c".toList⟩ : Word) ∈ calls row := by simp [words]
  have placed : row? (rows row) 0 = some row := by decide +kernel
  have begins : call? row 0 1 = .ok (some "a::b/0".toList) := by decide +kernel
  have goesOn : call? row 0 5 = .ok (some "::c/2".toList) := by decide +kernel
  obtain ⟨found, answers⟩ := answer_fixed_within_word
  have same := ((answers row 0).1 row placed).1
  refine ⟨words, (found row).2.2.2.held _ first 4 ⟨by decide, by decide⟩, ?_, begins, goesOn, ?_⟩
  · rw [← begins]
    exact same _ first 4 1 ⟨by decide, by decide⟩ ⟨by decide, by decide⟩
  · rw [← goesOn]
    exact same _ second 7 5 ⟨by decide, by decide⟩ ⟨by decide, by decide⟩

end LogtalkNavigation.Cursor
