import LogtalkNavigation.Text.Basic

/-! Looking for a part of a text. A part stands at a column if the rest of the text from there on starts with it. A
search that goes on behind each place it finds meets every place, or one that overlaps it; and what it meets
first is what a search for a single place finds. An empty part, which stands everywhere, is never looked for. -/

namespace LogtalkNavigation.Text

def FirstAt (part text : Text) (column : Nat) : Prop :=
  part <+: text.drop column ∧ ∀ earlier < column, ¬ part <+: text.drop earlier

/-- What a search from a column on meets, place by place: each is the first one from the end of the one before. -/
inductive Meets (part text : Text) : Nat → List Nat → Prop where
  | none {column : Nat} (absent : ∀ later, column ≤ later → ¬ part <+: text.drop later) : Meets part text column []
  | next {column start : Nat} {rest : List Nat} (ahead : column ≤ start) (there : part <+: text.drop start)
      (first : ∀ earlier, column ≤ earlier → earlier < start → ¬ part <+: text.drop earlier)
      (more : Meets part text (start + part.length) rest) : Meets part text column (start :: rest)

section Search
variable {part text : Text}

theorem exists_stands_iff : (∃ column, part <+: text.drop column) ↔ part <:+: text := by
  constructor
  · rintro ⟨column, there⟩
    exact there.isInfix.trans (List.drop_suffix column text).isInfix
  · rintro ⟨before, behind, rfl⟩
    exact ⟨before.length, behind, by simp⟩

theorem FirstAt.unique {column other : Nat} (first : FirstAt part text column) (second : FirstAt part text other) :
    column = other := by
  rcases Nat.lt_trichotomy column other with less | same | more
  · exact absurd first.1 (second.2 column less)
  · exact same
  · exact absurd second.1 (first.2 other more)

variable (nonempty : part ≠ [])
include nonempty

theorem end_le_of_stands {column : Nat} (there : part <+: text.drop column) :
    column + part.length ≤ text.length := by
  have short := there.length_le
  have filled := List.length_pos_iff.mpr nonempty
  rw [List.length_drop] at short
  omega

theorem indexOf?_eq_some_iff (column : Nat) : indexOf? part text = some column ↔ FirstAt part text column := by
  induction text generalizing column with
  | nil => simp [indexOf?, FirstAt, nonempty]
  | cons c rest ih =>
      unfold indexOf?
      split
      case isTrue starts =>
        have here : FirstAt part (c :: rest) 0 := ⟨List.isPrefixOf_iff_prefix.mp starts, by simp⟩
        rw [Option.some.injEq]
        constructor
        · rintro rfl
          exact here
        · exact here.unique
      case isFalse other =>
        have missing : ¬ part <+: c :: rest := fun starts => other (List.isPrefixOf_iff_prefix.mpr starts)
        cases column with
        | zero => simp [FirstAt, missing]
        | succ column =>
            simp only [Option.map_eq_some_iff, Nat.add_right_cancel_iff, exists_eq_right, ih]
            -- At the head the part does not stand; all other columns are one further.
            constructor
            · rintro ⟨there, first⟩
              refine ⟨there, fun earlier less => ?_⟩
              cases earlier with
              | zero => exact missing
              | succ earlier => exact first earlier (Nat.lt_of_succ_lt_succ less)
            · rintro ⟨there, first⟩
              exact ⟨there, fun earlier less => first (earlier + 1) (Nat.succ_lt_succ less)⟩

omit nonempty in
theorem Meets.earlier {column : Nat} {places : List Nat} (missing : ¬ part <+: text.drop column)
    (meets : Meets part text (column + 1) places) : Meets part text column places := by
  have behind {place : Nat} (least : column ≤ place) (there : part <+: text.drop place) : column + 1 ≤ place := by
    rcases Nat.lt_or_eq_of_le least with further | rfl
    · exact further
    · exact absurd there missing
  cases meets with
  | none absent => exact .none fun later least there => absent later (behind least there) there
  | next ahead there first more =>
      refine .next (Nat.le_of_succ_le ahead) there (fun earlier least less standing => ?_) more
      exact first earlier (behind least standing) less standing

-- The induction is on what is left of the text; the last place met still covers the next `skip` characters.
theorem meets_occurrencesFrom {rest : Text} {skip column : Nat} (left : text.drop column = rest) :
    Meets part text (column + skip) (occurrencesFrom part skip column rest) := by
  induction rest generalizing skip column with
  | nil =>
      apply Meets.none
      intro later least there
      have long := end_le_of_stands nonempty there
      have filled := List.length_pos_iff.mpr nonempty
      have short := List.drop_eq_nil_iff.mp left
      omega
  | cons c rest ih =>
      have further : text.drop (column + 1) = rest := by rw [← List.tail_drop, left, List.tail_cons]
      cases skip with
      | succ skip =>
          have later : Meets part text (column + 1 + skip) (occurrencesFrom part skip (column + 1) rest) := ih further
          rw [Nat.add_right_comm] at later
          exact later
      | zero =>
          unfold occurrencesFrom
          split
          case isTrue starts =>
            have there : part <+: text.drop column := by
              rw [left]
              exact List.isPrefixOf_iff_prefix.mp starts
            have later := @ih (part.length - 1) (column + 1) further
            have count : column + 1 + (part.length - 1) = column + part.length := by
              have filled := List.length_pos_iff.mpr nonempty
              omega
            rw [count] at later
            exact .next (Nat.le_refl column) there (fun earlier least less => by omega) later
          case isFalse other =>
            apply Meets.earlier _ (@ih 0 (column + 1) further)
            rw [left]
            exact fun starts => other (List.isPrefixOf_iff_prefix.mpr starts)

theorem meets_occurrences (text : Text) : Meets part text 0 (occurrences part text) :=
  @meets_occurrencesFrom part text nonempty text 0 0 rfl

omit nonempty in
theorem Meets.stands {column : Nat} {places : List Nat} (meets : Meets part text column places) :
    ∀ place ∈ places, column ≤ place ∧ part <+: text.drop place := by
  induction meets with
  | none => simp
  | next ahead there first more ih =>
      intro place inside
      rcases List.mem_cons.mp inside with rfl | later
      · exact ⟨ahead, there⟩
      · obtain ⟨least, standing⟩ := ih place later
        exact ⟨by omega, standing⟩

omit nonempty in
theorem Meets.disjoint {column : Nat} {places : List Nat} (meets : Meets part text column places) :
    places.Pairwise fun earlier later => earlier + part.length ≤ later := by
  induction meets with
  | none => exact List.Pairwise.nil
  | next ahead there first more ih =>
      constructor
      · intro later inside
        exact (more.stands later inside).1
      · exact ih

theorem Meets.overlaps {column place : Nat} {places : List Nat} (meets : Meets part text column places)
    (least : column ≤ place) (there : part <+: text.drop place) :
    ∃ start ∈ places, start < place + part.length ∧ place < start + part.length := by
  have filled := List.length_pos_iff.mpr nonempty
  induction meets with
  | none absent => exact absurd there (absent place least)
  | @next column start rest ahead standing first more ih =>
      by_cases less : place < start
      · exact absurd there (first place least less)
      · by_cases beyond : start + part.length ≤ place
        · obtain ⟨other, inside, overlap⟩ := ih beyond
          exact ⟨other, List.mem_cons_of_mem start inside, overlap⟩
        · exact ⟨start, List.mem_cons_self, by omega, by omega⟩

omit nonempty in
theorem Meets.head?_eq_some_iff {places : List Nat} (meets : Meets part text 0 places) (column : Nat) :
    places.head? = some column ↔ FirstAt part text column := by
  cases meets with
  | none absent =>
      constructor
      · intro head
        cases head
      · intro found
        exact absurd found.1 (absent column (Nat.zero_le column))
  | @next _ start rest ahead there first more =>
      have found : FirstAt part text start := ⟨there, fun earlier less => first earlier (Nat.zero_le earlier) less⟩
      rw [List.head?_cons, Option.some.injEq]
      constructor
      · rintro rfl
        exact found
      · exact found.unique

/-- The first of all places is the one that a search for a single place finds. -/
theorem head?_occurrences (text : Text) : (occurrences part text).head? = indexOf? part text := by
  apply Option.ext
  intro column
  rw [indexOf?_eq_some_iff nonempty]
  exact (meets_occurrences nonempty text).head?_eq_some_iff column

theorem occurrences_eq_nil_iff (text : Text) : occurrences part text = [] ↔ ¬ part <:+: text := by
  rw [← exists_stands_iff]
  constructor
  · rintro nothing ⟨column, there⟩
    obtain ⟨start, inside, _⟩ := (meets_occurrences nonempty text).overlaps nonempty (Nat.zero_le column) there
    rw [nothing] at inside
    cases inside
  · intro absent
    apply List.eq_nil_iff_forall_not_mem.mpr
    intro start inside
    exact absent ⟨start, ((meets_occurrences nonempty text).stands start inside).2⟩

theorem indexOf?_eq_none_iff (text : Text) : indexOf? part text = none ↔ ¬ part <:+: text := by
  rw [← head?_occurrences nonempty, List.head?_eq_none_iff, occurrences_eq_nil_iff nonempty]

end Search

end LogtalkNavigation.Text
