import LogtalkNavigation.Cursor.Word
import LogtalkNavigation.Proofs.Text.Numeral
import LogtalkNavigation.Proofs.Text.Scan

/-! The word that a cursor touches. A word that stands alone, with nothing in front of it that could belong to it,
is found from every column that it covers, and from the one behind it. -/

namespace LogtalkNavigation

namespace Text

/-- No letter and no numeric character is among the blanks. -/
theorem word_not_blank (c : Char) (word : isWord c = true) : isBlank c = false := by
  have apart : ∀ blank ∈ blankIntervals, ∀ interval ∈ wordIntervals,
      blank.2 < interval.1 ∨ interval.2 < blank.1 := by decide +kernel
  have early : ∀ blank ∈ blankIntervals, blank.1 < 0x80 → blank.2 ≤ 0x20 := by decide
  have controls : ∀ code < 0x21, isWord (Char.ofNat code) = false := by decide
  cases found : isBlank c with
  | false => rfl
  | true =>
      obtain ⟨blank, among, above, below⟩ := (isBlank_iff c).mp found
      by_cases ascii : c.toNat < 0x80
      · have low := early blank among (by omega)
        have control := controls c.toNat (by omega)
        rw [Char.ofNat_toNat, word] at control
        cases control
      · rw [isWord, if_neg ascii] at word
        simp only [inIntervals, List.any_eq_true, Bool.and_eq_true, decide_eq_true_eq] at word
        obtain ⟨interval, listed, least, most⟩ := word
        have := apart blank among interval listed
        omega

end Text

namespace Cursor

open Text

theorem Word.touches_iff (word : Word) (column : Int) :
    word.touches column = true ↔ word.start ≤ column ∧ column ≤ word.stop := by
  rw [touches, Bool.and_eq_true, decide_eq_true_iff, decide_eq_true_iff]

theorem touched?_cons (column : Int) (word : Word) (words : List Word) :
    touched? column (word :: words) = if word.touches column then some word else touched? column words := by
  rw [touched?, List.find?_cons]
  cases word.touches column <;> rfl

section Touching
variable {measure : Text → Nat} {name behind : Text}

def Clear (measure : Text → Nat) (before rest : Text) : Prop :=
  ∀ front back, before = front ++ back → back ≠ [] → measure (back ++ rest) < back.length

theorem Clear.tail {c : Char} {before rest : Text} (clear : Clear measure (c :: before) rest) :
    Clear measure before rest := by
  intro front back divided
  exact clear (c :: front) back (by rw [divided, List.cons_append])

-- The induction is on the text in front; what is skipped of it never reaches the word.
theorem touched_wordsFrom {before : Text} {skip column : Nat} {character : Int}
    (clear : Clear measure before (name ++ behind)) (measured : measure (name ++ behind) = name.length)
    (nonempty : name ≠ []) (short : skip ≤ before.length - 1) (low : (column + before.length : Nat) ≤ character)
    (high : character ≤ (column + before.length + name.length : Nat)) :
    touched? character (wordsFrom measure skip column (before ++ (name ++ behind))) =
      some ⟨column + before.length, name⟩ := by
  induction before generalizing skip column with
  | nil =>
      obtain rfl : skip = 0 := by simpa using short
      cases name with
      | nil => exact absurd rfl nonempty
      | cons c rest =>
          have whole : (c :: (rest ++ behind)).take (rest.length + 1) = c :: rest := by simp
          have touches : Word.touches ⟨column, c :: rest⟩ character = true :=
            (Word.touches_iff _ _).mpr ⟨low, high⟩
          rw [List.nil_append, List.cons_append, wordsFrom]
          rw [List.cons_append, List.length_cons] at measured
          rw [measured]
          dsimp only
          rw [whole, touched?_cons, if_pos touches]
          rfl
  | cons c before ih =>
      have later (skip : Nat) (short : skip ≤ before.length - 1) :
          touched? character (wordsFrom measure skip (column + 1) (before ++ (name ++ behind))) =
            some ⟨column + (c :: before).length, name⟩ := by
        have count : column + 1 + before.length = column + (c :: before).length := by
          rw [List.length_cons]
          omega
        rw [← count]
        exact ih clear.tail short (by rw [count]; exact low) (by rw [count]; exact high)
      cases skip with
      | succ skip =>
          rw [List.cons_append, wordsFrom]
          exact later skip (by simp only [List.length_cons] at short; omega)
      | zero =>
          have reach := clear [] (c :: before) rfl (List.cons_ne_nil _ _)
          rw [List.cons_append] at reach ⊢
          rw [wordsFrom]
          cases length : measure (c :: (before ++ (name ++ behind))) with
          | zero => exact later 0 (Nat.zero_le _)
          | succ more =>
              rw [length, List.length_cons] at reach
              dsimp only
              have misses (text : Text) : ¬ Word.touches ⟨column, text.take (more + 1)⟩ character = true := by
                rw [Word.touches_iff, Word.stop]
                have most := List.length_take_le (more + 1) text
                rw [List.length_cons] at low
                dsimp only
                omega
              rw [touched?_cons, if_neg (misses _)]
              exact later more (by omega)

theorem touched_words {before : Text} {character : Int} (clear : Clear measure before (name ++ behind))
    (measured : measure (name ++ behind) = name.length) (nonempty : name ≠ []) (low : before.length ≤ character)
    (high : character ≤ (before.length + name.length : Nat)) :
    touched? character (wordsFrom measure 0 0 (before ++ (name ++ behind))) = some ⟨before.length, name⟩ := by
  have start : 0 + before.length = before.length := Nat.zero_add _
  have touched := @touched_wordsFrom measure name behind before 0 0 character clear measured nonempty (Nat.zero_le _)
  rw [start] at touched
  exact touched low high

end Touching

theorem takeWhile_lt {p : Char → Bool} {text : Text} (ends : ∃ c ∈ text, p c = false) (rest : Text) :
    ((text ++ rest).takeWhile p).length < text.length := by
  induction text with
  | nil =>
      obtain ⟨c, inside, _⟩ := ends
      cases inside
  | cons d text ih =>
      rw [List.cons_append, List.takeWhile_cons]
      split
      case isTrue passes =>
        obtain ⟨c, inside, stops⟩ := ends
        apply Nat.succ_lt_succ
        apply ih
        rcases List.mem_cons.mp inside with rfl | later
        · rw [passes] at stops
          cases stops
        · exact ⟨c, later, stops⟩
      case isFalse => exact Nat.succ_pos _

def Parted (before : Text) : Prop := ∀ c ∈ before.getLast?, isWord c = false

theorem parted_iff (before : Text) : before.getLast?.all (fun c => !isWord c) = true ↔ Parted before := by
  unfold Parted
  cases before.getLast? with
  | none => simp
  | some c => simp

instance (before : Text) : Decidable (Parted before) := decidable_of_iff _ (parted_iff before)

theorem Parted.behind {front back : Text} (parted : Parted (front ++ back)) : Parted back := by
  intro c last
  have whole : (front ++ back).getLast? = some c := by
    rw [List.getLast?_append, last]
    rfl
  exact parted c whole

theorem Parted.plainLength_lt {back : Text} (parted : Parted back) (nonempty : back ≠ []) (rest : Text) :
    plainLength (back ++ rest) < back.length := by
  have last := List.getLast?_eq_some_getLast nonempty
  exact takeWhile_lt ⟨back.getLast nonempty, List.getLast_mem nonempty, parted _ last⟩ rest

theorem Parted.clear {before : Text} (parted : Parted before) (rest : Text) : Clear plainLength before rest := by
  rintro front back rfl nonempty
  exact parted.behind.plainLength_lt nonempty rest

theorem plainLength_name {name : Text} (letters : ∀ c ∈ name, isWord c = true) {c : Char} (stops : isWord c = false)
    (rest : Text) : plainLength (name ++ c :: rest) = name.length := by
  rw [plainLength, List.takeWhile_append_of_pos letters, List.takeWhile_cons_of_neg (by simp [stops]),
    List.append_nil]

def marks : List Text := [[':', ':'], ['^', '^'], ['@']]

structure Unmarked (before : Text) : Prop where
  parted : Parted before
  free : ∀ mark ∈ marks, ¬ mark <:+ before

theorem Unmarked.behind {front back : Text} (unmarked : Unmarked (front ++ back)) : Unmarked back := by
  constructor
  · exact unmarked.parted.behind
  · intro mark known ending
    exact unmarked.free mark known (ending.trans (List.suffix_append front back))

theorem markedLength?_eq_some_iff (mark text : Text) (before length : Nat) :
    markedLength? mark text before = some length ↔
      ∃ rest, text.drop before = mark ++ rest ∧ plainLength rest ≠ 0 ∧
        length = before + mark.length + plainLength rest := by
  unfold markedLength?
  cases found : after? mark (text.drop before) with
  | none =>
      constructor
      · intro none
        cases none
      · rintro ⟨rest, divided, _⟩
        rw [divided, after_append] at found
        cases found
  | some rest =>
      rw [after_eq_some_iff] at found
      rw [found]
      dsimp only
      constructor
      · intro measured
        refine ⟨rest, rfl, ?_⟩
        split at measured
        case isTrue => cases measured
        case isFalse nonzero => exact ⟨nonzero, (Option.some.inj measured).symm⟩
      · rintro ⟨other, divided, nonzero, rfl⟩
        obtain rfl := List.append_cancel_left divided
        rw [if_neg nonzero]

theorem parenthesisLength?_eq_some_iff (text : Text) (length : Nat) :
    parenthesisLength? text = some length ↔
      ∃ inner rest, text = '(' :: (inner ++ ')' :: rest) ∧ (∀ c ∈ inner, c ≠ '(' ∧ c ≠ ')') ∧
        length = inner.length + 2 := by
  constructor
  · intro measured
    unfold parenthesisLength? at measured
    split at measured
    case h_1 text =>
      dsimp only at measured
      split at measured
      case h_1 rest closes =>
        refine ⟨text.takeWhile fun c => c ≠ '(' && c ≠ ')', rest, ?_, ?_, (Option.some.inj measured).symm⟩
        · rw [← closes, List.prefix_iff_eq_append.mp (List.takeWhile_prefix _)]
        · intro c inside
          simpa using List.all_eq_true.mp List.all_takeWhile c inside
      case h_2 => cases measured
    case h_2 => cases measured
  · rintro ⟨inner, rest, rfl, plain, rfl⟩
    have passes : ∀ c ∈ inner, (c ≠ '(' && c ≠ ')') = true := by simpa using plain
    have taken : (inner ++ ')' :: rest).takeWhile (fun c => c ≠ '(' && c ≠ ')') = inner := by
      rw [List.takeWhile_append_of_pos passes, List.takeWhile_cons_of_neg (by simp), List.append_nil]
    simp only [parenthesisLength?, taken, List.drop_left]

section Marked
variable {mark front back rest : Text} {c : Char} {length : Nat}

theorem markedLength?_lt (known : mark ∈ marks) (unmarked : Unmarked back) (letter : isWord c = true)
    (found : markedLength? mark (front ++ (back ++ c :: rest)) front.length = some length) :
    length < front.length + back.length := by
  have odd : ∀ mark ∈ marks, mark.all (fun d => !isWord d) = true := by decide
  obtain ⟨tail, divided, _, rfl⟩ := (markedLength?_eq_some_iff _ _ _ _).mp found
  rw [List.drop_left] at divided
  rcases List.append_eq_append_iff.mp divided with ⟨beyond, rfl, shared⟩ | ⟨beyond, rfl, rfl⟩
  · cases beyond with
    | nil =>
        rw [List.append_nil] at known
        exact absurd (List.suffix_refl back) (unmarked.free back known)
    | cons d beyond =>
        cases shared
        have other := List.all_eq_true.mp (odd _ known) c (by simp)
        rw [letter] at other
        cases other
  · cases beyond with
    | nil =>
        rw [List.append_nil] at unmarked
        exact absurd (List.suffix_refl mark) (unmarked.free mark known)
    | cons d beyond =>
        have short := unmarked.parted.behind.plainLength_lt (List.cons_ne_nil d beyond) (c :: rest)
        rw [List.length_append]
        omega

end Marked

theorem markedLength?_behind (mark front text : Text) (place : Nat) :
    markedLength? mark (front ++ text) (front.length + place) =
      (markedLength? mark text place).map (front.length + ·) := by
  unfold markedLength?
  rw [List.drop_length_add_append]
  cases after? mark (text.drop place) with
  | none => rfl
  | some rest =>
      dsimp only
      split
      case isTrue => rfl
      case isFalse => simp only [Option.map_some, Nat.add_assoc]

theorem markedLength?_bounds {mark text : Text} {place length : Nat}
    (found : markedLength? mark text place = some length) : place < length ∧ length ≤ text.length := by
  obtain ⟨rest, divided, filled, rfl⟩ := (markedLength?_eq_some_iff _ _ _ _).mp found
  have count := congrArg List.length divided
  have most : plainLength rest ≤ rest.length := (List.takeWhile_prefix _).length_le
  rw [List.length_drop, List.length_append] at count
  omega

def Sent (behind : Text) : Prop :=
  ∃ inner c rest, behind = '(' :: (inner ++ ')' :: ':' :: ':' :: c :: rest) ∧
    (∀ d ∈ inner, d ≠ '(' ∧ d ≠ ')') ∧ isWord c = true

theorem plainLength_ne_zero_iff (text : Text) :
    plainLength text ≠ 0 ↔ ∃ c rest, text = c :: rest ∧ isWord c = true := by
  cases text with
  | nil => simp [plainLength]
  | cons c rest => cases letter : isWord c <;> simp [plainLength, letter]

theorem sent_iff (behind : Text) :
    Sent behind ↔ ∃ length, (parenthesisLength? behind).bind (markedLength? [':', ':'] behind) = some length := by
  constructor
  · rintro ⟨inner, c, rest, rfl, plain, letter⟩
    have filled := (plainLength_ne_zero_iff _).mpr ⟨c, rest, rfl, letter⟩
    rw [(parenthesisLength?_eq_some_iff _ _).mpr ⟨inner, _, rfl, plain, rfl⟩, Option.bind_some]
    exact ⟨_, (markedLength?_eq_some_iff _ _ _ _).mpr ⟨c :: rest, by simp, filled, rfl⟩⟩
  · rintro ⟨length, found⟩
    obtain ⟨size, parenthesis, marked⟩ := Option.bind_eq_some_iff.mp found
    obtain ⟨inner, tail, rfl, plain, rfl⟩ := (parenthesisLength?_eq_some_iff _ _).mp parenthesis
    obtain ⟨message, divided, filled, _⟩ := (markedLength?_eq_some_iff _ _ _ _).mp marked
    obtain ⟨c, rest, rfl, letter⟩ := (plainLength_ne_zero_iff _).mp filled
    have follows : tail = ':' :: ':' :: c :: rest := by simpa using divided
    exact ⟨inner, c, rest, by rw [follows], plain, letter⟩

instance (behind : Text) : Decidable (Sent behind) :=
  decidable_of_iff _ (Option.isSome_iff_exists.trans (sent_iff behind).symm)

section Calls
variable {name back rest : Text} (letters : ∀ c ∈ name, isWord c = true) {length : Nat}
include letters

-- A parenthesis without others inside cannot reach beyond the one that follows the name.
theorem parenthesisLength?_le (filled : back ≠ [])
    (found : parenthesisLength? (back ++ (name ++ '(' :: rest)) = some length) : length ≤ back.length := by
  obtain ⟨inner, tail, divided, plain, rfl⟩ := (parenthesisLength?_eq_some_iff _ _).mp found
  obtain ⟨c, back, rfl⟩ := List.exists_cons_of_ne_nil filled
  obtain ⟨rfl, behind⟩ := List.cons.inj divided
  have closes : ')' ∉ name := fun inside => absurd (letters _ inside) (by decide)
  rcases List.append_eq_append_iff.mp behind with ⟨beyond, rfl, ahead⟩ | ⟨beyond, rfl, ahead⟩
  · have opens : '(' ∉ beyond := fun inside => (plain '(' (List.mem_append_right _ inside)).1 rfl
    rcases List.append_eq_append_iff.mp ahead with ⟨past, rfl, last⟩ | ⟨past, rfl, last⟩
    · cases past with
      | nil => cases last
      | cons d past =>
          obtain ⟨rfl, _⟩ := List.cons.inj last
          exact absurd (by simp) opens
    · cases past with
      | nil => cases last
      | cons d past =>
          obtain ⟨rfl, _⟩ := List.cons.inj last
          exact absurd (by simp) closes
  · cases beyond with
    | nil =>
        cases name with
        | nil => exact absurd (List.cons.inj ahead).1 (by decide)
        | cons d name =>
            obtain ⟨rfl, _⟩ := List.cons.inj ahead
            exact absurd List.mem_cons_self closes
    | cons d beyond =>
        simp only [List.length_cons, List.length_append]
        omega

variable (nonempty : name ≠ [])
include nonempty

theorem markedLength?_lt_name {mark front : Text} (known : mark ∈ marks) (unmarked : Unmarked back)
    (found : markedLength? mark (front ++ (back ++ (name ++ '(' :: rest))) front.length = some length) :
    length < front.length + back.length := by
  obtain ⟨c, name, rfl⟩ := List.exists_cons_of_ne_nil nonempty
  exact markedLength?_lt known unmarked (letters c List.mem_cons_self) found

theorem sentLength?_lt (unmarked : Unmarked back) (filled : back ≠ [])
    (found : sentLength? (back ++ (name ++ '(' :: rest)) = some length) : length < back.length := by
  have object := unmarked.parted.plainLength_lt filled (name ++ '(' :: rest)
  unfold sentLength? at found
  dsimp only at found
  split at found
  case isTrue => cases found
  case isFalse =>
    generalize plainLength (back ++ (name ++ '(' :: rest)) = stop at object found
    have reach (place : Nat) (within : place ≤ back.length) (marked : markedLength? [':', ':']
        (back ++ (name ++ '(' :: rest)) place = some length) : length < back.length := by
      have divided := List.take_append_drop place back
      have count : (back.take place).length = place := List.length_take_of_le within
      rw [← divided] at unmarked
      rw [← divided, List.append_assoc] at marked
      nth_rewrite 3 [← count] at marked
      have short := markedLength?_lt_name letters nonempty (by decide) unmarked.behind marked
      rw [← List.length_append, divided] at short
      exact short
    rw [Option.orElse_eq_orElse, Option.orElse_eq_or, Option.or_eq_some_iff] at found
    rcases found with parametric | ⟨_, marked⟩
    · obtain ⟨size, parenthesis, marked⟩ := Option.bind_eq_some_iff.mp parametric
      rw [List.drop_append_of_le_length (Nat.le_of_lt object)] at parenthesis
      have inside := parenthesisLength?_le letters (by simpa using object) parenthesis
      rw [List.length_drop] at inside
      exact reach (stop + size) (by omega) marked
    · exact reach stop (Nat.le_of_lt object) marked

theorem callLength_lt (unmarked : Unmarked back) (filled : back ≠ []) :
    callLength (back ++ (name ++ '(' :: rest)) < back.length := by
  have marked {mark : Text} (known : mark ∈ marks) {length : Nat}
      (found : markedLength? mark (back ++ (name ++ '(' :: rest)) 0 = some length) : length < back.length := by
    have short := @markedLength?_lt_name name back rest letters length nonempty mark [] known unmarked found
    simpa using short
  unfold callLength
  dsimp only
  split
  case h_1 length qualified =>
    rw [Option.orElse_eq_orElse, Option.orElse_eq_or, Option.or_eq_some_iff] at qualified
    rcases qualified with sent | ⟨_, qualified⟩
    · exact sentLength?_lt letters nonempty unmarked filled sent
    · rw [Option.orElse_eq_or, Option.or_eq_some_iff] at qualified
      rcases qualified with toSelf | ⟨_, inherited⟩
      · exact marked (by decide) toSelf
      · exact marked (by decide) inherited
  case h_2 =>
    split
    case isTrue =>
      cases found : markedLength? ['@'] (back ++ (name ++ '(' :: rest)) 0 with
      | none => exact List.length_pos_iff.mpr filled
      | some length => exact marked (by decide) found
    case isFalse => exact unmarked.parted.plainLength_lt filled _

theorem Unmarked.clear {before : Text} (unmarked : Unmarked before) :
    Clear callLength before (name ++ '(' :: rest) := by
  rintro front back rfl filled
  exact callLength_lt letters nonempty unmarked.behind filled

theorem sentLength?_name : sentLength? (name ++ '(' :: rest) =
    ((parenthesisLength? ('(' :: rest)).bind (markedLength? [':', ':'] ('(' :: rest))).map (name.length + ·) := by
  have size := plainLength_name letters (by decide : isWord '(' = false) rest
  have filled : name.length ≠ 0 := mt List.length_eq_zero_iff.mp nonempty
  have direct : markedLength? [':', ':'] (name ++ '(' :: rest) name.length = none := by
    rw [← Nat.add_zero name.length, markedLength?_behind]
    rfl
  unfold sentLength?
  simp only [size, if_neg filled, List.drop_left, direct, markedLength?_behind]
  rw [Option.orElse_eq_orElse, Option.orElse_eq_or, Option.or_none, Option.map_bind]
  rfl

-- A letter is no mark.
theorem markedLength?_name {mark : Text} (known : mark ∈ marks) :
    markedLength? mark (name ++ '(' :: rest) 0 = none := by
  rw [Option.eq_none_iff_forall_ne_some]
  intro length found
  have bare : Unmarked [] := ⟨by rintro c ⟨⟩, by decide⟩
  have short := @markedLength?_lt_name name [] rest letters length nonempty mark [] known bare found
  exact absurd short (Nat.not_lt_zero _)

theorem callLength_of_unsent (unsent : ¬ Sent ('(' :: rest)) : callLength (name ++ '(' :: rest) = name.length := by
  have size := plainLength_name letters (by decide : isWord '(' = false) rest
  have filled : name.length ≠ 0 := mt List.length_eq_zero_iff.mp nonempty
  have direct : sentLength? (name ++ '(' :: rest) = none := by
    rw [sentLength?_name letters nonempty, Option.map_eq_none_iff, Option.eq_none_iff_forall_ne_some]
    intro length found
    exact unsent ((sent_iff _).mpr ⟨length, found⟩)
  unfold callLength
  simp only [direct, markedLength?_name letters nonempty (by decide : [':', ':'] ∈ marks),
    markedLength?_name letters nonempty (by decide : ['^', '^'] ∈ marks), size, if_neg filled]
  rfl

-- The word then reaches beyond the parenthesis.
theorem callLength_of_sent (sent : Sent ('(' :: rest)) :
    ∃ more behind, rest = more ++ behind ∧ callLength (name ++ '(' :: rest) = (name ++ '(' :: more).length := by
  obtain ⟨length, found⟩ := (sent_iff _).mp sent
  have whole : callLength (name ++ '(' :: rest) = name.length + length := by
    unfold callLength
    simp only [sentLength?_name letters nonempty, found]
    rfl
  obtain ⟨size, _, marked⟩ := Option.bind_eq_some_iff.mp found
  obtain ⟨longer, within⟩ := markedLength?_bounds marked
  rw [List.length_cons] at within
  refine ⟨rest.take (length - 1), _, (List.take_append_drop _ _).symm, ?_⟩
  rw [whole, List.length_append, List.length_cons, List.length_take_of_le (by omega)]
  omega

section Touched
variable {before : Text} {character : Int} (unmarked : Unmarked before) (low : before.length ≤ character)
  (high : character ≤ (before.length + name.length : Nat))
include unmarked low high

theorem touched_unsent (unsent : ¬ Sent ('(' :: rest)) :
    touched? character (calls (before ++ (name ++ '(' :: rest))) = some ⟨before.length, name⟩ :=
  touched_words (unmarked.clear letters nonempty) (callLength_of_unsent letters nonempty unsent) nonempty low high

theorem touched_sent (sent : Sent ('(' :: rest)) :
    ∃ more, touched? character (calls (before ++ (name ++ '(' :: rest))) =
      some ⟨before.length, name ++ '(' :: more⟩ := by
  obtain ⟨more, behind, rfl, measured⟩ := callLength_of_sent letters nonempty sent
  have clear : Clear callLength before (name ++ '(' :: (more ++ behind)) := unmarked.clear letters nonempty
  have whole : name ++ '(' :: (more ++ behind) = (name ++ '(' :: more) ++ behind := by simp
  have longer : name.length ≤ (name ++ '(' :: more).length := by simp
  rw [whole] at clear measured ⊢
  exact ⟨more, touched_words clear measured (by simp) low (by omega)⟩

end Touched

end Calls

end Cursor

end LogtalkNavigation
