import LogtalkNavigation.Proofs.Cursor.Symbol

/-! How calls are written. A call has a name, and in front of it there may be a qualifier: an object that it is sent
to, with or without parameters, or the mark of a call to self or to an inherited definition. Each word that a cursor
finds in a row is a stretch of the row that is written so. -/

namespace LogtalkNavigation.Cursor

open Text

def Letters (name : Text) : Prop := name ≠ [] ∧ ∀ c ∈ name, isWord c = true

inductive Qualifier : Text → Prop where
  | absent : Qualifier []
  | toSelf : Qualifier [':', ':']
  | inherited : Qualifier ['^', '^']
  | object {object : Text} (letters : Letters object) : Qualifier (object ++ [':', ':'])
  | parametric {object inner : Text} (letters : Letters object) (flat : ∀ c ∈ inner, c ≠ '(' ∧ c ≠ ')') :
      Qualifier (object ++ '(' :: (inner ++ [')', ':', ':']))

/-- A word is a qualifier and a name. An at sign belongs to the name, and then there is no qualifier. -/
structure Written (word qualifier name : Text) : Prop where
  divided : word = qualifier ++ name
  qualified : Qualifier qualifier
  named : Letters name ∨ qualifier = [] ∧ ∃ rest, name = '@' :: rest ∧ Letters rest

theorem Letters.notMem {name : Text} (letters : Letters name) {c : Char} (odd : isWord c = false) : c ∉ name := by
  intro inside
  rw [letters.2 c inside] at odd
  cases odd

theorem Letters.visible {name : Text} (letters : Letters name) : ∀ c ∈ name, isBlank c = false :=
  fun c inside => word_not_blank c (letters.2 c inside)

theorem Written.name_visible {word qualifier name : Text} (written : Written word qualifier name) :
    ∀ c ∈ name, isBlank c = false := by
  rcases written.named with letters | ⟨_, rest, rfl, letters⟩
  · exact letters.visible
  · exact List.forall_mem_cons.mpr ⟨rfl, letters.visible⟩

theorem Letters.ends {name : Text} (letters : Letters name) : ∃ front c, name = front ++ [c] ∧ isWord c = true :=
  ⟨name.dropLast, name.getLast letters.1, (List.dropLast_concat_getLast letters.1).symm,
    letters.2 _ (List.getLast_mem letters.1)⟩

theorem Written.ends {word qualifier name : Text} (written : Written word qualifier name) :
    ∃ front c, word = front ++ [c] ∧ isWord c = true := by
  rcases written.named with letters | ⟨_, rest, divided, letters⟩
  · obtain ⟨front, c, rfl, letter⟩ := letters.ends
    exact ⟨qualifier ++ front, c, by rw [written.divided, List.append_assoc], letter⟩
  · obtain ⟨front, c, rfl, letter⟩ := letters.ends
    exact ⟨qualifier ++ '@' :: front, c, by rw [written.divided, divided]; simp, letter⟩

theorem letters_takeWhile {text : Text} (filled : plainLength text ≠ 0) : Letters (text.takeWhile isWord) :=
  ⟨fun empty => filled (List.length_eq_zero_iff.mpr empty), List.all_eq_true.mp List.all_takeWhile⟩

theorem spelled_of_marked {mark front rest : Text} {length : Nat}
    (found : markedLength? mark (front ++ rest) front.length = some length) :
    ∃ name behind, Letters name ∧ rest = mark ++ (name ++ behind) ∧
      length = front.length + mark.length + name.length := by
  obtain ⟨tail, divided, filled, rfl⟩ := (markedLength?_eq_some_iff _ _ _ _).mp found
  rw [List.drop_left] at divided
  refine ⟨tail.takeWhile isWord, tail.dropWhile isWord, letters_takeWhile filled, ?_, rfl⟩
  rw [divided, List.takeWhile_append_dropWhile]

def Spelled (text : Text) (length : Nat) : Prop :=
  ∃ word qualifier name behind, Written word qualifier name ∧ text = word ++ behind ∧ length = word.length

theorem spelled_of_qualified {qualifier name behind : Text} (qualified : Qualifier qualifier) (letters : Letters name) :
    Spelled (qualifier ++ (name ++ behind)) (qualifier.length + name.length) := by
  refine ⟨qualifier ++ name, qualifier, name, behind, ⟨rfl, qualified, .inl letters⟩, ?_, ?_⟩
  · rw [List.append_assoc]
  · rw [List.length_append]

theorem spelled_of_sent {text : Text} {length : Nat} (found : sentLength? text = some length) :
    Spelled text length := by
  unfold sentLength? at found
  dsimp only at found
  split at found
  case isTrue => cases found
  case isFalse filled =>
    have letters := letters_takeWhile filled
    have divided : text = text.takeWhile isWord ++ text.dropWhile isWord := List.takeWhile_append_dropWhile.symm
    rw [plainLength] at found
    generalize text.takeWhile isWord = object at letters divided found
    generalize text.dropWhile isWord = tail at divided
    subst divided
    rw [Option.orElse_eq_orElse, Option.orElse_eq_or, Option.or_eq_some_iff] at found
    rcases found with parametric | ⟨_, direct⟩
    · obtain ⟨size, parenthesis, marked⟩ := Option.bind_eq_some_iff.mp parametric
      rw [List.drop_left] at parenthesis
      obtain ⟨inner, rest, rfl, flat, rfl⟩ := (parenthesisLength?_eq_some_iff _ _).mp parenthesis
      have front : object ++ '(' :: (inner ++ ')' :: rest) = (object ++ '(' :: (inner ++ [')'])) ++ rest := by simp
      have count : object.length + (inner.length + 2) = (object ++ '(' :: (inner ++ [')'])).length := by simp
      rw [front, count] at marked
      obtain ⟨name, behind, named, rfl, rfl⟩ := spelled_of_marked marked
      have spelled := @spelled_of_qualified _ name behind (.parametric letters flat) named
      simpa [Nat.add_assoc, Nat.add_comm, Nat.add_left_comm] using spelled
    · obtain ⟨name, behind, named, rfl, rfl⟩ := spelled_of_marked direct
      have spelled := @spelled_of_qualified _ name behind (.object letters) named
      simpa using spelled

theorem spelled_of_mark {mark text : Text} {length : Nat} (qualified : Qualifier mark)
    (found : markedLength? mark text 0 = some length) : Spelled text length := by
  obtain ⟨name, behind, named, rfl, rfl⟩ := @spelled_of_marked mark [] text length found
  have spelled := @spelled_of_qualified _ name behind qualified named
  simpa using spelled

theorem spelled_callLength {text : Text} (found : callLength text ≠ 0) : Spelled text (callLength text) := by
  unfold callLength at found ⊢
  dsimp only at found ⊢
  split
  case h_1 length qualified =>
    rw [Option.orElse_eq_orElse, Option.orElse_eq_or, Option.or_eq_some_iff] at qualified
    rcases qualified with sent | ⟨_, qualified⟩
    · exact spelled_of_sent sent
    · rw [Option.orElse_eq_or, Option.or_eq_some_iff] at qualified
      rcases qualified with toSelf | ⟨_, inherited⟩
      · exact spelled_of_mark .toSelf toSelf
      · exact spelled_of_mark .inherited inherited
  case h_2 unqualified =>
    rw [unqualified] at found
    dsimp only at found
    split
    case isTrue empty =>
      rw [if_pos empty] at found
      cases marked : markedLength? ['@'] text 0 with
      | none =>
          rw [marked] at found
          exact absurd rfl found
      | some length =>
          obtain ⟨name, behind, named, rfl, rfl⟩ := @spelled_of_marked ['@'] [] text length marked
          refine ⟨'@' :: name, [], '@' :: name, behind, ⟨rfl, .absent, .inr ⟨rfl, name, rfl, named⟩⟩, rfl, ?_⟩
          simp [Nat.add_comm]
    case isFalse filled =>
      have divided : text = text.takeWhile isWord ++ text.dropWhile isWord := List.takeWhile_append_dropWhile.symm
      exact ⟨_, [], _, _, ⟨rfl, .absent, .inl (letters_takeWhile filled)⟩, divided, rfl⟩

theorem callLength_le (text : Text) : callLength text ≤ text.length := by
  by_cases found : callLength text = 0
  · rw [found]
    exact Nat.zero_le _
  · obtain ⟨word, _, _, behind, _, divided, length⟩ := spelled_callLength found
    have count := congrArg List.length divided
    rw [List.length_append] at count
    omega

def Word.Stands (word : Word) (text before behind : Text) : Prop :=
  text = before ++ (word.text ++ behind) ∧ before.length = word.start

-- The induction is on the text; what is skipped of it belongs to the word before.
theorem stands_of_mem_wordsFrom {measure : Text → Nat} (bounded : ∀ text, measure text ≤ text.length)
    {skip column : Nat} {text : Text} {word : Word} (inside : word ∈ wordsFrom measure skip column text) :
    ∃ before behind, text = before ++ (word.text ++ behind) ∧ column + before.length = word.start ∧
      measure (word.text ++ behind) = word.text.length ∧ word.text ≠ [] := by
  induction text generalizing skip column with
  | nil => cases inside
  | cons c rest ih =>
      have later {skip : Nat} (further : word ∈ wordsFrom measure skip (column + 1) rest) :
          ∃ before behind, c :: rest = before ++ (word.text ++ behind) ∧ column + before.length = word.start ∧
            measure (word.text ++ behind) = word.text.length ∧ word.text ≠ [] := by
        obtain ⟨before, behind, rfl, start, measured⟩ := ih further
        refine ⟨c :: before, behind, rfl, ?_, measured⟩
        rw [List.length_cons]
        omega
      cases skip with
      | succ skip => exact later inside
      | zero =>
          unfold wordsFrom at inside
          split at inside
          case h_1 => exact later inside
          case h_2 length measured =>
            rcases List.mem_cons.mp inside with rfl | further
            · have within := bounded (c :: rest)
              have size : ((c :: rest).take (length + 1)).length = length + 1 :=
                List.length_take_of_le (by omega)
              have divided := List.take_append_drop (length + 1) (c :: rest)
              exact ⟨[], (c :: rest).drop (length + 1), divided.symm, rfl, by rw [divided, size, measured],
                by rw [List.take_succ_cons]; exact List.cons_ne_nil _ _⟩
            · exact later further

theorem stands_of_touched {row : Text} {character : Int} {word : Word}
    (touched : touched? character (calls row) = some word) :
    ∃ before behind qualifier name, word.Stands row before behind ∧ Written word.text qualifier name := by
  have inside := List.mem_of_find?_eq_some touched
  obtain ⟨before, behind, divided, start, measured, nonempty⟩ := stands_of_mem_wordsFrom callLength_le inside
  have filled : callLength (word.text ++ behind) ≠ 0 := by
    rw [measured]
    exact mt List.length_eq_zero_iff.mp nonempty
  obtain ⟨other, qualifier, name, rest, written, whole, length⟩ := spelled_callLength filled
  have same : word.text = other := (List.append_inj whole (measured.symm.trans length)).1
  rw [← same] at written
  exact ⟨before, behind, qualifier, name, ⟨divided, by omega⟩, written⟩

def callAt? (document : Text) (line character : Int) : Option Word :=
  (row? (rows document) line).bind fun row => touched? character (calls row)

def textFrom (document : Text) (line : Int) (column : Nat) : Text :=
  ((rows document).drop line.toNat).flatten.drop column

theorem row?_eq_some_iff (rows : List Text) (line : Int) (row : Text) :
    row? rows line = some row ↔ 0 ≤ line ∧ rows[line.toNat]? = some row := by
  unfold row?
  split
  case isTrue early =>
    constructor
    · intro none
      cases none
    · intro ⟨counted, _⟩
      omega
  case isFalse counted => simp [Int.not_lt.mp counted]

section Position
variable {document : Text} {line character : Int} {word : Word}

theorem row_of_callAt (found : callAt? document line character = some word) :
    ∃ row, 0 ≤ line ∧ (rows document)[line.toNat]? = some row ∧ touched? character (calls row) = some word := by
  obtain ⟨row, taken, touched⟩ := Option.bind_eq_some_iff.mp found
  obtain ⟨counted, taken⟩ := (row?_eq_some_iff _ _ _).mp taken
  exact ⟨row, counted, taken, touched⟩

theorem call?_eq (document : Text) (line character : Int) :
    call? document line character =
      match callAt? document line character with
      | none => .ok none
      | some word =>
        if isVariableName word.text then .ok none
        else (arityOf ((collapse (textFrom document line word.start)).drop word.text.length)).map
          fun arity => some (word.text ++ '/' :: ofNat arity) := by
  unfold call? callAt?
  dsimp only
  cases (row? (rows document) line).bind fun row => touched? character (calls row) with
  | none => rfl
  | some word =>
      dsimp only
      split
      case isTrue => rfl
      case isFalse =>
        change (arityOf ((collapse (textFrom document line word.start)).drop word.text.length) >>= _) = _
        cases arityOf ((collapse (textFrom document line word.start)).drop word.text.length) <;> rfl

theorem call?_eq_ok_iff (document : Text) (line character : Int) (symbol : Text) :
    call? document line character = .ok (some symbol) ↔
      ∃ word arity, callAt? document line character = some word ∧ isVariableName word.text = false ∧
        arityOf ((collapse (textFrom document line word.start)).drop word.text.length) = .ok arity ∧
        symbol = word.text ++ '/' :: ofNat arity := by
  rw [call?_eq]
  cases callAt? document line character with
  | none => simp
  | some word =>
      cases constant : isVariableName word.text with
      | true => simp [constant]
      | false =>
          cases counted : arityOf ((collapse (textFrom document line word.start)).drop word.text.length) with
          | error failure => simp [constant, counted, Except.map]
          | ok arity => simp [constant, counted, Except.map, @eq_comm _ symbol]

theorem textFrom_word (found : callAt? document line character = some word) :
    textFrom document line word.start = word.text ++ textFrom document line word.stop := by
  obtain ⟨row, _, taken, touched⟩ := row_of_callAt found
  obtain ⟨before, behind, _, _, ⟨divided, start⟩, _⟩ := stands_of_touched touched
  obtain ⟨inside, same⟩ := List.getElem?_eq_some_iff.mp taken
  have joined : ((rows document).drop line.toNat).flatten =
      before ++ (word.text ++ (behind ++ ((rows document).drop (line.toNat + 1)).flatten)) := by
    rw [List.drop_eq_getElem_cons inside, same, divided, List.flatten_cons]
    simp
  rw [textFrom, textFrom, Word.stop, joined, ← start, List.drop_left, List.drop_append, Nat.add_sub_cancel_left,
    List.drop_left, List.drop_of_length_le (Nat.le_add_right _ _), List.nil_append]

end Position

end LogtalkNavigation.Cursor
