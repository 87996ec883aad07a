import LogtalkNavigation.Proofs.Cursor.Qualified
import LogtalkNavigation.Proofs.Text.Collapse
import LogtalkNavigation.Proofs.Text.Numeral

/-! The arity in the name of a call, by what follows the call in its document. A call is measured where it stands,
while what follows is cut out of the collapsed text, by the same number of characters. The cut is in place if no blank
of the call follows another one; only the parameters of an object can have such blanks. -/

namespace LogtalkNavigation

namespace Text

theorem newline_notMem_consFirst {c : Char} {parts : List Text} (other : c ≠ '\n')
    (unbroken : ∀ part ∈ parts, '\n' ∉ part) : ∀ part ∈ consFirst c parts, '\n' ∉ part := by
  cases parts with
  | nil => simpa [consFirst] using other.symm
  | cons first rest =>
      intro part inside
      rcases List.mem_cons.mp inside with rfl | later
      · simpa [other.symm] using unbroken first List.mem_cons_self
      · exact unbroken part (List.mem_cons_of_mem first later)

theorem newline_notMem_rows (document : Text) : ∀ row ∈ rows document, '\n' ∉ row := by
  fun_induction rows document with
  | case1 => simp
  | case2 text ih => simpa using ih
  | case3 text ih => simpa using ih
  | case4 c text _ other ih => exact newline_notMem_consFirst other ih

theorem rows_of_unbroken {text : Text} (unbroken : '\n' ∉ text) : rows text = [text] := by
  fun_induction rows text with
  | case1 => rfl
  | case2 text => simp at unbroken
  | case3 text => simp at unbroken
  | case4 c text _ _ ih => rw [ih (List.not_mem_of_not_mem_cons unbroken), consFirst]

end Text

namespace Cursor

open Text

def Indicates (text digits : Text) : Prop :=
  ∃ slashes rest, slashes ∈ [['/'], ['/', '/']] ∧ text = slashes ++ (digits ++ rest) ∧ digits ≠ [] ∧
    (∀ c ∈ digits, isDigit c = true) ∧ ∀ c ∈ rest.head?, isDigit c = false

/-- The arity that the text behind a call gives to it. -/
inductive Gives (text : Text) : Nat → Prop where
  | arguments (opens : text.head? = some '(') : Gives text (scanArguments text).2
  | indicator {digits : Text} (indicated : Indicates text digits) (short : digits.length ≤ maxDigits) :
      Gives text (numeral digits)
  | nothing (closed : text.head? ≠ some '(') (bare : ∀ digits, ¬ Indicates text digits) : Gives text 0

theorem takeWhile_isDigit_eq_iff (text digits : Text) :
    text.takeWhile isDigit = digits ↔
      ∃ rest, text = digits ++ rest ∧ (∀ c ∈ digits, isDigit c = true) ∧ ∀ c ∈ rest.head?, isDigit c = false := by
  simp only [Option.mem_def, ← span_digits_iff, List.span_eq_takeWhile_dropWhile, Prod.mk.injEq, exists_and_left,
    exists_eq', and_true]

theorem leading_eq_some_iff (text digits : Text) :
    (match text.takeWhile isDigit with
      | [] => none
      | digits => some digits) = some digits ↔
      digits ≠ [] ∧ ∃ rest, text = digits ++ rest ∧ (∀ c ∈ digits, isDigit c = true) ∧
        ∀ c ∈ rest.head?, isDigit c = false := by
  rw [← takeWhile_isDigit_eq_iff]
  cases text.takeWhile isDigit with
  | nil => simp [eq_comm]
  | cons c rest => grind

theorem digit_ne_slash {c : Char} (digit : isDigit c = true) : c ≠ '/' := by
  rintro rfl
  cases digit

theorem writtenArity?_eq_some_iff (text digits : Text) : writtenArity? text = some digits ↔ Indicates text digits := by
  constructor
  · intro found
    unfold writtenArity? at found
    dsimp only at found
    split at found
    case h_1 rest =>
      obtain ⟨filled, tail, rfl, run⟩ := (leading_eq_some_iff _ _).mp found
      exact ⟨['/', '/'], tail, by simp, rfl, filled, run⟩
    case h_2 rest _ =>
      obtain ⟨filled, tail, rfl, run⟩ := (leading_eq_some_iff _ _).mp found
      exact ⟨['/'], tail, by simp, rfl, filled, run⟩
    case h_3 => cases found
  · rintro ⟨slashes, rest, known, rfl, filled, allDigits, stops⟩
    have leading := (leading_eq_some_iff (digits ++ rest) digits).mpr ⟨filled, rest, rfl, allDigits, stops⟩
    obtain ⟨c, digits, rfl⟩ := List.exists_cons_of_ne_nil filled
    have other := digit_ne_slash (allDigits c List.mem_cons_self)
    simp only [List.mem_cons, List.not_mem_nil, or_false] at known
    rcases known with rfl | rfl
    · unfold writtenArity?
      split
      case h_1 rest same => exact absurd (List.cons.inj (List.cons.inj same).2).1 other
      case h_2 tail same => rw [← (List.cons.inj same).2]; exact leading
      case h_3 none => exact absurd rfl (none _)
    · exact leading

theorem arityOf_of_closed {text : Text} (closed : text.head? ≠ some '(') :
    arityOf text =
      match writtenArity? text with
      | none => .ok 0
      | some digits =>
        if maxDigits < digits.length then .error (.tooManyDigits digits.length) else .ok (numeral digits) := by
  unfold arityOf
  split
  case h_1 => exact absurd rfl closed
  case h_2 => rfl

theorem Indicates.closed {text digits : Text} (indicated : Indicates text digits) : text.head? ≠ some '(' := by
  obtain ⟨slashes, rest, known, rfl, _⟩ := indicated
  simp only [List.mem_cons, List.not_mem_nil, or_false] at known
  rcases known with rfl | rfl <;> simp

theorem arityOf_eq_ok_iff (text : Text) (arity : Nat) : arityOf text = .ok arity ↔ Gives text arity := by
  constructor
  · intro counted
    by_cases opens : text.head? = some '('
    · obtain ⟨rest, rfl⟩ := List.head?_eq_some_iff.mp opens
      cases counted
      exact .arguments rfl
    · rw [arityOf_of_closed opens] at counted
      cases written : writtenArity? text with
      | none =>
          rw [written] at counted
          cases counted
          apply Gives.nothing opens
          intro digits indicated
          rw [(writtenArity?_eq_some_iff text digits).mpr indicated] at written
          cases written
      | some digits =>
          rw [written] at counted
          dsimp only at counted
          split at counted
          case isTrue => cases counted
          case isFalse short =>
            cases counted
            exact .indicator ((writtenArity?_eq_some_iff text digits).mp written) (Nat.not_lt.mp short)
  · intro given
    cases given with
    | arguments opens =>
        obtain ⟨rest, rfl⟩ := List.head?_eq_some_iff.mp opens
        rfl
    | @indicator digits indicated short =>
        rw [arityOf_of_closed indicated.closed, (writtenArity?_eq_some_iff text digits).mpr indicated]
        exact if_neg (Nat.not_lt.mpr short)
    | nothing closed bare =>
        have unwritten : writtenArity? text = none := by
          apply Option.eq_none_iff_forall_ne_some.mpr
          intro digits written
          exact bare digits ((writtenArity?_eq_some_iff text digits).mp written)
        rw [arityOf_of_closed closed, unwritten]

theorem gives_or_overlong (text : Text) :
    (∃ arity, Gives text arity) ∨ ∃ digits, Indicates text digits ∧ maxDigits < digits.length := by
  by_cases opens : text.head? = some '('
  · exact .inl ⟨_, .arguments opens⟩
  · by_cases indicated : ∃ digits, Indicates text digits
    · obtain ⟨digits, indicated⟩ := indicated
      rcases Nat.lt_or_ge maxDigits digits.length with long | short
      · exact .inr ⟨digits, indicated, long⟩
      · exact .inl ⟨_, .indicator indicated short⟩
    · exact .inl ⟨0, .nothing opens (not_exists.mp indicated)⟩

def readFrom (document : Text) (line : Int) (word : Word) : Text :=
  (collapse (textFrom document line word.stop)).drop (surplus word.text)

theorem call?_given {document : Text} {line character : Int} {word : Word}
    (found : callAt? document line character = some word) (constant : isVariableName word.text = false)
    (symbol : Text) :
    call? document line character = .ok (some symbol) ↔
      ∃ arity, symbol = word.text ++ '/' :: ofNat arity ∧ Gives (readFrom document line word) arity := by
  obtain ⟨row, _, _, touched⟩ := row_of_callAt found
  obtain ⟨_, _, _, _, _, written⟩ := stands_of_touched touched
  obtain ⟨front, c, ends, letter⟩ := written.ends
  have cut : (collapse (textFrom document line word.start)).drop word.text.length =
      readFrom document line word := by
    rw [readFrom, textFrom_word found, ends, List.append_assoc, List.singleton_append]
    exact drop_collapse front (word_not_blank c letter) _
  rw [call?_eq_ok_iff]
  constructor
  · rintro ⟨other, arity, same, _, counted, rfl⟩
    cases found.symm.trans same
    rw [cut] at counted
    exact ⟨arity, rfl, (arityOf_eq_ok_iff _ _).mp counted⟩
  · rintro ⟨arity, rfl, given⟩
    rw [← cut] at given
    exact ⟨word, arity, found, constant, (arityOf_eq_ok_iff _ _).mpr given, rfl⟩

/-- Wherever a call is written so, its arity is the one that the text behind it gives. -/
def ReadsBehind (call : Text) : Prop :=
  ∀ (document : Text) (line character : Int) (start : Nat) (symbol : Text),
    callAt? document line character = some ⟨start, call⟩ →
      (call? document line character = .ok (some symbol) ↔
        ∃ arity, symbol = call ++ '/' :: ofNat arity ∧
          Gives (collapse (textFrom document line (start + call.length))) arity)

theorem readsBehind_of_single {call : Text} (constant : isVariableName call = false) (single : Single call) :
    ReadsBehind call := by
  intro document line character start symbol found
  have given := call?_given found constant symbol
  rw [readFrom, (surplus_eq_zero_iff call).mpr single, List.drop_zero] at given
  exact given

structure Spaced (call object inner name : Text) : Prop where
  divided : call = object ++ '(' :: (inner ++ ')' :: ':' :: ':' :: name)
  letters : Letters object
  flat : ∀ c ∈ inner, c ≠ '(' ∧ c ≠ ')'
  named : Letters name
  doubled : ¬ Single inner

theorem single_parametric {object inner name : Text} (letters : Letters object) (single : Single inner)
    (visible : ∀ c ∈ name, isBlank c = false) : Single (object ++ '(' :: (inner ++ ')' :: ':' :: ':' :: name)) := by
  have front : ∀ c ∈ object ++ ['('], isBlank c = false :=
    List.forall_mem_append.mpr ⟨letters.visible, by simp; rfl⟩
  have back : ∀ c ∈ ')' :: ':' :: ':' :: name, isBlank c = false :=
    List.forall_mem_cons.mpr ⟨rfl, List.forall_mem_cons.mpr ⟨rfl, List.forall_mem_cons.mpr ⟨rfl, visible⟩⟩⟩
  have later : Single (inner ++ ')' :: ':' :: ':' :: name) := by
    apply single_append single (single_of_visible back)
    exact .inr fun c first => back c (List.mem_of_mem_head? first)
  have whole : Single ((object ++ ['(']) ++ (inner ++ ')' :: ':' :: ':' :: name)) := by
    apply single_append (single_of_visible front) later
    exact .inl fun c last => front c (List.mem_of_mem_getLast? last)
  rwa [List.append_assoc] at whole

theorem Written.single_or_spaced {word qualifier name : Text} (written : Written word qualifier name) :
    Single word ∨ ∃ object inner, Spaced word object inner name := by
  have visible := written.name_visible
  have plain (shown : ∀ c ∈ qualifier, isBlank c = false) : Single word := by
    rw [written.divided]
    exact single_of_visible (List.forall_mem_append.mpr ⟨shown, visible⟩)
  cases written.qualified with
  | absent => exact .inl (plain (by simp))
  | toSelf => exact .inl (plain (by simp; rfl))
  | inherited => exact .inl (plain (by simp; rfl))
  | object letters => exact .inl (plain (List.forall_mem_append.mpr ⟨letters.visible, by simp; rfl⟩))
  | @parametric object inner letters flat =>
      have divided : word = object ++ '(' :: (inner ++ ')' :: ':' :: ':' :: name) := by
        rw [written.divided]
        simp
      by_cases single : Single inner
      · rw [divided]
        exact .inl (single_parametric letters single visible)
      · rcases written.named with named | ⟨empty, _⟩
        · exact .inr ⟨object, inner, divided, letters, flat, named, single⟩
        · simp at empty

theorem Spaced.callLength {call object inner name : Text} (spaced : Spaced call object inner name) (rest : Text) :
    callLength (call ++ '(' :: rest) = call.length := by
  obtain ⟨rfl, letters, flat, named, _⟩ := spaced
  have name_length := plainLength_name named.2 (by decide : isWord '(' = false) rest
  have filled : name.length ≠ 0 := mt List.length_eq_zero_iff.mp named.1
  have closes : parenthesisLength? ('(' :: (inner ++ ')' :: ':' :: ':' :: (name ++ '(' :: rest))) =
      some (inner.length + 2) :=
    (parenthesisLength?_eq_some_iff _ _).mpr ⟨inner, _, rfl, flat, rfl⟩
  have marked : markedLength? [':', ':'] ('(' :: (inner ++ ')' :: ':' :: ':' :: (name ++ '(' :: rest)))
      (inner.length + 2) = some (inner.length + 2 + 2 + name.length) := by
    apply (markedLength?_eq_some_iff _ _ _ _).mpr
    refine ⟨name ++ '(' :: rest, ?_, ?_, ?_⟩
    · simp
    · rwa [name_length]
    · rw [name_length]
      rfl
  have sent : sentLength? (object ++ '(' :: (inner ++ ')' :: ':' :: ':' :: (name ++ '(' :: rest))) =
      some (object.length + (inner.length + 2 + 2 + name.length)) := by
    rw [sentLength?_name letters.2 letters.1, closes, Option.bind_some, marked, Option.map_some]
  have whole : object ++ '(' :: (inner ++ ')' :: ':' :: ':' :: name) ++ '(' :: rest =
      object ++ '(' :: (inner ++ ')' :: ':' :: ':' :: (name ++ '(' :: rest)) := by simp
  rw [whole, Cursor.callLength, sent]
  simp
  omega

theorem callAt?_first {call rest : Text} (unbroken : '\n' ∉ call ++ rest) (filled : call ≠ [])
    (measured : callLength (call ++ rest) = call.length) : callAt? (call ++ rest) 0 0 = some ⟨0, call⟩ := by
  have clear : Clear callLength [] (call ++ rest) := by
    intro front back divided nonempty
    exact absurd (List.append_eq_nil_iff.mp divided.symm).2 nonempty
  rw [callAt?, rows_of_unbroken unbroken]
  exact touched_words clear measured filled (Int.le_refl 0) (Int.natCast_nonneg _)

theorem arityOf_behind_cut {cut : Nat} (moved : cut ≠ 0) : arityOf (['(', 'x', ')'].drop cut) = .ok 0 := by
  match cut with
  | 1 | 2 => rfl
  | _ + 3 => rw [List.drop_of_length_le (by simp)]; rfl

-- One argument behind the call shows where the cut is: only the whole of it is read as a list of arguments.
theorem single_of_readsBehind {call qualifier name : Text} (written : Written call qualifier name)
    (constant : isVariableName call = false) (unbroken : '\n' ∉ call) (reads : ReadsBehind call) : Single call := by
  rcases written.single_or_spaced with single | ⟨object, inner, spaced⟩
  · exact single
  · by_contra doubled
    have moved : surplus call ≠ 0 := mt (surplus_eq_zero_iff call).mp doubled
    have filled : call ≠ [] := by
      rintro rfl
      cases constant
    have whole : '\n' ∉ call ++ ['(', 'x', ')'] := by simpa using unbroken
    have found := callAt?_first whole filled (spaced.callLength _)
    have behind : textFrom (call ++ ['(', 'x', ')']) 0 (0 + call.length) = ['(', 'x', ')'] := by
      simp [textFrom, rows_of_unbroken whole]
    have answered := (reads _ 0 0 0 (call ++ '/' :: ofNat 1) found).mpr ⟨1, rfl, by rw [behind]; exact .arguments rfl⟩
    obtain ⟨arity, same, given⟩ := (call?_given found constant _).mp answered
    have one : ofNat 1 = ofNat arity := (List.cons.inj (List.append_cancel_left same)).2
    have counted := (arityOf_eq_ok_iff _ _).mpr given
    rw [readFrom, Word.stop, behind] at counted
    cases (arityOf_behind_cut moved).symm.trans counted
    cases one

/-- A call that is not a variable is answered with the arity that the text behind it gives, less as many characters as
blanks collapse in the call; the answer is missing only where a number is overlong. So the arity is that of the text
behind the call exactly if no blank of the call follows another one, which only parameters of objects can break. -/
theorem arity_given_behind_call {document : Text} {line character : Int} {word : Word}
    (found : callAt? document line character = some word) (constant : isVariableName word.text = false) :
    (∀ symbol, call? document line character = .ok (some symbol) ↔
      ∃ arity, symbol = word.text ++ '/' :: ofNat arity ∧ Gives (readFrom document line word) arity) ∧
    ((∃ symbol, call? document line character = .ok (some symbol)) ∨
      ∃ digits, Indicates (readFrom document line word) digits ∧ maxDigits < digits.length) ∧
    (ReadsBehind word.text ↔ Single word.text) ∧
    (Single word.text ∨ ∃ object inner name, Spaced word.text object inner name) := by
  obtain ⟨row, _, taken, touched⟩ := row_of_callAt found
  obtain ⟨before, behind, qualifier, name, ⟨divided, _⟩, written⟩ := stands_of_touched touched
  have unbroken : '\n' ∉ word.text := by
    intro inside
    apply newline_notMem_rows document row (List.mem_of_getElem? taken)
    simp [divided, inside]
  refine ⟨call?_given found constant, ?_, ?_, ?_⟩
  · rcases gives_or_overlong (readFrom document line word) with ⟨arity, given⟩ | overlong
    · exact .inl ⟨_, (call?_given found constant _).mpr ⟨arity, rfl, given⟩⟩
    · exact .inr overlong
  · constructor
    · exact single_of_readsBehind written constant unbroken
    · exact readsBehind_of_single constant
  · rcases written.single_or_spaced with single | ⟨object, inner, spaced⟩
    · exact .inl single
    · exact .inr ⟨object, inner, name, spaced⟩

theorem arity_across_rows :
    callAt? "p :- a(b, c)::q( [x,y],\n  z).".toList 0 7 = some ⟨5, "a(b, c)::q".toList⟩ ∧
      isVariableName "a(b, c)::q".toList = false ∧
      call? "p :- a(b, c)::q( [x,y],\n  z).".toList 0 7 = .ok (some "a(b, c)::q/2".toList) ∧
      ReadsBehind "a(b, c)::q".toList := by
  have found : callAt? "p :- a(b, c)::q( [x,y],\n  z).".toList 0 7 = some ⟨5, "a(b, c)::q".toList⟩ := by decide
  have constant : isVariableName "a(b, c)::q".toList = false := by decide
  obtain ⟨answers, _, reads, _⟩ := arity_given_behind_call found constant
  exact ⟨found, constant, (answers _).mpr ⟨2, rfl, .arguments (by decide)⟩, reads.mpr (by decide)⟩

/-- With two blanks in the parameters the cut is one character late, and the parenthesis behind the call is missed. -/
theorem spaced_parameters_hide_arguments :
    callAt? "foo(a,  b)::bar(x)".toList 0 1 = some ⟨0, "foo(a,  b)::bar".toList⟩ ∧
      Gives (collapse (textFrom "foo(a,  b)::bar(x)".toList 0 15)) 1 ∧
      call? "foo(a,  b)::bar(x)".toList 0 1 = .ok (some "foo(a,  b)::bar/0".toList) :=
  ⟨by decide, .arguments (by decide), by decide⟩

end Cursor

end LogtalkNavigation
