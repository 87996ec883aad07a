import LogtalkNavigation.Cursor.Symbol
import LogtalkNavigation.Proofs.Cursor.Arguments
import LogtalkNavigation.Proofs.Cursor.Words

/-! What a request is about when the cursor is on a name with arguments behind it. A call is named with the number
of its arguments, an entity with its parameters as far as the parenthesis that matches the first. -/

namespace LogtalkNavigation

-- Letters are no blanks, so that they stay.
theorem Text.collapse_word {word : Text} (letters : ∀ c ∈ word, isWord c = true) (rest : Text) :
    collapse (word ++ rest) = word ++ collapse rest := by
  induction word with
  | nil => rfl
  | cons c word ih =>
      have seen := word_not_blank c (letters c List.mem_cons_self)
      have later := ih fun d inside => letters d (List.mem_cons_of_mem c inside)
      rw [List.cons_append, collapse, collapseFrom, seen, if_neg Bool.false_ne_true, List.cons_append]
      exact congrArg (c :: ·) later

namespace Cursor

open Text

theorem collapse_parenthesis (text : Text) : collapse ('(' :: text) = '(' :: collapse text := rfl

/-- The cursor is on a name of a row or right behind it. The name has letters only, and is not that of a variable. -/
structure OnName (document : Text) (line : Nat) (character : Int) (before name behind : Text) : Prop where
  placed : (rows document)[line]? = some (before ++ (name ++ behind))
  letters : ∀ c ∈ name, isWord c = true
  constant : isVariableName name = false
  low : before.length ≤ character
  high : character ≤ (before.length + name.length : Nat)

def below (document : Text) (line : Nat) : Text := ((rows document).drop (line + 1)).flatten

section Place
variable {document before name behind : Text} {line : Nat} {character : Int}

theorem OnName.nonempty (cursor : OnName document line character before name behind) : name ≠ [] := by
  have constant := cursor.constant
  rintro rfl
  cases constant

theorem row?_natural (rows : List Text) (line : Nat) : row? rows line = rows[line]? := by
  rw [row?, if_neg (by omega), Int.toNat_natCast]

variable (placed : (rows document)[line]? = some (before ++ behind))
include placed

theorem remainder_placed : remainder (rows document) line before.length = collapse (behind ++ below document line) := by
  obtain ⟨inside, row⟩ := List.getElem?_eq_some_iff.mp placed
  rw [remainder, List.drop_eq_getElem_cons inside, row, List.flatten_cons, List.append_assoc, List.drop_left, below]

theorem call?_placed (touched : touched? character (calls (before ++ behind)) = some ⟨before.length, name⟩) :
    call? document line character =
      if isVariableName name then .ok none
      else (arityOf ((collapse (behind ++ below document line)).drop name.length)).map
        fun arity => some (name ++ '/' :: Text.ofNat arity) := by
  unfold call?
  simp only [row?_natural, placed, Option.bind_some, touched, Int.toNat_natCast, remainder_placed placed]
  split
  case isTrue => rfl
  case isFalse =>
    cases arityOf ((collapse (behind ++ below document line)).drop name.length) with
    | error failure => rfl
    | ok arity => rfl

theorem entity?_placed {arguments : Text} (constant : isVariableName name = false)
    (touched : touched? character (plainWords (before ++ behind)) = some ⟨before.length, name⟩)
    (follows : collapse (behind ++ below document line) = name ++ '(' :: arguments) :
    entity? document line character = some (name ++ ('(' :: arguments).take (scanArguments ('(' :: arguments)).1) := by
  unfold entity?
  simp only [row?_natural, placed, Option.bind_eq_bind, Option.bind_some, touched, Int.toNat_natCast,
    remainder_placed placed, constant, follows, List.drop_left, List.take_length_add_append]
  rfl

end Place

theorem arityOf_collapse_listed {arguments : List Text} (nested : ∀ argument ∈ arguments, Nested false argument)
    (rest : Text) : arityOf (collapse (listed arguments ++ rest)) = .ok (shownArity arguments) := by
  have counted := (scanArguments_collapse (listed arguments ++ rest)).1
  rw [scanArguments_listed nested] at counted
  rw [listed, List.cons_append, collapse_parenthesis] at counted ⊢
  exact congrArg Except.ok counted

section Called
variable {document before name rest : Text} {line : Nat} {character : Int}

theorem call?_of_unsent {arguments : List Text} (nested : ∀ argument ∈ arguments, Nested false argument)
    (cursor : OnName document line character before name (listed arguments ++ rest)) (unmarked : Unmarked before)
    (unsent : ¬ Sent (listed arguments ++ rest)) :
    call? document line character = .ok (some (name ++ '/' :: Text.ofNat (shownArity arguments))) := by
  have touched := touched_unsent cursor.letters cursor.nonempty unmarked cursor.low cursor.high unsent
  rw [call?_placed cursor.placed touched, cursor.constant, if_neg Bool.false_ne_true, List.append_assoc,
    collapse_word cursor.letters, List.drop_left, List.append_assoc, arityOf_collapse_listed nested]
  rfl

-- What is answered then goes on with the parenthesis, if anything is.
theorem call?_of_sent (cursor : OnName document line character before name ('(' :: rest)) (unmarked : Unmarked before)
    (sent : Sent ('(' :: rest)) (arity : Nat) :
    call? document line character ≠ .ok (some (name ++ '/' :: Text.ofNat arity)) := by
  obtain ⟨more, touched⟩ := touched_sent cursor.letters cursor.nonempty unmarked cursor.low cursor.high sent
  rw [call?_placed cursor.placed touched]
  intro answered
  split at answered
  case isTrue => cases answered
  case isFalse =>
    cases counted : arityOf ((collapse (name ++ '(' :: rest ++ below document line)).drop
        (name ++ '(' :: more).length) with
    | error failure =>
        rw [counted] at answered
        cases answered
    | ok other =>
        rw [counted] at answered
        have same := Option.some.inj (Except.ok.inj answered)
        rw [List.append_assoc] at same
        exact absurd (List.cons.inj (List.append_cancel_left same)).1 (by decide)

end Called

/-- Arguments that are well nested are found whole, and counted unless they have nothing but brackets and blanks. A
call that nothing in front belongs to is named with that count, wherever the cursor touches its name, unless its
parenthesis reads as that of an object with a message behind it. -/
theorem call_counts_arguments (arguments : List Text) (nested : ∀ argument ∈ arguments, Nested false argument)
    (rest : Text) :
    scanArguments (listed arguments ++ rest) = ((listed arguments).length, shownArity arguments) ∧
    ∀ document line character before name, OnName document line character before name (listed arguments ++ rest) →
      Unmarked before →
      (call? document line character = .ok (some (name ++ '/' :: Text.ofNat (shownArity arguments))) ↔
        ¬ Sent (listed arguments ++ rest)) := by
  constructor
  · exact scanArguments_listed nested rest
  · intro document line character before name cursor unmarked
    constructor
    · intro answered sent
      exact call?_of_sent cursor unmarked sent _ answered
    · exact call?_of_unsent nested cursor unmarked

-- A call in the second row, with commas and a parenthesis that are quoted or in brackets.
namespace Quoting

def quote : Quote := ⟨'\'', rfl⟩

def arguments : List Text := ["[a,')'|T]".toList, " 'b\\','".toList, "\x7b\x7d".toList]

def document : Text := "x :-\n  a, foo([a,')'|T], 'b\\',',\x7b\x7d), b.\ny.".toList

theorem nested : ∀ argument ∈ arguments, Nested false argument := by
  intro argument inside
  rw [arguments, List.mem_cons, List.mem_cons, List.mem_singleton] at inside
  rcases inside with rfl | rfl | rfl
  · apply @Nested.group false '[' "a,')'|T".toList [] rfl _ .nil
    apply Nested.char (by decide)
    apply Nested.comma
    apply @Nested.token true [')'] ['|', 'T'] quote
    · exact .char (by decide) (by decide) .nil
    · exact .char (by decide) (.char (by decide) .nil)
  · apply Nested.char (by decide)
    apply @Nested.token false "b\\',".toList [] quote
    · exact .char (by decide) (by decide) (.escape (.char (by decide) (by decide) .nil))
    · exact .nil
  · exact @Nested.group false '\x7b' [] [] rfl .nil .nil

end Quoting

theorem quoted_commas_uncounted : (∀ argument ∈ Quoting.arguments, Nested false argument) ∧
    call? Quoting.document 1 6 = .ok (some "foo/3".toList) := by
  have cursor : OnName Quoting.document 1 6 "  a, ".toList "foo".toList (listed Quoting.arguments ++ ", b.".toList) :=
    ⟨by decide, List.all_eq_true.mp (by decide), by decide, by decide, by decide⟩
  have unmarked : Unmarked "  a, ".toList := ⟨by decide, by decide⟩
  obtain ⟨_, named⟩ := call_counts_arguments Quoting.arguments Quoting.nested ", b.".toList
  exact ⟨Quoting.nested, (named _ _ _ _ _ cursor unmarked).mpr (by decide)⟩

/-- A list of brackets only is an argument, but is not counted. And a parenthesis and two colons in quotes are taken
for an object and a message. -/
theorem arguments_miscounted :
    Nested false "[]".toList ∧ scanArguments (listed ["[]".toList]) = (4, 0) ∧
      call? "foo([])".toList 0 1 = .ok (some "foo/0".toList) ∧
    Nested false "')::b'".toList ∧ scanArguments (listed ["')::b'".toList]) = (8, 1) ∧
      call? "foo(')::b')".toList 0 1 = .ok (some "foo(')::b/0".toList) := by
  have brackets : Nested false "[]".toList := @Nested.group false '[' [] [] rfl .nil .nil
  have quoted : Nested false "')::b'".toList := by
    apply @Nested.token false ")::b".toList [] Quoting.quote _ .nil
    apply Content.char (by decide) (by decide)
    apply Content.char (by decide) (by decide)
    apply Content.char (by decide) (by decide)
    apply Content.char (by decide) (by decide)
    exact .nil
  exact ⟨brackets, by decide, by decide, quoted, by decide, by decide⟩

def Enclosed (list : Text) : Prop := ∃ inner, Nested true inner ∧ list = '(' :: (inner ++ [')'])

theorem scanArguments_enclosed {list : Text} (enclosed : Enclosed list) (rest : Text) :
    (scanArguments (list ++ rest)).1 = list.length := by
  obtain ⟨inner, nested, rfl⟩ := enclosed
  obtain ⟨first, others, divided, rfl⟩ := divided_of_nested nested
  exact congrArg Prod.fst (scanArguments_listed divided rest)

theorem entity?_of_enclosed {document before name list rest : Text} {line : Nat} {character : Int}
    (enclosed : Enclosed list) (cursor : OnName document line character before name (list ++ rest))
    (parted : Parted before) : entity? document line character = some (name ++ collapse list) := by
  have found := (scanArguments_collapse (list ++ (rest ++ below document line))).2
  rw [scanArguments_enclosed enclosed, List.take_left, ← List.append_assoc] at found
  obtain ⟨inner, _, rfl⟩ := enclosed
  have measured := plainLength_name cursor.letters (by decide : isWord '(' = false) (inner ++ [')'] ++ rest)
  have touched := touched_words (parted.clear _) measured cursor.nonempty cursor.low cursor.high
  have follows := collapse_word cursor.letters ('(' :: (inner ++ [')']) ++ rest ++ below document line)
  rw [← List.append_assoc] at follows
  rw [entity?_placed cursor.placed cursor.constant touched follows]
  exact congrArg (fun parameters => some (name ++ parameters)) found

/-- The parenthesis found is the matching one: behind any text a well-nested list is found whole. Whatever the text
is, the end found lies behind the position and within the text. So an entity is named with all of its parameters, with
their blanks collapsed, wherever the cursor touches its name. -/
theorem matching_parenthesis_found :
    (∀ before list rest, Enclosed list →
      before.length + (scanArguments ((before ++ (list ++ rest)).drop before.length)).1 =
        (before ++ list).length) ∧
    (∀ (text : Text) (position : Nat), position < text.length →
      position < position + (scanArguments (text.drop position)).1 ∧
        position + (scanArguments (text.drop position)).1 ≤ text.length) ∧
    ∀ document line character before name list rest, Enclosed list →
      OnName document line character before name (list ++ rest) → Parted before →
        entity? document line character = some (name ++ collapse list) := by
  refine ⟨?_, ?_, ?_⟩
  · intro before list rest enclosed
    rw [List.drop_left, scanArguments_enclosed enclosed, List.length_append]
  · intro text position inside
    obtain ⟨within, ahead⟩ := scanArguments_bounds (text.drop position)
    rw [List.length_drop] at within
    have filled : text.drop position ≠ [] := by simpa using inside
    have := ahead filled
    omega
  · intro document line character before name list rest enclosed cursor parted
    exact entity?_of_enclosed enclosed cursor parted

theorem quoted_parenthesis_passed : Enclosed "( [a,')'],\t \x7b\x7d )".toList ∧
    3 + (scanArguments ("p(w( [a,')'],\t \x7b\x7d ), b)".toList.drop 3)).1 = 19 ∧
    entity? ":- object(w( [a,')'],\t \x7b\x7d ), extends(b)).".toList 0 10 = some "w( [a,')'], \x7b\x7d )".toList := by
  have enclosed : Enclosed "( [a,')'],\t \x7b\x7d )".toList := by
    refine ⟨" [a,')'],\t \x7b\x7d ".toList, ?_, rfl⟩
    apply Nested.char (by decide)
    apply @Nested.group true '[' "a,')'".toList ",\t \x7b\x7d ".toList rfl
    · apply Nested.char (by decide)
      apply Nested.comma
      apply @Nested.token true [')'] [] Quoting.quote _ .nil
      exact .char (by decide) (by decide) .nil
    · apply Nested.comma
      apply Nested.char (by decide)
      apply Nested.char (by decide)
      apply @Nested.group true '\x7b' [] [' '] rfl .nil
      exact .char (by decide) .nil
  have cursor : OnName ":- object(w( [a,')'],\t \x7b\x7d ), extends(b)).".toList 0 10 ":- object(".toList ['w']
      ("( [a,')'],\t \x7b\x7d )".toList ++ ", extends(b)).".toList) :=
    ⟨by decide, List.all_eq_true.mp (by decide), by decide, by decide, by decide⟩
  obtain ⟨matched, _, named⟩ := matching_parenthesis_found
  exact ⟨enclosed, matched "p(w".toList _ ", b)".toList enclosed, named _ _ _ _ _ _ _ enclosed cursor (by decide)⟩

end Cursor

end LogtalkNavigation
