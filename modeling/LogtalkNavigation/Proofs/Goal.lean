import LogtalkNavigation.Request
import LogtalkNavigation.Proofs.Cursor.Arguments
import LogtalkNavigation.Proofs.Path.Uri
import LogtalkNavigation.Proofs.Text.Numeral

/-! Goals say what they ask. A quoted atom can be read back from the front of any text that does not go on with a quote,
so nothing in a path is taken for a part of the goal around it. An argument list of quoted atoms is scanned as what it
is. And a goal gives away its predicate, its workspace and, for requests about a position, the file and the line. -/

namespace LogtalkNavigation

namespace Atom

/-- Reads what is inside the quotes of an atom, and the closing quote: the text that is meant, and what follows. A
backslash and a quote are written twice. -/
def readInside? : Text → Option (Text × Text)
  | [] => none
  | '\\' :: '\\' :: rest => (readInside? rest).map fun found => ('\\' :: found.1, found.2)
  | '\'' :: '\'' :: rest => (readInside? rest).map fun found => ('\'' :: found.1, found.2)
  | c :: rest =>
    if c = '\'' then some ([], rest)
    else if c = '\\' then none
    else (readInside? rest).map fun found => (c :: found.1, found.2)

def read? : Text → Option (Text × Text)
  | [] => none
  | c :: rest => if c = '\'' then readInside? rest else none

theorem readInside?_end (rest : Text) (other : rest.head? ≠ some '\'') :
    readInside? ('\'' :: rest) = some ([], rest) := by
  cases rest with
  | nil => rfl
  | cons c rest =>
      have apart : c ≠ '\'' := fun same => other (by simp [same])
      simp [readInside?, apart]

theorem readInside?_plain (c : Char) (rest : Text) (noBackslash : c ≠ '\\') (noQuote : c ≠ '\'') :
    readInside? (c :: rest) = (readInside? rest).map fun found => (c :: found.1, found.2) := by
  rw [readInside?.eq_def]
  simp [noBackslash, noQuote]

theorem readInside?_doubled (text rest : Text) (other : rest.head? ≠ some '\'') :
    readInside? (text.flatMap double ++ '\'' :: rest) = some (text, rest) := by
  induction text with
  | nil => exact readInside?_end rest other
  | cons c text ih =>
      rw [List.flatMap_cons, List.append_assoc, double]
      by_cases special : c = '\\' ∨ c = '\''
      · rw [if_pos special]
        rcases special with rfl | rfl
        · simp [readInside?, ih]
        · simp [readInside?, ih]
      · obtain ⟨noBackslash, noQuote⟩ := not_or.mp special
        rw [if_neg special, List.singleton_append, readInside?_plain c _ noBackslash noQuote, ih]
        rfl

theorem spelled_of_readInside? (whole text rest : Text) (read : readInside? whole = some (text, rest)) :
    whole = text.flatMap double ++ '\'' :: rest ∧ rest.head? ≠ some '\'' := by
  fun_induction readInside? whole generalizing text with
  | case1 => cases read
  | case2 whole ih =>
      obtain ⟨⟨inner, behind⟩, found, made⟩ := Option.map_eq_some_iff.mp read
      cases made
      obtain ⟨rfl, other⟩ := ih inner found
      exact ⟨rfl, other⟩
  | case3 whole ih =>
      obtain ⟨⟨inner, behind⟩, found, made⟩ := Option.map_eq_some_iff.mp read
      cases made
      obtain ⟨rfl, other⟩ := ih inner found
      exact ⟨rfl, other⟩
  | case4 whole _ alone =>
      cases read
      refine ⟨rfl, fun quote => ?_⟩
      obtain ⟨later, rfl⟩ := List.head?_eq_some_iff.mp quote
      exact alone later rfl rfl
  | case5 => cases read
  | case6 c whole _ _ noQuote noBackslash ih =>
      obtain ⟨⟨inner, behind⟩, found, made⟩ := Option.map_eq_some_iff.mp read
      cases made
      obtain ⟨rfl, other⟩ := ih inner found
      refine ⟨?_, other⟩
      rw [List.flatMap_cons, double, if_neg (by simp [noQuote, noBackslash])]
      rfl

theorem read?_eq_some_iff (whole text rest : Text) :
    read? whole = some (text, rest) ↔ whole = quoted text ++ rest ∧ rest.head? ≠ some '\'' := by
  have opened : quoted text ++ rest = '\'' :: (text.flatMap double ++ '\'' :: rest) := by simp [quoted]
  constructor
  · intro read
    cases whole with
    | nil => cases read
    | cons c whole =>
        rw [read?] at read
        split at read
        case isTrue quote =>
          obtain ⟨rfl, other⟩ := spelled_of_readInside? whole text rest read
          rw [opened, quote]
          exact ⟨rfl, other⟩
        case isFalse => cases read
  · rintro ⟨rfl, other⟩
    rw [opened, read?, if_pos rfl]
    exact readInside?_doubled text rest other

theorem quoted_append_inj {one other rest more : Text} (same : quoted one ++ rest = quoted other ++ more)
    (first : rest.head? ≠ some '\'') (second : more.head? ≠ some '\'') : one = other ∧ rest = more := by
  have left := (read?_eq_some_iff _ one rest).mpr ⟨rfl, first⟩
  have right := (read?_eq_some_iff _ other more).mpr ⟨rfl, second⟩
  rw [same, right] at left
  cases left
  exact ⟨rfl, rfl⟩

open Cursor

theorem content_doubled (text : Text) : Content '\'' (text.flatMap double) := by
  induction text with
  | nil => exact .nil
  | cons c text ih =>
      rw [List.flatMap_cons, double]
      by_cases special : c = '\\' ∨ c = '\''
      · rw [if_pos special]
        rcases special with rfl | rfl
        · exact .escape ih
        · exact .doubled ih
      · obtain ⟨noBackslash, noQuote⟩ := not_or.mp special
        rw [if_neg special]
        exact .char noQuote noBackslash ih

theorem nested_quoted (text : Text) : Nested false (quoted text) := by
  have token := Nested.token ⟨'\'', rfl⟩ (content_doubled text) (@Nested.nil false)
  simpa [quoted] using token

-- A blank behind each comma makes the next argument begin with it.
theorem join_spaced (first : Text) (rest : List Text) :
    Text.join [',', ' '] (first :: rest) = Text.join [','] (first :: rest.map (' ' :: ·)) := by
  induction rest generalizing first with
  | nil => rfl
  | cons next rest ih =>
      rw [List.map_cons, Text.join_cons_cons, Text.join_cons_cons, ih]
      simpa using (join_cons_append [' '] next (rest.map (' ' :: ·))).symm

theorem scanArguments_quoted (texts : List Text) (some : texts ≠ []) (rest : Text) :
    scanArguments ('(' :: Text.join [',', ' '] (texts.map quoted) ++ ')' :: rest) =
      (('(' :: Text.join [',', ' '] (texts.map quoted) ++ [')']).length, texts.length) := by
  cases texts with
  | nil => exact absurd rfl some
  | cons first others =>
      have arguments : ∀ argument ∈ quoted first :: (others.map quoted).map (' ' :: ·), Nested false argument := by
        intro argument inside
        rcases List.mem_cons.mp inside with rfl | later
        · exact nested_quoted first
        · obtain ⟨atom, listed, rfl⟩ := List.mem_map.mp later
          obtain ⟨text, _, rfl⟩ := List.mem_map.mp listed
          exact .char (by decide) (nested_quoted text)
      have filled : (quoted first).any isFiller = true := by simp [quoted, isFiller_quote ⟨'\'', rfl⟩]
      have scanned := scanArguments_listed arguments rest
      rw [shownArity, List.any_cons, filled, Bool.true_or, if_pos rfl, listed, ← join_spaced] at scanned
      simpa using scanned

end Atom

theorem Path.text_injective {p q : Path} (same : p.text = q.text) : p = q := by
  rw [← ofText_text p, ← ofText_text q, same]

namespace Text

theorem append_cons_inj {c : Char} {one other rest more : Text} (first : c ∉ one) (second : c ∉ other)
    (same : one ++ c :: rest = other ++ c :: more) : one = other ∧ rest = more := by
  induction one generalizing other with
  | nil =>
      cases other with
      | nil => exact ⟨rfl, (List.cons.inj same).2⟩
      | cons d other => exact absurd ((List.cons.inj same).1 ▸ List.mem_cons_self) second
  | cons d one ih =>
      cases other with
      | nil => exact absurd ((List.cons.inj same).1 ▸ List.mem_cons_self) first
      | cons e other =>
          obtain ⟨rfl, tails⟩ := List.cons.inj same
          obtain ⟨rfl, rfl⟩ := ih (fun inside => first (List.mem_cons_of_mem _ inside))
            (fun inside => second (List.mem_cons_of_mem _ inside)) tails
          exact ⟨rfl, rfl⟩

theorem ofNat_injective {one other : Nat} (same : ofNat one = ofNat other) : one = other := by
  rw [← numeral_ofNat one, ← numeral_ofNat other, same]

-- A digit comes first in the spelling of a natural number, and a minus sign in that of a negative one.
theorem ofNat_ne_minus (number : Nat) (rest : Text) : ofNat number ≠ '-' :: rest := by
  intro same
  have digit := ascii_of_mem_ofNat number '-' (same ▸ List.mem_cons_self)
  exact absurd digit (by decide)

theorem ofInt_injective {one other : Int} (same : ofInt one = ofInt other) : one = other := by
  cases one with
  | ofNat one =>
      cases other with
      | ofNat other => exact congrArg Int.ofNat (ofNat_injective same)
      | negSucc other => exact absurd same (ofNat_ne_minus one _)
  | negSucc one =>
      cases other with
      | ofNat other => exact absurd same.symm (ofNat_ne_minus other _)
      | negSucc other =>
          have spelled := ofNat_injective (List.cons.inj same).2
          exact congrArg Int.negSucc (Nat.succ.inj spelled)

end Text

theorem Query.predicate_injective {one other : Query} (same : one.predicate = other.predicate) : one = other := by
  revert same
  cases one <;> cases other <;> decide

theorem Query.parenthesis_notMem_predicate (query : Query) : '(' ∉ query.predicate.toList := by
  cases query <;> decide

namespace Goal

def tail (request : Request) : Text :=
  if request.kind.isPositional then
    [',', ' '] ++ (Atom.ofPath request.file ++ ([',', ' '] ++ (Text.ofInt (request.line + 1) ++ [')', '.'])))
  else [')', '.']

theorem ofRequest_eq (request : Request) (root : Path) :
    ofRequest request root = "vscode::".toList ++ (request.kind.predicate.toList ++
      '(' :: (Atom.ofPath root ++ ([',', ' '] ++ (request.symbol ++ tail request)))) := by
  unfold ofRequest clause tail
  cases request.kind.isPositional <;> simp [Text.join, List.intercalate]

theorem ofRequest_of_checked {request : Request} {root : Path} {goal : Text}
    (asked : checked request root = .ok goal) : ofRequest request root = goal := by
  unfold checked at asked
  split at asked
  case isTrue => cases asked
  case isFalse => exact Except.ok.inj asked

-- Behind the predicate each argument is read back in turn, up to what follows the symbol.
theorem parts_of_ofRequest {first second : Request} {root other : Path} (symbol : first.symbol = second.symbol)
    (same : ofRequest first root = ofRequest second other) :
    first.kind = second.kind ∧ root = other ∧ tail first = tail second := by
  rw [ofRequest_eq, ofRequest_eq] at same
  obtain ⟨predicate, arguments⟩ := Text.append_cons_inj first.kind.parenthesis_notMem_predicate
    second.kind.parenthesis_notMem_predicate (List.append_cancel_left same)
  obtain ⟨text, rest⟩ := Atom.quoted_append_inj arguments (by simp) (by simp)
  rw [symbol] at rest
  exact ⟨Query.predicate_injective (String.toList_injective predicate), Path.text_injective text,
    List.append_cancel_left (List.append_cancel_left rest)⟩

theorem position_of_tail {first second : Request} (kind : first.kind = second.kind) (same : tail first = tail second)
    (positional : first.kind.isPositional = true) : first.file = second.file ∧ first.line = second.line := by
  have also : second.kind.isPositional = true := kind ▸ positional
  rw [tail, tail, if_pos positional, if_pos also] at same
  obtain ⟨text, rest⟩ := Atom.quoted_append_inj (List.append_cancel_left same) (by simp) (by simp)
  have number := Text.ofInt_injective (List.append_cancel_right (List.append_cancel_left rest))
  exact ⟨Path.text_injective text, by omega⟩

/-- A quoted atom is read back whole, a list of them has as many arguments as it was written with, and the goals
of two requests about one symbol are the same only if the requests agree on all that a goal tells. -/
theorem goals_told_apart :
    (∀ whole text rest, Atom.read? whole = some (text, rest) ↔
      whole = Atom.quoted text ++ rest ∧ rest.head? ≠ some '\'') ∧
    (∀ texts rest, texts ≠ [] →
      Cursor.scanArguments ('(' :: Text.join [',', ' '] (texts.map Atom.quoted) ++ ')' :: rest) =
        (('(' :: Text.join [',', ' '] (texts.map Atom.quoted) ++ [')']).length, texts.length)) ∧
    ∀ first second root other goal, first.symbol = second.symbol →
      checked first root = .ok goal → checked second other = .ok goal →
        first.kind = second.kind ∧ root = other ∧
          (first.kind.isPositional = true → first.file = second.file ∧ first.line = second.line) := by
  refine ⟨Atom.read?_eq_some_iff, fun texts rest some => Atom.scanArguments_quoted texts some rest, ?_⟩
  intro first second root other goal symbol one two
  obtain ⟨kind, workspace, rest⟩ := parts_of_ofRequest symbol
    ((ofRequest_of_checked one).trans (ofRequest_of_checked two).symm)
  exact ⟨kind, workspace, position_of_tail kind rest⟩

-- A workspace whose path looks like the end of an argument list, and a request that is made twice on one line.
namespace Misleading

def root : Path := Path.ofString "/a\\', b)."

def request (character : Int) : Request := ⟨.incomingCalls, Path.ofString "/f", 2, character, "q/0".toList⟩

end Misleading

open Misleading in
theorem misleading_path_told_apart :
    Atom.read? (Atom.ofPath root ++ [')']) = some (root.text, [')']) ∧
    Cursor.scanArguments ('(' :: Text.join [',', ' '] ([root.text, ['\\']].map Atom.quoted) ++ [')', ',']) = (21, 2) ∧
    ∃ goal, checked (request 1) root = .ok goal ∧ checked (request 4) root = .ok goal ∧
      (request 1).file = (request 4).file ∧ (request 1).line = (request 4).line := by
  obtain ⟨atoms, lists, goals⟩ := goals_told_apart
  have asked : checked (request 1) root = .ok (ofRequest (request 1) root) := by decide +kernel
  have again : checked (request 4) root = .ok (ofRequest (request 1) root) := by decide +kernel
  refine ⟨(atoms _ _ _).mpr ⟨rfl, by decide⟩, lists [root.text, ['\\']] [','] (by simp), _, asked, again, ?_⟩
  obtain ⟨_, _, position⟩ := goals (request 1) (request 4) root root _ rfl asked again
  exact position rfl

end Goal

end LogtalkNavigation
