import LogtalkNavigation.Proofs.Text.Division
import LogtalkNavigation.Proofs.Text.Numeral
import LogtalkNavigation.Record.Line

/-! What the readers of single fields accept. Each is told by the texts it takes apart: the tag of the file, a run of
digits, the digits of a line, what may stand at the end of a line. A file that reaches as far as possible has only one
end, since what follows it is known by its semicolons. -/

namespace LogtalkNavigation.Record

open Text

def FileTag (tag : Text) : Prop :=
  ∃ f ∈ ['F', 'f'], ∃ i ∈ ['I', 'i', 'İ', 'ı'], ∃ l ∈ ['L', 'l'], ∃ e ∈ ['E', 'e'],
    tag = [f, i, l, e, ':']

def Digits (text : Text) : Prop := text ≠ [] ∧ ∀ c ∈ text, isDigit c = true

theorem afterFileTag?_eq_some_iff (text rest : Text) :
    afterFileTag? text = some rest ↔ ∃ tag, FileTag tag ∧ text = tag ++ rest := by
  constructor
  · intro tagged
    unfold afterFileTag? at tagged
    split at tagged
    case h_1 f i l e behind =>
      split at tagged
      case isTrue letters =>
        cases tagged
        obtain ⟨isF, isI, isL, isE⟩ := letters
        exact ⟨[f, i, l, e, ':'], ⟨f, by simpa using isF, i, by simpa using isI, l, by simpa using isL,
          e, by simpa using isE, rfl⟩, rfl⟩
      case isFalse => cases tagged
    case h_2 => cases tagged
  · rintro ⟨_, ⟨f, isF, i, isI, l, isL, e, isE, rfl⟩, rfl⟩
    simp only [List.mem_cons, List.not_mem_nil, or_false] at isF isI isL isE
    simp [afterFileTag?, isF, isI, isL, isE]

theorem FileTag.length {tag : Text} (spelled : FileTag tag) : tag.length = 5 := by
  obtain ⟨f, _, i, _, l, _, e, _, rfl⟩ := spelled
  rfl

theorem FileTag.semicolon_notMem {tag : Text} (spelled : FileTag tag) : ';' ∉ tag := by
  obtain ⟨f, isF, i, isI, l, isL, e, isE, rfl⟩ := spelled
  have plain : ∀ c ∈ ['F', 'f', 'I', 'i', 'İ', 'ı', 'L', 'l', 'E', 'e', ':'], ';' ≠ c := by simp
  simp only [List.mem_cons, List.not_mem_nil, or_false, not_or] at isF isI isL isE plain ⊢
  grind

theorem fileTag_plain : FileTag "File:".toList := ⟨'F', by simp, 'i', by simp, 'l', by simp, 'e', by simp, rfl⟩

theorem digits_ofNat (number : Nat) : Digits (ofNat number) := ⟨ofNat_ne_nil number, isDigit_of_mem_ofNat number⟩

theorem Digits.plain {digits : Text} (spelled : Digits digits) : ';' ∉ digits := fun inside =>
  absurd (spelled.2 ';' inside) (by decide +kernel)

theorem semicolon_notMem_blanks (blanks : Text) (blank : allBlank blanks = true) : ';' ∉ blanks :=
  fun inside => absurd (List.all_eq_true.mp blank ';' inside) (by decide +kernel)

-- What stands behind a run of digits does not go on with a digit.
def Stops (rest : Text) : Prop := ∀ c, rest.head? = some c → isDigit c = false

theorem stops_blanks (blanks : Text) (blank : allBlank blanks = true) : Stops blanks := by
  intro c head
  have inside : isBlank c = true := List.all_eq_true.mp blank c (List.mem_of_head? head)
  cases digit : isDigit c with
  | false => rfl
  | true => rw [digit_not_blank c digit] at inside; cases inside

theorem stops_semicolon (rest : Text) : Stops (';' :: rest) := by
  intro c head
  cases head
  decide +kernel

theorem digits?_eq_some_iff (text digits rest : Text) :
    digits? text = some (digits, rest) ↔ text = digits ++ rest ∧ Digits digits ∧ Stops rest := by
  constructor
  · intro taken
    unfold digits? at taken
    split at taken
    case h_1 => cases taken
    case h_2 some =>
      obtain ⟨split, allDigits, stops⟩ := (span_digits_iff text digits rest).mp (Option.some.inj taken)
      refine ⟨split, ⟨?_, allDigits⟩, stops⟩
      rintro rfl
      exact some rest (Option.some.inj taken)
  · rintro ⟨split, ⟨filled, allDigits⟩, stops⟩
    unfold digits?
    rw [(span_digits_iff text digits rest).mpr ⟨split, allDigits, stops⟩]
    cases digits with
    | nil => exact absurd rfl filled
    | cons c digits => rfl

theorem lineField?_eq_some_iff (text line rest : Text) :
    lineField? text = some (line, rest) ↔
      text = ";Line:".toList ++ (line ++ rest) ∧ Digits line ∧ Stops rest := by
  unfold lineField? afterTag?
  rw [Option.bind_eq_bind, Option.bind_eq_some_iff]
  simp only [after_eq_some_iff, digits?_eq_some_iff]
  constructor
  · rintro ⟨behind, rfl, rfl, digits, stops⟩
    exact ⟨rfl, digits, stops⟩
  · rintro ⟨rfl, digits, stops⟩
    exact ⟨_, rfl, rfl, digits, stops⟩

theorem lineField_suffix (text line rest : Text) (taken : lineField? text = some (line, rest)) : rest <:+ text := by
  obtain ⟨rfl, _⟩ := (lineField?_eq_some_iff text line rest).mp taken
  exact ⟨";Line:".toList ++ line, by simp⟩

theorem lineEnd?_eq_some_iff (text : Text) (found : Unit) : lineEnd? text = some found ↔ allBlank text = true := by
  unfold lineEnd?
  split
  case isTrue blank => simp [blank]
  case isFalse filled => simp [filled]

theorem lastLine?_eq_some_iff (text line : Text) :
    lastLine? text = some line ↔
      ∃ blanks, text = ";Line:".toList ++ (line ++ blanks) ∧ Digits line ∧ allBlank blanks = true := by
  simp only [lastLine?, Option.bind_eq_bind, Option.bind_eq_some_iff, Prod.exists, lineField?_eq_some_iff,
    lineEnd?_eq_some_iff, Option.pure_def, Option.some.injEq]
  constructor
  · rintro ⟨_, blanks, ⟨rfl, digits, _⟩, _, blank, rfl⟩
    exact ⟨blanks, rfl, digits, blank⟩
  · rintro ⟨blanks, rfl, digits, blank⟩
    exact ⟨line, blanks, ⟨rfl, digits, stops_blanks blanks blank⟩, (), blank, rfl⟩

theorem lastScore?_eq_some_iff (text line score : Text) :
    lastScore? text = some (line, score) ↔
      ∃ blanks, text = ";Line:".toList ++ (line ++ (";Score:".toList ++ (score ++ blanks))) ∧ Digits line ∧
        Digits score ∧ allBlank blanks = true := by
  simp only [lastScore?, afterTag?, Option.bind_eq_bind, Option.bind_eq_some_iff, Prod.exists, lineField?_eq_some_iff,
    after_eq_some_iff, digits?_eq_some_iff, lineEnd?_eq_some_iff, Option.pure_def, Option.some.injEq, Prod.mk.injEq]
  constructor
  · rintro ⟨_, _, ⟨rfl, digits, _⟩, _, rfl, _, blanks, ⟨rfl, scored, _⟩, _, blank, rfl, rfl⟩
    exact ⟨blanks, rfl, digits, scored, blank⟩
  · rintro ⟨blanks, rfl, digits, scored, blank⟩
    exact ⟨line, _, ⟨rfl, digits, stops_semicolon _⟩, _, rfl, score, blanks,
      ⟨rfl, scored, stops_blanks blanks blank⟩, (), blank, rfl, rfl⟩

section Longest
variable {α : Type}

/-- What the follower accepts starts with a semicolon and has a fixed number of them. So behind a text that it
accepts there is no other. -/
def Counted (follower : Text → Option α) (count : Nat) : Prop :=
  ∀ text found, follower text = some found → (∃ rest, text = ';' :: rest) ∧ text.count ';' = count

theorem longestSome_eq_some_iff {follower : Text → Option α} {count : Nat} (counted : Counted follower count)
    (text field : Text) (found : α) :
    longestSome follower text = some (field, found) ↔
      ∃ rest, text = field ++ rest ∧ field ≠ [] ∧ '\n' ∉ field ∧ follower rest = some found := by
  constructor
  · exact longestSome_divides follower text field found
  · rintro ⟨_, rfl, filled, clean, accepted⟩
    obtain ⟨⟨rest, rfl⟩, number⟩ := counted _ found accepted
    refine longestSome_of_last follower field rest ';' found filled clean accepted fun part ends => ?_
    cases again : follower part with
    | none => rfl
    | some other =>
        have many := (counted part other again).2
        have few := ends.sublist.count_le ';'
        rw [List.count_cons_self] at number
        omega

theorem counted_lastLine : Counted lastLine? 1 := by
  intro text line read
  obtain ⟨blanks, rfl, digits, blank⟩ := (lastLine?_eq_some_iff text line).mp read
  refine ⟨⟨_, rfl⟩, ?_⟩
  rw [List.count_append, List.count_append, List.count_eq_zero_of_not_mem digits.plain,
    List.count_eq_zero_of_not_mem (semicolon_notMem_blanks blanks blank)]
  rfl

theorem counted_lastScore : Counted lastScore? 2 := by
  rintro text ⟨line, score⟩ read
  obtain ⟨blanks, rfl, digits, scored, blank⟩ := (lastScore?_eq_some_iff text line score).mp read
  refine ⟨⟨_, rfl⟩, ?_⟩
  rw [List.count_append, List.count_append, List.count_append, List.count_append,
    List.count_eq_zero_of_not_mem digits.plain, List.count_eq_zero_of_not_mem scored.plain,
    List.count_eq_zero_of_not_mem (semicolon_notMem_blanks blanks blank)]
  rfl

/-- The file behind its tag, in front of what the follower accepts. -/
theorem file_eq_some_iff {follower : Text → Option α} {count : Nat} (counted : Counted follower count)
    (text file : Text) (found : α) :
    (afterFileTag? text).bind (longestSome follower) = some (file, found) ↔
      ∃ tag rest, FileTag tag ∧ text = tag ++ (file ++ rest) ∧ file ≠ [] ∧ '\n' ∉ file ∧
        follower rest = some found := by
  simp only [Option.bind_eq_some_iff, afterFileTag?_eq_some_iff, longestSome_eq_some_iff counted]
  constructor
  · rintro ⟨_, ⟨tag, spelled, rfl⟩, rest, rfl, divided⟩
    exact ⟨tag, rest, spelled, rfl, divided⟩
  · rintro ⟨tag, rest, spelled, rfl, divided⟩
    exact ⟨file ++ rest, ⟨tag, spelled, rfl⟩, rest, rfl, divided⟩

end Longest

theorem place?_eq_some_iff (text file line : Text) :
    place? text = some (file, line) ↔
      ∃ tag blanks, FileTag tag ∧ file ≠ [] ∧ '\n' ∉ file ∧ Digits line ∧ allBlank blanks = true ∧
        text = tag ++ (file ++ (";Line:".toList ++ (line ++ blanks))) := by
  refine (file_eq_some_iff counted_lastLine text file line).trans ?_
  simp only [lastLine?_eq_some_iff]
  constructor
  · rintro ⟨tag, _, spelled, rfl, filled, clean, blanks, rfl, digits, blank⟩
    exact ⟨tag, blanks, spelled, filled, clean, digits, blank, rfl⟩
  · rintro ⟨tag, blanks, spelled, filled, clean, digits, blank, rfl⟩
    exact ⟨tag, _, spelled, rfl, filled, clean, blanks, rfl, digits, blank⟩

theorem metricFields?_eq_some_iff (text file line score : Text) :
    metricFields? text = some (file, line, score) ↔
      ∃ tag blanks, FileTag tag ∧ file ≠ [] ∧ '\n' ∉ file ∧ Digits line ∧ Digits score ∧ allBlank blanks = true ∧
        text = tag ++ (file ++ (";Line:".toList ++ (line ++ (";Score:".toList ++ (score ++ blanks))))) := by
  refine (file_eq_some_iff counted_lastScore text file (line, score)).trans ?_
  simp only [lastScore?_eq_some_iff]
  constructor
  · rintro ⟨tag, _, spelled, rfl, filled, clean, blanks, rfl, digits, scored, blank⟩
    exact ⟨tag, blanks, spelled, filled, clean, digits, scored, blank, rfl⟩
  · rintro ⟨tag, blanks, spelled, filled, clean, digits, scored, blank, rfl⟩
    exact ⟨tag, _, spelled, rfl, filled, clean, blanks, rfl, digits, scored, blank⟩

end LogtalkNavigation.Record
