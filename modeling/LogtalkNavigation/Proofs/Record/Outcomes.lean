import LogtalkNavigation.Proofs.Record.Files
import LogtalkNavigation.Proofs.Record.Grammar
import LogtalkNavigation.Proofs.Text.Search

/-! Lines of test results. Such a line tells the outcome of a test, of the tests of an object, or of a file, and as
every field but the number is free text, one line may tell several outcomes of each form. It is read as the first of them:
the outcome of a test before that of an object before that of a file, and within a form by the length of the file, then
of the object, then of the test. Only the number of the outcome read decides whether the line is a record. -/

namespace LogtalkNavigation.Record

open Text

theorem trimEnd_split (text : Text) : ∃ blanks, allBlank blanks = true ∧ text = trimEnd text ++ blanks := by
  refine ⟨(text.reverse.takeWhile isBlank).reverse, ?_, ?_⟩
  · rw [allBlank, List.all_reverse]
    exact List.all_takeWhile
  · rw [trimEnd, ← List.reverse_append, List.takeWhile_append_dropWhile, List.reverse_reverse]

theorem endsFilled_trimEnd (text : Text) : EndsFilled (trimEnd text) := by
  intro c last
  rw [trimEnd, List.getLast?_reverse] at last
  exact filled_of_dropWhile text.reverse c last

def verdict (ending : Text) : Text × Option Text :=
  match indexOf? ";Reason:".toList ending with
  | some column => (ending.take column, some (trimEnd (ending.drop (column + ";Reason:".length))))
  | none => (trimEnd ending, none)

theorem endsFilled_verdict (ending : Text) : EndsFilled ((verdict ending).2.getD (verdict ending).1) := by
  unfold verdict
  split
  · exact endsFilled_trimEnd _
  · exact endsFilled_trimEnd _

theorem lastStatus_ending (ending : Text) (clean : OneLine ending) :
    lastStatus? (";Status:".toList ++ ending) = some (trimEnd ending) := by
  obtain ⟨blanks, blank, split⟩ := trimEnd_split ending
  have oneLine : OneLine (trimEnd ending) := fun inside => clean (split ▸ List.mem_append_left blanks inside)
  have read := lastStatus_spelled (trimEnd ending) blanks oneLine (endsFilled_trimEnd ending) blank
  rwa [← split] at read

-- In front of the first tag there is none.
theorem free_before_first (part text : Text) (column : Nat) (nonempty : part ≠ []) (first : FirstAt part text column) :
    ¬ part <:+: text.take column := by
  rintro ⟨front, back, inside⟩
  have whole : text = front ++ (part ++ (back ++ text.drop column)) := by
    conv_lhs => rw [← List.take_append_drop column text, ← inside]
    simp
  have bound := congrArg List.length inside
  have size := List.length_pos_iff.mpr nonempty
  simp only [List.length_append, List.length_take] at bound
  apply first.2 front.length (by omega)
  rw [whole, List.drop_left]
  exact List.prefix_append _ _

theorem lastStatusReason_ending (ending : Text) (clean : OneLine ending) :
    lastStatusReason? (";Status:".toList ++ ending) = some (verdict ending) := by
  have nonempty : ";Reason:".toList ≠ [] := by decide
  unfold verdict
  split
  case h_1 column found =>
    have first := (indexOf?_eq_some_iff nonempty column).mp found
    obtain ⟨rest, tagged⟩ := first.1
    have behind : ending.drop (column + ";Reason:".length) = rest := by
      rw [← List.drop_drop, ← tagged]
      exact List.drop_left
    obtain ⟨blanks, blank, split⟩ := trimEnd_split rest
    have whole : ending = ending.take column ++ (reasonTail (some (trimEnd rest)) ++ blanks) := by
      conv_lhs => rw [← List.take_append_drop column ending, ← tagged, split]
      simp [reasonTail]
    have oneLine : OneLine (ending.take column) := fun inside => clean (List.mem_of_mem_take inside)
    have reasonLine : OneLine (trimEnd rest) := fun inside =>
      clean (whole ▸ by simp [reasonTail, inside])
    have read := lastStatusReason_spelled (ending.take column) (some (trimEnd rest)) blanks oneLine
      (free_before_first _ ending column nonempty first) (by rintro text ⟨⟩; exact reasonLine)
      (endsFilled_trimEnd rest) blank
    rwa [← whole, ← behind] at read
  case h_2 absent =>
    have free := (indexOf?_eq_none_iff nonempty ending).mp absent
    obtain ⟨blanks, blank, split⟩ := trimEnd_split ending
    have oneLine : OneLine (trimEnd ending) := fun inside => clean (split ▸ List.mem_append_left blanks inside)
    have inside : trimEnd ending <:+: ending := ⟨[], blanks, by simpa using split.symm⟩
    have read := lastStatusReason_spelled (trimEnd ending) none blanks oneLine
      (fun tagged => free (tagged.trans inside)) (by rintro text ⟨⟩) (endsFilled_trimEnd ending) blank
    rwa [reasonTail_none, List.nil_append, ← split] at read

inductive Outcome where
  | ofTest (file line object name result : Text) (reason : Option Text)
  | ofObject (file line object result : Text)
  | ofFile (file line result : Text)

namespace Outcome

def line : Outcome → Text
  | .ofTest _ line _ _ _ _ | .ofObject _ line _ _ | .ofFile _ line _ => line

def last : Outcome → Text
  | .ofTest _ _ _ _ result reason => reason.getD result
  | .ofObject _ _ _ result | .ofFile _ _ result => result

def record : Outcome → Record
  | .ofTest file line object name result reason =>
    .test ⟨tidy file, numeral line, object, name, result, reason⟩
  | .ofObject file line object result => .summary ⟨tidy file, numeral line, object, result⟩
  | .ofFile file line result => .status ⟨tidy file, numeral line, result⟩

/-- By this the outcomes that a line tells are ordered, the first number first. -/
def order : Outcome → List Nat
  | .ofTest file _ object name _ _ => [0, file.length, object.length, name.length]
  | .ofObject file _ object _ => [1, file.length, object.length]
  | .ofFile file _ _ => [2, file.length]

end Outcome

/-- The line can be divided so that it tells this outcome. What stands behind the tag of the status is any text. -/
def Tells (text : Text) : Outcome → Prop
  | .ofTest file line object name result reason =>
    ∃ tag ending, FileTag tag ∧ file ≠ [] ∧ Digits line ∧ object ≠ [] ∧ name ≠ [] ∧
      verdict ending = (result, reason) ∧
      text = tag ++ (file ++ (";Line:".toList ++ (line ++ (";Object:".toList ++ (object ++ (";Test:".toList ++
        (name ++ (";Status:".toList ++ ending))))))))
  | .ofObject file line object result =>
    ∃ tag ending, FileTag tag ∧ file ≠ [] ∧ Digits line ∧ object ≠ [] ∧ trimEnd ending = result ∧
      text = tag ++ (file ++ (";Line:".toList ++ (line ++ (";Object:".toList ++ (object ++
        (";Status:".toList ++ ending))))))
  | .ofFile file line result =>
    ∃ tag ending, FileTag tag ∧ file ≠ [] ∧ Digits line ∧ trimEnd ending = result ∧
      text = tag ++ (file ++ (";Line:".toList ++ (line ++ (";Status:".toList ++ ending))))

section Readers
variable {α : Type} {follower : Text → Option α} {Parse : Text → α → Prop} {sizes : α → List Nat}

-- A reader that needs the tag of the status, and takes any ending.
theorem finds_ending (read : Text → α)
    (demands : ∀ text, after? ";Status:".toList text = none → follower text = none)
    (accepts : ∀ ending, OneLine ending → follower (";Status:".toList ++ ending) = some (read ending)) :
    Finds follower (fun text found => ∃ ending, text = ";Status:".toList ++ ending ∧ read ending = found)
      fun _ => [] := by
  refine finds_of_iff (fun text found clean => ⟨?_, ?_⟩) []
  · intro accepted
    cases tagged : after? ";Status:".toList text with
    | none => rw [demands text tagged] at accepted; cases accepted
    | some ending =>
        obtain rfl := (after_eq_some_iff _ _ _).mp tagged
        rw [accepts ending fun inside => clean (List.mem_append_right _ inside)] at accepted
        exact ⟨ending, rfl, Option.some.inj accepted⟩
  · rintro ⟨ending, rfl, rfl⟩
    exact accepts ending fun inside => clean (List.mem_append_right _ inside)

theorem finds_objectOf (finds : Finds follower Parse sizes) :
    Finds (objectOf? follower)
      (fun text found => ∃ back, Digits found.1 ∧ found.2.1 ≠ [] ∧ Parse back found.2.2 ∧
        text = ";Line:".toList ++ (found.1 ++ (";Object:".toList ++ (found.2.1 ++ back))))
      fun found => found.2.1.length :: sizes found.2.2 := by
  have search := (finds.shortestSome.behind _ (after_suffix ";Object:".toList)).beside lineField? lineField_suffix
  have reader : objectOf? follower = fun text => (lineField? text).bind fun taken =>
      ((after? ";Object:".toList taken.2).bind (shortestSome follower)).map (taken.1, ·) := by
    funext text
    simp only [objectOf?, afterTag?, Option.bind_eq_bind, Option.pure_def, Option.map_eq_bind, Option.bind_assoc,
      Function.comp_def]
  rw [reader]
  refine search.congr fun text found => ?_
  simp only [lineField?_eq_some_iff, after_eq_some_iff]
  constructor
  · rintro ⟨_, ⟨rfl, digits, _⟩, _, rfl, back, rfl, filled, parse⟩
    exact ⟨back, digits, filled, parse, rfl⟩
  · rintro ⟨back, digits, filled, parse, rfl⟩
    exact ⟨_, ⟨rfl, digits, stops_semicolon _⟩, _, rfl, back, rfl, filled, parse⟩

theorem finds_behindFile (finds : Finds follower Parse sizes) :
    Finds (fun text => (afterFileTag? text).bind (shortestSome follower))
      (fun text found => ∃ tag back, FileTag tag ∧ found.1 ≠ [] ∧ Parse back found.2 ∧
        text = tag ++ (found.1 ++ back))
      fun found => found.1.length :: sizes found.2 := by
  have suffix (text rest : Text) (taken : afterFileTag? text = some rest) : rest <:+ text := by
    obtain ⟨tag, _, rfl⟩ := (afterFileTag?_eq_some_iff text rest).mp taken
    exact List.suffix_append tag rest
  refine (finds.shortestSome.behind _ suffix).congr fun text found => ?_
  simp only [afterFileTag?_eq_some_iff]
  constructor
  · rintro ⟨_, ⟨tag, spelled, rfl⟩, back, rfl, filled, parse⟩
    exact ⟨tag, back, spelled, filled, parse, rfl⟩
  · rintro ⟨tag, back, spelled, filled, parse, rfl⟩
    exact ⟨_, ⟨tag, spelled, rfl⟩, back, rfl, filled, parse⟩

end Readers

theorem finds_testFields :
    Finds testFields?
      (fun text found => Tells text (.ofTest found.1 found.2.1 found.2.2.1 found.2.2.2.1 found.2.2.2.2.1 found.2.2.2.2.2))
      fun found => [found.1.length, found.2.2.1.length, found.2.2.2.1.length] := by
  have ending := finds_ending verdict lastStatusReason_demands lastStatusReason_ending
  have search := finds_behindFile (finds_objectOf (ending.shortestSome.behind _ (after_suffix ";Test:".toList)))
  refine search.congr fun text found => ?_
  simp only [after_eq_some_iff]
  constructor
  · rintro ⟨tag, _, spelled, filled, ⟨_, digits, object, ⟨_, rfl, _, rfl, name, ending, rfl, judged⟩, rfl⟩, rfl⟩
    exact ⟨tag, ending, spelled, filled, digits, object, name, judged, rfl⟩
  · rintro ⟨tag, ending, spelled, filled, digits, object, name, judged, rfl⟩
    exact ⟨tag, _, spelled, filled, ⟨_, digits, object, ⟨_, rfl, _, rfl, name, ending, rfl, judged⟩, rfl⟩, rfl⟩

theorem finds_summaryFields :
    Finds summaryFields? (fun text found => Tells text (.ofObject found.1 found.2.1 found.2.2.1 found.2.2.2))
      fun found => [found.1.length, found.2.2.1.length] := by
  have ending := finds_ending trimEnd lastStatus_demands lastStatus_ending
  refine (finds_behindFile (finds_objectOf ending)).congr fun text found => ?_
  constructor
  · rintro ⟨tag, _, spelled, filled, ⟨_, digits, object, ⟨ending, rfl, trimmed⟩, rfl⟩, rfl⟩
    exact ⟨tag, ending, spelled, filled, digits, object, trimmed, rfl⟩
  · rintro ⟨tag, ending, spelled, filled, digits, object, trimmed, rfl⟩
    exact ⟨tag, _, spelled, filled, ⟨_, digits, object, ⟨ending, rfl, trimmed⟩, rfl⟩, rfl⟩

theorem finds_statusFields :
    Finds statusFields? (fun text found => Tells text (.ofFile found.1 found.2.1 found.2.2))
      fun found => [found.1.length] := by
  have ending := finds_ending trimEnd lastStatus_demands lastStatus_ending
  have reader : lastLineStatus? = fun text => (lineField? text).bind fun taken =>
      (lastStatus? taken.2).map (taken.1, ·) := by
    funext text
    simp only [lastLineStatus?, Option.bind_eq_bind, Option.pure_def, Option.map_eq_bind, Function.comp_def]
  have search := finds_behindFile (ending.beside lineField? lineField_suffix)
  rw [← reader] at search
  refine search.congr fun text found => ?_
  simp only [lineField?_eq_some_iff]
  constructor
  · rintro ⟨tag, _, spelled, filled, ⟨_, ⟨rfl, digits, _⟩, ending, rfl, trimmed⟩, rfl⟩
    exact ⟨tag, ending, spelled, filled, digits, trimmed, rfl⟩
  · rintro ⟨tag, ending, spelled, filled, digits, trimmed, rfl⟩
    exact ⟨tag, _, spelled, filled, ⟨_, ⟨rfl, digits, stops_semicolon _⟩, ending, rfl, trimmed⟩, rfl⟩

def outcome? (text : Text) : Option Outcome :=
  ((testFields? text).map fun found =>
    .ofTest found.1 found.2.1 found.2.2.1 found.2.2.2.1 found.2.2.2.2.1 found.2.2.2.2.2).or
  (((summaryFields? text).map fun found => .ofObject found.1 found.2.1 found.2.2.1 found.2.2.2).or
  ((statusFields? text).map fun found => .ofFile found.1 found.2.1 found.2.2))

theorem finds_outcome : Finds outcome? Tells Outcome.order := by
  have tests := (finds_testFields.ranked 0).map (fun found => Outcome.ofTest found.1 found.2.1 found.2.2.1
    found.2.2.2.1 found.2.2.2.2.1 found.2.2.2.2.2) Outcome.order fun _ => rfl
  have summaries := (finds_summaryFields.ranked 1).map (fun found => Outcome.ofObject found.1 found.2.1 found.2.2.1
    found.2.2.2) Outcome.order fun _ => rfl
  have statuses := (finds_statusFields.ranked 2).map (fun found => Outcome.ofFile found.1 found.2.1 found.2.2)
    Outcome.order fun _ => rfl
  refine (tests.orElse (summaries.orElse statuses ?_) ?_).congr fun text outcome => ?_
  · rintro text _ _ ⟨_, _, rfl⟩ ⟨_, _, rfl⟩
    exact ⟨.inl Nat.one_lt_two, nofun⟩
  · rintro text _ _ ⟨_, _, rfl⟩ (⟨_, _, rfl⟩ | ⟨_, _, rfl⟩) <;> exact ⟨.inl (Nat.succ_pos _), nofun⟩
  · constructor
    · rintro (⟨_, tells, rfl⟩ | ⟨_, tells, rfl⟩ | ⟨_, tells, rfl⟩) <;> exact tells
    · intro tells
      cases outcome with
      | ofTest file line object name result reason =>
          exact .inl ⟨(file, line, object, name, result, reason), tells, rfl⟩
      | ofObject file line object result => exact .inr (.inl ⟨(file, line, object, result), tells, rfl⟩)
      | ofFile file line result => exact .inr (.inr ⟨(file, line, result), tells, rfl⟩)

theorem few_number {tag file digits rest : Text}
    (few : FewDigits (tag ++ (file ++ (";Line:".toList ++ (digits ++ rest))))) (spelled : Digits digits) :
    digits.length ≤ maxDigits :=
  few digits ⟨tag ++ (file ++ ";Line:".toList), rest, by simp only [List.append_assoc]⟩ spelled.2

theorem Tells.digits_few {text : Text} {outcome : Outcome} (tells : Tells text outcome) (few : FewDigits text) :
    outcome.line.length ≤ maxDigits := by
  cases outcome with
  | ofTest file line object name result reason =>
      obtain ⟨tag, ending, _, _, digits, _, _, _, rfl⟩ := tells
      exact few_number few digits
  | ofObject file line object result =>
      obtain ⟨tag, ending, _, _, digits, _, _, rfl⟩ := tells
      exact few_number few digits
  | ofFile file line result =>
      obtain ⟨tag, ending, _, _, digits, _, rfl⟩ := tells
      exact few_number few digits

theorem Tells.endsFilled {text : Text} {outcome : Outcome} (tells : Tells text outcome) : EndsFilled outcome.last := by
  cases outcome with
  | ofTest file line object name result reason =>
      obtain ⟨_, ending, _, _, _, _, _, judged, _⟩ := tells
      have filled := endsFilled_verdict ending
      rwa [judged] at filled
  | ofObject file line object result =>
      obtain ⟨_, ending, _, _, _, _, rfl, _⟩ := tells
      exact endsFilled_trimEnd ending
  | ofFile file line result =>
      obtain ⟨_, ending, _, _, _, rfl, _⟩ := tells
      exact endsFilled_trimEnd ending

/-- What is read from a line follows from its outcome. -/
theorem ofLine_eq_outcome (line : Text) (oneLine : OneLine line) (few : FewDigits line) :
    ofLine .tests line =
      match outcome? line with
      | none => .error (malformed .tests line)
      | some outcome => if 1 ≤ numeral outcome.line then .ok outcome.record else .error (malformed .tests line) := by
  have short (outcome : Outcome) (read : outcome? line = some outcome) : outcome.line.length ≤ maxDigits :=
    (finds_outcome.parsed line outcome oneLine read).digits_few few
  rw [ofLine, testOfLine]
  cases tested : testFields? line with
  | some found =>
      have read : outcome? line = some (.ofTest found.1 found.2.1 found.2.2.1 found.2.2.2.1 found.2.2.2.2.1
          found.2.2.2.2.2) := by
        rw [outcome?, tested]
        rfl
      rw [read]
      exact counted_of_few found.2.1 (short _ read) _
  | none =>
      cases summed : summaryFields? line with
      | some found =>
          have read : outcome? line = some (.ofObject found.1 found.2.1 found.2.2.1 found.2.2.2) := by
            rw [outcome?, tested, summed]
            rfl
          rw [read]
          exact counted_of_few found.2.1 (short _ read) _
      | none =>
          cases stated : statusFields? line with
          | some found =>
              have read : outcome? line = some (.ofFile found.1 found.2.1 found.2.2) := by
                rw [outcome?, tested, summed, stated]
                rfl
              rw [read]
              exact counted_of_few found.2.1 (short _ read) _
          | none =>
              have read : outcome? line = none := by
                rw [outcome?, tested, summed, stated]
                rfl
              rw [read]

/-- A line is read as the first outcome that it tells, and is a record unless the number of that outcome is zero. -/
theorem first_outcome_read (line : Text) (oneLine : OneLine line) (few : FewDigits line) :
    ((∀ outcome, ¬ Tells line outcome) → ofLine .tests line = .error (malformed .tests line)) ∧
    ((∃ outcome, Tells line outcome) → ∃ first, Tells line first ∧
      (∀ other, Tells line other → NoLater first.order other.order) ∧
      ofLine .tests line =
        if 1 ≤ numeral first.line then .ok first.record else .error (malformed .tests line)) ∧
    (∀ one other, Tells line one → Tells line other → one.order = other.order → one = other) ∧
    (∀ outcome, Tells line outcome → EndsFilled outcome.last) := by
  have reading := ofLine_eq_outcome line oneLine few
  refine ⟨?_, ?_, ?_, fun outcome tells => tells.endsFilled⟩
  · intro silent
    rw [reading, (finds_outcome.eq_none_iff oneLine).mpr silent]
  · rintro ⟨outcome, tells⟩
    obtain ⟨first, read⟩ := Option.isSome_iff_exists.mp (finds_outcome.complete line outcome oneLine tells)
    obtain ⟨told, least⟩ := (finds_outcome.eq_some_iff oneLine first).mp read
    exact ⟨first, told, least, by rw [reading, read]⟩
  · intro one other told also
    exact finds_outcome.apart line one other oneLine told also

-- The line tells the outcomes of two tests in two files, and is read as the one in the file with the shorter name.
theorem repeated_tags_read :
    let line := "File:a;Line:3;Object:o;Test:t;Line:2;Object:p;Test:u;Status:x;Reason:y;Reason:z ".toList
    OneLine line ∧ FewDigits line ∧
      Tells line (.ofTest "a;Line:3;Object:o;Test:t".toList "2".toList "p".toList "u".toList "x".toList
        (some "y;Reason:z".toList)) ∧
      ofLine .tests line = .ok (.test ⟨"a".toList, 3, "o".toList, "t;Line:2;Object:p;Test:u".toList, "x".toList,
        some "y;Reason:z".toList⟩) ∧
      ∃ first, Tells line first ∧ (∀ other, Tells line other → NoLater first.order other.order) ∧
        ofLine .tests line =
          if 1 ≤ numeral first.line then .ok first.record else .error (malformed .tests line) := by
  intro line
  have oneLine : OneLine line := by simp [OneLine, line]
  have few : FewDigits line := few_of_short _ (by decide)
  have digits : Digits "2".toList := ⟨by decide, List.all_eq_true.mp (by decide +kernel)⟩
  have second : Tells line (.ofTest "a;Line:3;Object:o;Test:t".toList "2".toList "p".toList "u".toList "x".toList
      (some "y;Reason:z".toList)) :=
    ⟨_, "x;Reason:y;Reason:z ".toList, fileTag_plain, by decide, digits, by decide, by decide, by decide +kernel, rfl⟩
  exact ⟨oneLine, few, second, by decide +kernel, (first_outcome_read line oneLine few).2.1 ⟨_, second⟩⟩

/-- The outcome of a file is no record either if it counts from zero, and a reason is told of a test only. -/
theorem zero_status_refused_and_reason_kept :
    let zero := "File:a;Line:0;Status:x".toList
    let reasoned := "File:a;Line:1;Object:o;Status:s;Reason:r".toList
    testFields? zero = none ∧ summaryFields? zero = none ∧
      Tells zero (.ofFile "a".toList "0".toList "x".toList) ∧
      ofLine .tests zero = .error (malformed .tests zero) ∧
      verdict "s;Reason:r".toList = ("s".toList, some "r".toList) ∧
      ofLine .tests reasoned = .ok (.summary ⟨"a".toList, 1, "o".toList, "s;Reason:r".toList⟩) := by
  have digits : Digits "0".toList := ⟨by decide, List.all_eq_true.mp (by decide +kernel)⟩
  refine ⟨by decide +kernel, by decide +kernel, ?_, by decide +kernel, by decide +kernel, by decide +kernel⟩
  exact ⟨_, "x".toList, fileTag_plain, by decide, digits, by decide +kernel, rfl⟩

end LogtalkNavigation.Record
