import LogtalkNavigation.Proofs.Record.Readers

/-! Records written out as the engine writes them, and read back. `rendered` is the documented form of a
line, `Written` says of which records it keeps every field apart, and reading such a line gives the record
it was made from, blanks at its end or not. The fields are taken off from the left: each lemma says what
one reader finds in front of a rest that the readers behind it accept. -/

namespace LogtalkNavigation.Record

open Text

def field (tag : String) (value : Text) : Text := tag.toList ++ ':' :: value

def rendered (record : Record) : Text :=
  join [';'] <| match record with
    | .call r => [field "Name" r.name, field "File" r.file, field "Line" (ofInt r.line)]
    | .entity r =>
      [field "Type" r.entityType, field "Name" r.name, field "File" r.file,
        field "Line" (ofInt r.line)]
    | .location r => [field "File" r.file, field "Line" (ofInt r.line)]
    | .test r =>
      [field "File" r.file, field "Line" (ofInt r.line), field "Object" r.object,
        field "Test" r.test, field "Status" r.status] ++ (r.reason.map (field "Reason")).toList
    | .summary r =>
      [field "File" r.file, field "Line" (ofInt r.line), field "Object" r.object,
        field "Status" r.status]
    | .status r => [field "File" r.file, field "Line" (ofInt r.line), field "Status" r.status]
    | .metric r =>
      [field "File" r.file, field "Line" (ofInt r.line), field "Score" (ofInt r.score)]

def Suits : Artifact.Kind → Record → Prop
  | .callers, .call _ | .callees, .call _ => True
  | .ancestors, .entity _ | .descendants, .entity _ => True
  | .references, .location _ | .typeDefinition, .location _ => True
  | .tests, .test _ | .tests, .summary _ | .tests, .status _ => True
  | .metrics, .metric _ => True
  | _, _ => False

def Has (part : String) (value : Text) : Prop := part.toList <:+: value

instance (part : String) (value : Text) : Decidable (Has part value) :=
  inferInstanceAs (Decidable (_ <:+: _))

def OneLine (value : Text) : Prop := '\n' ∉ value

def FileWritten (file : Text) : Prop := file ≠ [] ∧ tidy file = file ∧ OneLine file

def NumberWritten (least number : Int) : Prop := least ≤ number ∧ (ofInt number).length ≤ maxDigits

def NameWritten (name : Text) : Prop :=
  name ≠ [] ∧ OneLine name ∧ ∀ tag, afterFileTag? tag = some [] → ¬ (';' :: tag) <:+: name

def EndsFilled (value : Text) : Prop := ∀ c, value.getLast? = some c → isBlank c = false

/-- Records whose line can be divided in only one way. -/
def Written : Record → Prop
  | .call r => NameWritten r.name ∧ FileWritten r.file ∧ NumberWritten 1 r.line
  | .entity r =>
    (∃ word ∈ entityTypes, r.entityType = word.toList) ∧ NameWritten r.name ∧ FileWritten r.file
      ∧ NumberWritten 1 r.line
  | .location r => FileWritten r.file ∧ NumberWritten 1 r.line
  | .test r =>
    FileWritten r.file ∧ ¬ Has ";Line:" r.file ∧ NumberWritten 1 r.line
      ∧ (r.object ≠ [] ∧ OneLine r.object ∧ ¬ Has ";Test:" r.object)
      ∧ (r.test ≠ [] ∧ OneLine r.test ∧ ¬ Has ";Status:" r.test)
      ∧ (OneLine r.status ∧ ¬ Has ";Reason:" r.status)
      ∧ (∀ reason, r.reason = some reason → OneLine reason) ∧ EndsFilled (r.reason.getD r.status)
  | .summary r =>
    FileWritten r.file ∧ ¬ Has ";Line:" r.file ∧ NumberWritten 1 r.line
      ∧ (r.object ≠ [] ∧ OneLine r.object ∧ ¬ Has ";Status:" r.object ∧ ¬ Has ";Test:" r.object)
      ∧ (OneLine r.status ∧ ¬ Has ";Test:" r.status) ∧ EndsFilled r.status
  | .status r =>
    FileWritten r.file ∧ ¬ Has ";Line:" r.file ∧ NumberWritten 1 r.line
      ∧ (OneLine r.status ∧ ¬ Has ";Object:" r.status) ∧ EndsFilled r.status
  | .metric r => FileWritten r.file ∧ NumberWritten 1 r.line ∧ NumberWritten 0 r.score

theorem lineField_spelled (number : Nat) (rest : Text) (stops : Stops rest) :
    lineField? (";Line:".toList ++ (ofNat number ++ rest)) = some (ofNat number, rest) :=
  (lineField?_eq_some_iff _ _ _).mpr ⟨rfl, digits_ofNat number, stops⟩

theorem number_spelled (number : Nat) (few : (ofNat number).length ≤ maxDigits) :
    Record.number (ofNat number) = .ok number := by
  simp [Record.number, Nat.not_lt.mpr few, numeral_ofNat]

theorem positiveLine_spelled (kind : Artifact.Kind) (text : Text) (number : Nat)
    (few : (ofNat number).length ≤ maxDigits) (positive : 1 ≤ number) :
    positiveLine kind text (ofNat number) = .ok number := by
  have counted : ¬ ((number : Int) < 1) := by omega
  simp only [positiveLine, number_spelled number few, Except.bind, bind, counted, if_false]

theorem natural_of_written (least number : Int) (nonnegative : 0 ≤ least)
    (written : NumberWritten least number) :
    ∃ spelled : Nat, number = spelled ∧ least ≤ spelled ∧ (ofNat spelled).length ≤ maxDigits := by
  obtain ⟨atLeast, few⟩ := written
  refine ⟨number.toNat, by omega, by omega, ?_⟩
  have natural : number = Int.ofNat number.toNat := by simp; omega
  rw [natural] at few
  exact few

theorem lineField_of_untagged (text : Text) (untagged : after? ";Line:".toList text = none) :
    lineField? text = none := by
  unfold lineField? afterTag?
  rw [untagged]
  rfl

/-- The longest file reaches up to the last tag of the line. -/
theorem place_spelled (file : Text) (number : Nat) (blanks : Text) (filled : file ≠ [])
    (oneLine : OneLine file) (blank : allBlank blanks = true) :
    place? ("File:".toList ++ (file ++ (";Line:".toList ++ (ofNat number ++ blanks)))) =
      some (file, ofNat number) :=
  (place?_eq_some_iff _ _ _).mpr
    ⟨"File:".toList, blanks, fileTag_plain, filled, oneLine, digits_ofNat number, blank, rfl⟩

theorem no_place_inside (name back : Text) (written : NameWritten name) :
    ∀ part, part <:+ name → part ≠ [] → lastPlace? (part ++ ';' :: back) = none := by
  intro part ends filled
  cases part with
  | nil => exact absurd rfl filled
  | cons c part =>
      by_cases semicolon : ';' = c
      · subst semicolon
        cases tagged : afterFileTag? (part ++ ';' :: back) with
        | none => simp [lastPlace?, afterTag?, after?, place?, tagged]
        | some rest =>
            obtain ⟨tag, spelled, whole⟩ := (afterFileTag?_eq_some_iff _ _).mp tagged
            have inPart : tag <+: part :=
              word_ends_before tag rest part (';' :: back) (by simpa using spelled.semicolon_notMem) whole
            have inName : (';' :: tag) <:+: name :=
              (List.prefix_cons_iff.mpr (.inr ⟨tag, rfl, inPart⟩)).isInfix.trans ends.isInfix
            have alone := (afterFileTag?_eq_some_iff tag []).mpr ⟨tag, spelled, by simp⟩
            exact absurd inName (written.2.2 tag alone)
      · simp [lastPlace?, afterTag?, after?, semicolon]

theorem callFields_spelled (name file : Text) (number : Nat) (blanks : Text)
    (named : NameWritten name) (filled : file ≠ []) (oneLine : OneLine file)
    (blank : allBlank blanks = true) :
    callFields? ("Name:".toList ++ (name ++ (";File:".toList ++
      (file ++ (";Line:".toList ++ (ofNat number ++ blanks)))))) =
      some (name, file, ofNat number) := by
  have placed : lastPlace? (";File:".toList ++ (file ++ (";Line:".toList ++ (ofNat number ++ blanks))))
      = some (file, ofNat number) := place_spelled file number blanks filled oneLine blank
  exact shortestSome_of_first lastPlace? name _ _ named.1 named.2.1 placed
    (no_place_inside name _ named)

theorem entityFields_spelled (word : String) (known : word ∈ entityTypes) (name file : Text)
    (number : Nat) (blanks : Text) (named : NameWritten name) (filled : file ≠ [])
    (oneLine : OneLine file) (blank : allBlank blanks = true) :
    entityFields? ("Type:".toList ++ (word.toList ++ (";Name:".toList ++ (name ++ (";File:".toList ++
      (file ++ (";Line:".toList ++ (ofNat number ++ blanks)))))))) =
      some (word.toList, name, file, ofNat number) := by
  have call := callFields_spelled name file number blanks named filled oneLine blank
  have typed : ∀ rest, afterTag? "Type:" ("Type:".toList ++ rest) = some rest := fun _ => rfl
  have separated : ∀ rest, afterTag? ";" (";Name:".toList ++ rest) = some ("Name:".toList ++ rest) :=
    fun _ => rfl
  simp only [entityTypes, List.mem_cons, List.not_mem_nil, or_false] at known
  rcases known with rfl | rfl | rfl
  · have here : ∀ rest, afterTag? "object" ("object".toList ++ rest) = some rest := fun _ => rfl
    simp only [entityFields?, typed, Option.bind_eq_bind, Option.bind_some, entityTypes,
      List.findSome?_cons, here, separated, call, Option.pure_def]
  · have elsewhere : ∀ rest, afterTag? "object" ("protocol".toList ++ rest) = none := fun _ => rfl
    have here : ∀ rest, afterTag? "protocol" ("protocol".toList ++ rest) = some rest := fun _ => rfl
    simp only [entityFields?, typed, Option.bind_eq_bind, Option.bind_some, Option.bind_none,
      entityTypes, List.findSome?_cons, elsewhere, here, separated, call, Option.pure_def]
  · have notObject : ∀ rest, afterTag? "object" ("category".toList ++ rest) = none := fun _ => rfl
    have notProtocol : ∀ rest, afterTag? "protocol" ("category".toList ++ rest) = none := fun _ => rfl
    have here : ∀ rest, afterTag? "category" ("category".toList ++ rest) = some rest := fun _ => rfl
    simp only [entityFields?, typed, Option.bind_eq_bind, Option.bind_some, Option.bind_none,
      entityTypes, List.findSome?_cons, notObject, notProtocol, here, separated, call,
      Option.pure_def]

theorem metricFields_spelled (file : Text) (number score : Nat) (blanks : Text) (filled : file ≠ [])
    (oneLine : OneLine file) (blank : allBlank blanks = true) :
    metricFields? ("File:".toList ++ (file ++ (";Line:".toList ++ (ofNat number ++
      (";Score:".toList ++ (ofNat score ++ blanks)))))) =
      some (file, ofNat number, ofNat score) :=
  (metricFields?_eq_some_iff _ _ _ _).mpr ⟨"File:".toList, blanks, fileTag_plain, filled, oneLine,
    digits_ofNat number, digits_ofNat score, blank, rfl⟩

theorem blank_of_untrimmed (value blanks : Text) (filled : EndsFilled value) :
    ∀ part, part <:+ value → part ≠ [] → lineEnd? (part ++ blanks) = none := by
  intro part ends nonempty
  have last := List.getLast?_eq_some_getLast nonempty
  obtain ⟨before, rfl⟩ := ends
  have lastFilled : isBlank (part.getLast nonempty) = false :=
    filled _ (by simp [List.getLast?_append, last])
  have notBlank : allBlank (part ++ blanks) = false := by
    apply List.all_eq_false.mpr
    exact ⟨part.getLast nonempty, by simp [List.getLast_mem nonempty], by simp [lastFilled]⟩
  simp [lineEnd?, notBlank]

theorem shortest_before_blanks (value blanks : Text) (oneLine : OneLine value)
    (filled : EndsFilled value) (blank : allBlank blanks = true) :
    shortest lineEnd? (value ++ blanks) = some (value, ()) :=
  shortest_of_first lineEnd? value blanks () oneLine (by simp [lineEnd?, blank])
    (blank_of_untrimmed value blanks filled)

theorem lastStatus_spelled (status blanks : Text) (oneLine : OneLine status)
    (filled : EndsFilled status) (blank : allBlank blanks = true) :
    lastStatus? (";Status:".toList ++ (status ++ blanks)) = some status := by
  have tag := after_append ";Status:".toList (status ++ blanks)
  unfold lastStatus? afterTag?
  rw [tag]
  simp [shortest_before_blanks status blanks oneLine filled blank]

-- A tag is not continued by blanks, since it has none.
theorem blanks_stop (word blanks : Text) (solid : word.any isBlank = false)
    (blank : allBlank blanks = true) : ∀ c, blanks.head? = some c → c ∉ word := by
  intro c head inside
  have isOne : isBlank c = true := List.all_eq_true.mp blank c (List.mem_of_head? head)
  exact List.any_eq_false.mp solid c inside isOne

def reasonTail (reason : Option Text) : Text :=
  (reason.map fun text => ";Reason:".toList ++ text).getD []

theorem reasonTail_some (text : Text) : reasonTail (some text) = ";Reason:".toList ++ text := rfl

theorem reasonTail_none : reasonTail none = [] := rfl

theorem reasonEnd_spelled (reason : Option Text) (blanks : Text)
    (oneLine : ∀ text, reason = some text → OneLine text)
    (filled : ∀ text, reason = some text → EndsFilled text) (blank : allBlank blanks = true) :
    reasonEnd? (reasonTail reason ++ blanks) = some reason := by
  cases reason with
  | some text =>
      have tag := after_append ";Reason:".toList (text ++ blanks)
      have found := shortest_before_blanks text blanks (oneLine text rfl) (filled text rfl) blank
      unfold reasonEnd? afterTag?
      rw [reasonTail_some, List.append_assoc, tag]
      simp [found]
  | none =>
      have untagged := untagged_of_no_semicolon "Reason:".toList blanks
        (semicolon_notMem_blanks blanks blank) blanks List.suffix_rfl
      unfold reasonEnd? afterTag?
      rw [reasonTail_none, List.nil_append,
        show after? ";Reason:".toList blanks = none from untagged]
      simp [lineEnd?, blank]

theorem reasonEnd_inside (status : Text) (reason : Option Text) (blanks : Text)
    (free : ¬ Has ";Reason:" status) (filled : EndsFilled (reason.getD status))
    (blank : allBlank blanks = true) :
    ∀ part, part <:+ status → part ≠ [] → reasonEnd? (part ++ (reasonTail reason ++ blanks)) = none := by
  intro part ends nonempty
  have untagged : after? ";Reason:".toList (part ++ (reasonTail reason ++ blanks)) = none := by
    refine no_tag_inside "Reason:".toList status _ ?_ free part ends nonempty
    cases reason with
    | some text => intro c head; cases head; decide
    | none => exact blanks_stop _ blanks (by decide +kernel) blank
  have noEnd : lineEnd? (part ++ (reasonTail reason ++ blanks)) = none := by
    cases reason with
    | some text =>
        have notBlank : allBlank (part ++ (reasonTail (some text) ++ blanks)) = false := by
          apply List.all_eq_false.mpr
          exact ⟨';', by simp [reasonTail], by decide +kernel⟩
        simp [lineEnd?, notBlank]
    | none => exact blank_of_untrimmed status blanks filled part ends nonempty
  unfold reasonEnd? afterTag?
  rw [untagged, noEnd]
  rfl

theorem lastStatusReason_spelled (status : Text) (reason : Option Text) (blanks : Text)
    (oneLine : OneLine status) (free : ¬ Has ";Reason:" status)
    (reasonLine : ∀ text, reason = some text → OneLine text)
    (filled : EndsFilled (reason.getD status)) (blank : allBlank blanks = true) :
    lastStatusReason? (";Status:".toList ++ (status ++ (reasonTail reason ++ blanks))) =
      some (status, reason) := by
  have tag := after_append ";Status:".toList (status ++ (reasonTail reason ++ blanks))
  have reasonFilled : ∀ text, reason = some text → EndsFilled text := by
    intro text same
    rw [same] at filled
    exact filled
  have found := shortest_of_first reasonEnd? status (reasonTail reason ++ blanks) reason oneLine
    (reasonEnd_spelled reason blanks reasonLine reasonFilled blank)
    (reasonEnd_inside status reason blanks free filled blank)
  unfold lastStatusReason? afterTag?
  rw [tag]
  exact found

-- What the tag of a follower demands of the field in front of it.
theorem refused_inside {α : Type} (follower : Text → Option α) (word field back : Text)
    (demands : ∀ text, after? (';' :: word) text = none → follower text = none)
    (plain : ';' ∉ word) (free : ¬ (';' :: word) <:+: field) :
    ∀ part, part <:+ field → part ≠ [] → follower (part ++ ';' :: back) = none := by
  intro part ends filled
  apply demands
  exact no_tag_inside word field (';' :: back) (by simpa using plain) free part ends filled

theorem lastStatusReason_demands (text : Text) (untagged : after? ";Status:".toList text = none) :
    lastStatusReason? text = none := by
  unfold lastStatusReason? afterTag?
  rw [untagged]
  rfl

theorem lastStatus_demands (text : Text) (untagged : after? ";Status:".toList text = none) :
    lastStatus? text = none := by
  unfold lastStatus? afterTag?
  rw [untagged]
  rfl

theorem lastTest_demands (text : Text) (untagged : after? ";Test:".toList text = none) :
    lastTest? text = none := by
  unfold lastTest? afterTag?
  rw [untagged]
  rfl

theorem lastTest_spelled (test back : Text) (found : Text × Option Text) (filled : test ≠ [])
    (oneLine : OneLine test) (free : ¬ Has ";Status:" test)
    (accepted : lastStatusReason? (";Status:".toList ++ back) = some found) :
    lastTest? (";Test:".toList ++ (test ++ (";Status:".toList ++ back))) = some (test, found) := by
  have tag := after_append ";Test:".toList (test ++ (";Status:".toList ++ back))
  unfold lastTest? afterTag?
  rw [tag]
  exact shortestSome_of_first lastStatusReason? test _ found filled oneLine accepted
    (refused_inside lastStatusReason? "Status:".toList test _ lastStatusReason_demands (by decide) free)

theorem objectOf_spelled {α : Type} (follower : Text → Option α) (number : Nat) (object back : Text)
    (found : α) (filled : object ≠ []) (oneLine : OneLine object) (accepted : follower back = some found)
    (first : ∀ part, part <:+ object → part ≠ [] → follower (part ++ back) = none) :
    objectOf? follower (";Line:".toList ++ (ofNat number ++ (";Object:".toList ++ (object ++ back)))) =
      some (ofNat number, object, found) := by
  have taken := lineField_spelled number (";Object:".toList ++ (object ++ back)) (stops_semicolon _)
  have tag := after_append ";Object:".toList (object ++ back)
  unfold objectOf?
  rw [taken]
  simp only [Option.bind_eq_bind, Option.bind_some, afterTag?]
  rw [tag]
  simp [shortestSome_of_first follower object back found filled oneLine accepted first]

theorem objectOf_demands {α : Type} (follower : Text → Option α) (text : Text)
    (untagged : after? ";Line:".toList text = none) : objectOf? follower text = none := by
  unfold objectOf?
  rw [lineField_of_untagged text untagged]
  rfl

/-- Where the tag of the object is missing, or behind it all that the follower accepts. -/
theorem objectOf_of_refused {α : Type} (follower : Text → Option α) (text : Text)
    (refused : Untagged "Object:".toList text ∨ ∀ part, part <:+ text → follower part = none) :
    objectOf? follower text = none := by
  cases taken : lineField? text with
  | none => simp [objectOf?, taken]
  | some found =>
      have within := lineField_suffix text found.1 found.2 taken
      unfold objectOf?
      rw [taken]
      simp only [Option.bind_eq_bind, Option.bind_some, afterTag?]
      cases tagged : after? ";Object:".toList found.2 with
      | none => rfl
      | some body =>
          rcases refused with untagged | refused
          · rw [show after? ";Object:".toList found.2 = none from untagged found.2 within] at tagged
            cases tagged
          · have inside := (after_suffix _ found.2 body tagged).trans within
            have ended := shortestSome_of_no_end follower body
              (fun part ends => refused part (ends.trans inside))
            simp [ended]

-- The file of a test result is the shortest one, so no tag of a line may begin in it.
theorem file_before_line {α : Type} (follower : Text → Option α) (file back : Text) (found : α)
    (demands : ∀ text, after? ";Line:".toList text = none → follower text = none)
    (written : FileWritten file) (free : ¬ Has ";Line:" file)
    (accepted : follower (";Line:".toList ++ back) = some found) :
    shortestSome follower (file ++ (";Line:".toList ++ back)) = some (file, found) :=
  shortestSome_of_first follower file _ found written.1 written.2.2 accepted
    (refused_inside follower "Line:".toList file _ demands (by decide) free)

theorem object_refused {α : Type} (follower : Text → Option α) (file back : Text)
    (free : ¬ Has ";Line:" file)
    (refused : Untagged "Object:".toList (";Line:".toList ++ back) ∨
      ∀ part, part <:+ ";Line:".toList ++ back → follower part = none) :
    shortestSome (objectOf? follower) (file ++ (";Line:".toList ++ back)) = none := by
  apply shortestSome_of_no_end
  intro part ends
  rcases suffix_append_cases file _ part ends with behind | ⟨inside, within, filled, rfl⟩
  · apply objectOf_of_refused
    rcases refused with untagged | refused
    · exact .inl (untagged_of_suffix _ _ part untagged behind)
    · exact .inr (fun later further => refused later (further.trans behind))
  · exact refused_inside (objectOf? follower) "Line:".toList file _ (objectOf_demands follower)
      (by decide) free inside within filled

theorem testFields_spelled (r : TestOutcome) (number : Nat) (blanks : Text)
    (written : Written (.test r)) (blank : allBlank blanks = true) :
    testFields? ("File:".toList ++ (r.file ++ (";Line:".toList ++ (ofNat number ++
      (";Object:".toList ++ (r.object ++ (";Test:".toList ++ (r.test ++ (";Status:".toList ++
        (r.status ++ (reasonTail r.reason ++ blanks))))))))))) =
      some (r.file, ofNat number, r.object, r.test, r.status, r.reason) := by
  obtain ⟨file, lineFree, _, ⟨objectFilled, objectLine, testFree⟩, ⟨testFilled, testLine, statusFree⟩,
    ⟨statusLine, reasonFree⟩, reasonLine, filled⟩ := written
  have outcome := lastStatusReason_spelled r.status r.reason blanks statusLine reasonFree reasonLine
    filled blank
  have tested := lastTest_spelled r.test _ _ testFilled testLine statusFree outcome
  have object := objectOf_spelled lastTest? number r.object _ _ objectFilled objectLine tested
    (refused_inside lastTest? "Test:".toList r.object _ lastTest_demands (by decide) testFree)
  exact file_before_line (objectOf? lastTest?) r.file _ _ (objectOf_demands lastTest?) file lineFree
    object

theorem summaryFields_spelled (r : ObjectOutcome) (number : Nat) (blanks : Text)
    (written : Written (.summary r)) (blank : allBlank blanks = true) :
    testFields? ("File:".toList ++ (r.file ++ (";Line:".toList ++ (ofNat number ++
      (";Object:".toList ++ (r.object ++ (";Status:".toList ++ (r.status ++ blanks)))))))) = none ∧
    summaryFields? ("File:".toList ++ (r.file ++ (";Line:".toList ++ (ofNat number ++
      (";Object:".toList ++ (r.object ++ (";Status:".toList ++ (r.status ++ blanks)))))))) =
      some (r.file, ofNat number, r.object, r.status) := by
  obtain ⟨file, lineFree, _, ⟨objectFilled, objectLine, statusFree, testFree⟩,
    ⟨statusLine, statusTestFree⟩, filled⟩ := written
  constructor
  · -- No tag of a test stands behind that of the line.
    have inStatus : Untagged "Test:".toList (r.status ++ blanks) :=
      untagged_of_field _ _ _ (blanks_stop _ blanks (by decide +kernel) blank) statusTestFree
        (untagged_of_no_semicolon _ _ (semicolon_notMem_blanks blanks blank))
    have fromStatus : Untagged "Test:".toList (";Status:".toList ++ (r.status ++ blanks)) :=
      untagged_cons _ _ rfl (untagged_of_plain _ "Status:".toList _ (by decide) inStatus)
    have inObject : Untagged "Test:".toList (r.object ++ (";Status:".toList ++ (r.status ++ blanks))) :=
      untagged_of_field _ _ _ (by intro c head; cases head; decide) testFree fromStatus
    have fromObject : Untagged "Test:".toList (";Object:".toList ++ (r.object ++
        (";Status:".toList ++ (r.status ++ blanks)))) :=
      untagged_cons _ _ rfl (untagged_of_plain _ "Object:".toList _ (by decide) inObject)
    have fromLine : Untagged "Test:".toList (";Line:".toList ++ (ofNat number ++ (";Object:".toList ++
        (r.object ++ (";Status:".toList ++ (r.status ++ blanks)))))) :=
      untagged_cons _ _ rfl (untagged_of_plain _ "Line:".toList _ (by decide)
        (untagged_of_plain _ _ _ (semicolon_notMem_ofNat number) fromObject))
    exact object_refused lastTest? r.file _ lineFree
      (.inr fun part ends => lastTest_demands part (fromLine part ends))
  · have outcome := lastStatus_spelled r.status blanks statusLine filled blank
    have object := objectOf_spelled lastStatus? number r.object _ _ objectFilled objectLine outcome
      (refused_inside lastStatus? "Status:".toList r.object _ lastStatus_demands (by decide) statusFree)
    exact file_before_line (objectOf? lastStatus?) r.file _ _ (objectOf_demands lastStatus?) file
      lineFree object

theorem statusFields_spelled (r : FileOutcome) (number : Nat) (blanks : Text)
    (written : Written (.status r)) (blank : allBlank blanks = true) :
    testFields? ("File:".toList ++ (r.file ++ (";Line:".toList ++ (ofNat number ++
      (";Status:".toList ++ (r.status ++ blanks)))))) = none ∧
    summaryFields? ("File:".toList ++ (r.file ++ (";Line:".toList ++ (ofNat number ++
      (";Status:".toList ++ (r.status ++ blanks)))))) = none ∧
    statusFields? ("File:".toList ++ (r.file ++ (";Line:".toList ++ (ofNat number ++
      (";Status:".toList ++ (r.status ++ blanks)))))) =
      some (r.file, ofNat number, r.status) := by
  obtain ⟨file, lineFree, _, ⟨statusLine, objectFree⟩, filled⟩ := written
  have inStatus : Untagged "Object:".toList (r.status ++ blanks) :=
    untagged_of_field _ _ _ (blanks_stop _ blanks (by decide +kernel) blank) objectFree
      (untagged_of_no_semicolon _ _ (semicolon_notMem_blanks blanks blank))
  have fromStatus : Untagged "Object:".toList (";Status:".toList ++ (r.status ++ blanks)) :=
    untagged_cons _ _ rfl (untagged_of_plain _ "Status:".toList _ (by decide) inStatus)
  have fromLine : Untagged "Object:".toList (";Line:".toList ++ (ofNat number ++
      (";Status:".toList ++ (r.status ++ blanks)))) :=
    untagged_cons _ _ rfl (untagged_of_plain _ "Line:".toList _ (by decide)
      (untagged_of_plain _ _ _ (semicolon_notMem_ofNat number) fromStatus))
  refine ⟨object_refused lastTest? r.file _ lineFree (.inl fromLine),
    object_refused lastStatus? r.file _ lineFree (.inl fromLine), ?_⟩
  have taken := lineField_spelled number (";Status:".toList ++ (r.status ++ blanks)) (stops_semicolon _)
  have outcome := lastStatus_spelled r.status blanks statusLine filled blank
  have accepted : lastLineStatus? (";Line:".toList ++ (ofNat number ++
      (";Status:".toList ++ (r.status ++ blanks)))) = some (ofNat number, r.status) := by
    unfold lastLineStatus?
    rw [taken]
    simp only [Option.bind_eq_bind, Option.bind_some]
    rw [outcome]
    rfl
  refine file_before_line lastLineStatus? r.file _ _ ?_ file lineFree accepted
  intro text untagged
  unfold lastLineStatus?
  rw [lineField_of_untagged text untagged]
  rfl

theorem ofInt_natural (number : Nat) : ofInt (number : Int) = ofNat number := rfl

theorem call_read_back (kind : Artifact.Kind) (r : CallFact) (blanks : Text)
    (written : Written (.call r)) (blank : allBlank blanks = true) :
    callOfLine kind (rendered (.call r) ++ blanks) = .ok (.call r) := by
  obtain ⟨named, file, line⟩ := written
  obtain ⟨number, same, positive, few⟩ := natural_of_written 1 r.line (by decide) line
  have shape : rendered (.call r) ++ blanks = "Name:".toList ++ (r.name ++ (";File:".toList ++
      (r.file ++ (";Line:".toList ++ (ofNat number ++ blanks))))) := by
    simp [rendered, field, join, same, ofInt_natural]
  have fields := callFields_spelled r.name r.file number blanks named file.1 file.2.2 blank
  have counted := positiveLine_spelled kind (rendered (.call r) ++ blanks) number few (by omega)
  rw [← shape] at fields
  simp [callOfLine, fields, counted, file.2.1, bind, Except.bind, pure, Except.pure, ← same]

theorem entity_read_back (kind : Artifact.Kind) (r : EntityFact) (blanks : Text)
    (written : Written (.entity r)) (blank : allBlank blanks = true) :
    entityOfLine kind (rendered (.entity r) ++ blanks) = .ok (.entity r) := by
  obtain ⟨⟨word, known, typed⟩, named, file, line⟩ := written
  obtain ⟨number, same, positive, few⟩ := natural_of_written 1 r.line (by decide) line
  have shape : rendered (.entity r) ++ blanks = "Type:".toList ++ (word.toList ++ (";Name:".toList ++
      (r.name ++ (";File:".toList ++ (r.file ++ (";Line:".toList ++ (ofNat number ++ blanks))))))) := by
    simp [rendered, field, join, same, typed, ofInt_natural]
  have fields := entityFields_spelled word known r.name r.file number blanks named file.1 file.2.2 blank
  have counted := positiveLine_spelled kind (rendered (.entity r) ++ blanks) number few (by omega)
  rw [← shape] at fields
  simp [entityOfLine, fields, counted, file.2.1, bind, Except.bind, pure, Except.pure, ← same, ← typed]

theorem location_read_back (kind : Artifact.Kind) (r : PlaceFact) (blanks : Text)
    (written : Written (.location r)) (blank : allBlank blanks = true) :
    locationOfLine kind (rendered (.location r) ++ blanks) = .ok (.location r) := by
  obtain ⟨file, line⟩ := written
  obtain ⟨number, same, positive, few⟩ := natural_of_written 1 r.line (by decide) line
  have shape : rendered (.location r) ++ blanks = "File:".toList ++ (r.file ++ (";Line:".toList ++
      (ofNat number ++ blanks))) := by
    simp [rendered, field, join, same, ofInt_natural]
  have fields := place_spelled r.file number blanks file.1 file.2.2 blank
  have counted := positiveLine_spelled kind (rendered (.location r) ++ blanks) number few (by omega)
  rw [← shape] at fields
  simp [locationOfLine, fields, counted, file.2.1, bind, Except.bind, pure, Except.pure, ← same]

theorem metric_read_back (kind : Artifact.Kind) (r : Complexity) (blanks : Text)
    (written : Written (.metric r)) (blank : allBlank blanks = true) :
    metricOfLine kind (rendered (.metric r) ++ blanks) = .ok (.metric r) := by
  obtain ⟨file, line, score⟩ := written
  obtain ⟨number, same, positive, few⟩ := natural_of_written 1 r.line (by decide) line
  obtain ⟨points, sameScore, _, fewPoints⟩ := natural_of_written 0 r.score (by decide) score
  have shape : rendered (.metric r) ++ blanks = "File:".toList ++ (r.file ++ (";Line:".toList ++
      (ofNat number ++ (";Score:".toList ++ (ofNat points ++ blanks))))) := by
    simp [rendered, field, join, same, sameScore, ofInt_natural]
  have fields := metricFields_spelled r.file number points blanks file.1 file.2.2 blank
  have counted := positiveLine_spelled kind (rendered (.metric r) ++ blanks) number few (by omega)
  have scored := number_spelled points fewPoints
  rw [← shape] at fields
  simp [metricOfLine, fields, counted, scored, file.2.1, bind, Except.bind, pure, Except.pure, ← same,
    ← sameScore]

theorem test_read_back (kind : Artifact.Kind) (r : TestOutcome) (blanks : Text)
    (written : Written (.test r)) (blank : allBlank blanks = true) :
    testOfLine kind (rendered (.test r) ++ blanks) = .ok (.test r) := by
  have file := written.1
  obtain ⟨number, same, positive, few⟩ := natural_of_written 1 r.line (by decide) written.2.2.1
  have shape : rendered (.test r) ++ blanks = "File:".toList ++ (r.file ++ (";Line:".toList ++
      (ofNat number ++ (";Object:".toList ++ (r.object ++ (";Test:".toList ++ (r.test ++
        (";Status:".toList ++ (r.status ++ (reasonTail r.reason ++ blanks)))))))))) := by
    cases reason : r.reason <;> simp [rendered, field, join, same, reason, reasonTail, ofInt_natural]
  have fields := testFields_spelled r number blanks written blank
  have counted := positiveLine_spelled kind (rendered (.test r) ++ blanks) number few (by omega)
  rw [← shape] at fields
  simp [testOfLine, fields, counted, file.2.1, bind, Except.bind, pure, Except.pure, ← same]

theorem summary_read_back (kind : Artifact.Kind) (r : ObjectOutcome) (blanks : Text)
    (written : Written (.summary r)) (blank : allBlank blanks = true) :
    testOfLine kind (rendered (.summary r) ++ blanks) = .ok (.summary r) := by
  have file := written.1
  obtain ⟨number, same, positive, few⟩ := natural_of_written 1 r.line (by decide) written.2.2.1
  have shape : rendered (.summary r) ++ blanks = "File:".toList ++ (r.file ++ (";Line:".toList ++
      (ofNat number ++ (";Object:".toList ++ (r.object ++ (";Status:".toList ++
        (r.status ++ blanks))))))) := by
    simp [rendered, field, join, same, ofInt_natural]
  have fields := summaryFields_spelled r number blanks written blank
  have counted := positiveLine_spelled kind (rendered (.summary r) ++ blanks) number few (by omega)
  rw [← shape] at fields
  simp [testOfLine, fields, counted, file.2.1, bind, Except.bind, pure, Except.pure, ← same]

theorem status_read_back (kind : Artifact.Kind) (r : FileOutcome) (blanks : Text)
    (written : Written (.status r)) (blank : allBlank blanks = true) :
    testOfLine kind (rendered (.status r) ++ blanks) = .ok (.status r) := by
  have file := written.1
  obtain ⟨number, same, positive, few⟩ := natural_of_written 1 r.line (by decide) written.2.2.1
  have shape : rendered (.status r) ++ blanks = "File:".toList ++ (r.file ++ (";Line:".toList ++
      (ofNat number ++ (";Status:".toList ++ (r.status ++ blanks))))) := by
    simp [rendered, field, join, same, ofInt_natural]
  have fields := statusFields_spelled r number blanks written blank
  have counted := positiveLine_spelled kind (rendered (.status r) ++ blanks) number few (by omega)
  rw [← shape] at fields
  simp [testOfLine, fields, counted, file.2.1, bind, Except.bind, pure, Except.pure, ← same]

/-- Reading undoes writing, for every kind of artifact and every form of record, and blanks at the end
of the line do not count. -/
theorem rendered_read_back (kind : Artifact.Kind) (record : Record) (blanks : Text)
    (suits : Suits kind record) (written : Written record) (blank : allBlank blanks = true) :
    ofLine kind (rendered record ++ blanks) = .ok record := by
  cases record with
  | call r =>
      match kind, suits with
      | .callers, _ => exact call_read_back .callers r blanks written blank
      | .callees, _ => exact call_read_back .callees r blanks written blank
  | entity r =>
      match kind, suits with
      | .ancestors, _ => exact entity_read_back .ancestors r blanks written blank
      | .descendants, _ => exact entity_read_back .descendants r blanks written blank
  | location r =>
      match kind, suits with
      | .references, _ => exact location_read_back .references r blanks written blank
      | .typeDefinition, _ => exact location_read_back .typeDefinition r blanks written blank
  | test r =>
      match kind, suits with
      | .tests, _ => exact test_read_back .tests r blanks written blank
  | summary r =>
      match kind, suits with
      | .tests, _ => exact summary_read_back .tests r blanks written blank
  | status r =>
      match kind, suits with
      | .tests, _ => exact status_read_back .tests r blanks written blank
  | metric r =>
      match kind, suits with
      | .metrics, _ => exact metric_read_back .metrics r blanks written blank

-- Every field holds tags of other fields here, and the line ends in blanks.
theorem nested_tags_read_back :
    ofLine .tests ("File:/t;Test:x.lgt;Line:14;Object:o;Status:y;Test:t;Test:u;".toList ++
      "Status:failed;Line:3 ;Reason:a;Reason:b \t".toList) =
      .ok (.test ⟨"/t;Test:x.lgt".toList, 14, "o;Status:y".toList, "t;Test:u".toList,
        "failed;Line:3 ".toList, some "a;Reason:b".toList⟩) := by
  have filled : EndsFilled "a;Reason:b".toList := by
    intro c last
    have final : c = 'b' := by simpa using last.symm
    subst final
    decide +kernel
  have written : Written (.test ⟨"/t;Test:x.lgt".toList, 14, "o;Status:y".toList, "t;Test:u".toList,
      "failed;Line:3 ".toList, some "a;Reason:b".toList⟩) := by
    refine ⟨⟨by simp, by decide +kernel, by simp [OneLine]⟩, by decide +kernel,
      ⟨by decide, by decide +kernel⟩, ⟨by simp, by simp [OneLine], by decide +kernel⟩,
      ⟨by simp, by simp [OneLine], by decide +kernel⟩, ⟨by simp [OneLine], by decide +kernel⟩, ?_, filled⟩
    intro reason same
    cases same
    simp [OneLine]
  exact rendered_read_back .tests (.test _) " \t".toList trivial written (by decide +kernel)

end LogtalkNavigation.Record
