import LogtalkNavigation.Proofs.Record.Rendering

/-! The grammar of lines with one form. Such a line is a sequence of fields in which the name and the file are free
text, tags and semicolons included, so it may be divided in several ways. What is read is decided by the grammar alone:
a line is a record exactly if it can be divided at all and does not count from zero, and of all divisions the one with
the shortest name is read. The digits at the end are those behind the last semicolon, whatever the division. -/

namespace LogtalkNavigation.Record

open Text

inductive Fields where
  | call (name file line : Text)
  | entity (entityType name file line : Text)
  | location (file line : Text)
  | metric (file line score : Text)

namespace Fields

def spelled (tag blanks : Text) : Fields → Text
  | .call name file line =>
    "Name:".toList ++ (name ++ (";".toList ++ (tag ++ (file ++ (";Line:".toList ++ (line ++ blanks))))))
  | .entity entityType name file line =>
    "Type:".toList ++ (entityType ++ (";Name:".toList ++ (name ++ (";".toList ++ (tag ++ (file ++
      (";Line:".toList ++ (line ++ blanks))))))))
  | .location file line => tag ++ (file ++ (";Line:".toList ++ (line ++ blanks)))
  | .metric file line score =>
    tag ++ (file ++ (";Line:".toList ++ (line ++ (";Score:".toList ++ (score ++ blanks)))))

def Proper : Fields → Prop
  | .call name file line => name ≠ [] ∧ file ≠ [] ∧ Digits line
  | .entity entityType name file line =>
    (∃ word ∈ entityTypes, entityType = word.toList) ∧ name ≠ [] ∧ file ≠ [] ∧ Digits line
  | .location file line => file ≠ [] ∧ Digits line
  | .metric file line score => file ≠ [] ∧ Digits line ∧ Digits score

def name : Fields → Text
  | .call name _ _ | .entity _ name _ _ => name
  | .location _ _ | .metric _ _ _ => []

def line : Fields → Text
  | .call _ _ line | .entity _ _ _ line | .location _ line | .metric _ line _ => line

def last : Fields → Text
  | .call _ _ line | .entity _ _ _ line | .location _ line => "Line:".toList ++ line
  | .metric _ _ score => "Score:".toList ++ score

-- What follows the number of the line.
def behind (blanks : Text) : Fields → Text
  | .call _ _ _ | .entity _ _ _ _ | .location _ _ => blanks
  | .metric _ _ score => ";Score:".toList ++ (score ++ blanks)

def record : Fields → Record
  | .call name file line => .call ⟨name, tidy file, numeral line⟩
  | .entity entityType name file line => .entity ⟨entityType, name, tidy file, numeral line⟩
  | .location file line => .location ⟨tidy file, numeral line⟩
  | .metric file line score => .metric ⟨tidy file, numeral line, numeral score⟩

end Fields

structure Divides (kind : Artifact.Kind) (line : Text) (fields : Fields) : Prop where
  suits : Suits kind fields.record
  proper : fields.Proper
  spelled : ∃ tag blanks, FileTag tag ∧ allBlank blanks = true ∧ line = fields.spelled tag blanks

def FewDigits (line : Text) : Prop :=
  ∀ run, run <:+: line → (∀ c ∈ run, isDigit c = true) → run.length ≤ maxDigits

-- A place, and what stands in front of one.
def Placed (text : Text) (found : Text × Text) : Prop :=
  ∃ tag blanks, FileTag tag ∧ found.1 ≠ [] ∧ Digits found.2 ∧ allBlank blanks = true ∧
    text = tag ++ (found.1 ++ (";Line:".toList ++ (found.2 ++ blanks)))

def Named (text : Text) (found : Text × Text × Text) : Prop :=
  ∃ place, found.1 ≠ [] ∧ Placed place found.2 ∧ text = "Name:".toList ++ (found.1 ++ (";".toList ++ place))

def Typed (text : Text) (found : Text × Text × Text × Text) : Prop :=
  ∃ call, (∃ word ∈ entityTypes, found.1 = word.toList) ∧ Named call found.2 ∧
    text = "Type:".toList ++ (found.1 ++ (";".toList ++ call))

def Scored (text : Text) (found : Text × Text × Text) : Prop :=
  ∃ tag blanks, FileTag tag ∧ found.1 ≠ [] ∧ Digits found.2.1 ∧ Digits found.2.2 ∧ allBlank blanks = true ∧
    text = tag ++ (found.1 ++ (";Line:".toList ++ (found.2.1 ++ (";Score:".toList ++ (found.2.2 ++ blanks)))))

theorem finds_place (size : List Nat) : Finds place? Placed fun _ => size := by
  refine finds_of_iff ?_ size
  rintro text ⟨file, line⟩ clean
  rw [place?_eq_some_iff]
  constructor
  · rintro ⟨tag, blanks, spelled, filled, _, rest⟩
    exact ⟨tag, blanks, spelled, filled, rest⟩
  · rintro ⟨tag, blanks, spelled, filled, digits, blank, rfl⟩
    have inFile : '\n' ∉ file := fun inside => clean (by simp [inside])
    exact ⟨tag, blanks, spelled, filled, inFile, digits, blank, rfl⟩

theorem finds_callFields : Finds callFields? Named fun found => [found.1.length] := by
  have search := (((finds_place []).behind _ (after_suffix ";".toList)).shortestSome).behind _
    (after_suffix "Name:".toList)
  refine search.congr fun text found => ?_
  simp only [after_eq_some_iff]
  constructor
  · rintro ⟨_, rfl, _, rfl, filled, place, rfl, placed⟩
    exact ⟨place, filled, placed, rfl⟩
  · rintro ⟨place, filled, placed, rfl⟩
    exact ⟨_, rfl, _, rfl, filled, place, rfl, placed⟩

-- A type ends at the first semicolon, so a line has only one.
theorem entityType_unique (word : String) (known : word ∈ entityTypes) (other : String) (also : other ∈ entityTypes)
    (rest back : Text) (same : word.toList ++ (";".toList ++ rest) = other.toList ++ (";".toList ++ back)) :
    word = other := by
  have plain : ∀ word ∈ entityTypes, ';' ∉ word.toList := by decide
  have front (word : String) (inside : word ∈ entityTypes) (rest : Text) :
      (word.toList ++ (";".toList ++ rest)).takeWhile (· ≠ ';') = word.toList := by
    have letters : ∀ c ∈ word.toList, decide (c ≠ ';') = true := by
      intro c member
      exact decide_eq_true fun same => plain word inside (same ▸ member)
    rw [List.takeWhile_append_of_pos letters]
    simp
  have words := (front word known rest).symm.trans ((congrArg _ same).trans (front other also back))
  exact String.toList_inj.mp words

theorem finds_entityFields : Finds entityFields? Typed fun found => [found.2.1.length] := by
  have each (word : String) := (((finds_callFields.behind _ (after_suffix ";".toList)).behind _
    (after_suffix word.toList)).map (word.toList, ·) (fun found => [found.2.1.length]) fun _ => rfl)
  have search := (finds_oneOf entityTypes (fun word _ => each word) ?_).behind _ (after_suffix "Type:".toList)
  · have reader : entityFields? = fun text => (after? "Type:".toList text).bind fun rest =>
        entityTypes.findSome? fun word => ((after? word.toList rest).bind fun back =>
          (after? ";".toList back).bind callFields?).map (word.toList, ·) := by
      funext text
      simp only [entityFields?, afterTag?, Option.bind_eq_bind, Option.pure_def, Function.comp_def,
        Option.map_eq_bind, Option.bind_assoc]
    rw [reader]
    refine search.congr fun text found => ?_
    simp only [after_eq_some_iff]
    constructor
    · rintro ⟨_, rfl, word, known, _, ⟨_, rfl, call, rfl, named⟩, rfl⟩
      exact ⟨call, ⟨word, known, rfl⟩, named, rfl⟩
    · rintro ⟨call, ⟨word, known, typed⟩, named, rfl⟩
      rw [typed]
      exact ⟨_, rfl, word, known, found.2, ⟨_, rfl, call, rfl, named⟩, by rw [← typed]⟩
  · simp only [after_eq_some_iff]
    rintro word known other also text one two ⟨_, ⟨_, rfl, rest, rfl, _⟩, _⟩ ⟨_, ⟨_, again, back, rfl, _⟩, _⟩
    exact entityType_unique word known other also rest back again

theorem finds_metricFields (size : List Nat) : Finds metricFields? Scored fun _ => size := by
  refine finds_of_iff ?_ size
  rintro text ⟨file, line, score⟩ clean
  rw [metricFields?_eq_some_iff]
  constructor
  · rintro ⟨tag, blanks, spelled, filled, _, rest⟩
    exact ⟨tag, blanks, spelled, filled, rest⟩
  · rintro ⟨tag, blanks, spelled, filled, digits, scored, blank, rfl⟩
    have inFile : '\n' ∉ file := fun inside => clean (by simp [inside])
    exact ⟨tag, blanks, spelled, filled, inFile, digits, scored, blank, rfl⟩

def fields? (kind : Artifact.Kind) (line : Text) : Option Fields :=
  match kind with
  | .callers | .callees => (callFields? line).map fun found => .call found.1 found.2.1 found.2.2
  | .ancestors | .descendants =>
    (entityFields? line).map fun found => .entity found.1 found.2.1 found.2.2.1 found.2.2.2
  | .references | .typeDefinition => (place? line).map fun found => .location found.1 found.2
  | .metrics => (metricFields? line).map fun found => .metric found.1 found.2.1 found.2.2
  | .tests => none

theorem divides_call_iff {kind : Artifact.Kind} (form : kind = .callers ∨ kind = .callees) (line : Text)
    (fields : Fields) :
    (∃ found, Named line found ∧ Fields.call found.1 found.2.1 found.2.2 = fields) ↔ Divides kind line fields := by
  constructor
  · rintro ⟨⟨name, file, number⟩, ⟨_, named, ⟨tag, blanks, tagged, filled, digits, blank, rfl⟩, rfl⟩, rfl⟩
    refine ⟨?_, ⟨named, filled, digits⟩, tag, blanks, tagged, blank, rfl⟩
    rcases form with rfl | rfl <;> trivial
  · rintro ⟨suits, proper, tag, blanks, tagged, blank, rfl⟩
    cases fields with
    | call name file number =>
        obtain ⟨named, filled, digits⟩ := proper
        exact ⟨(name, file, number), ⟨_, named, ⟨tag, blanks, tagged, filled, digits, blank, rfl⟩, rfl⟩, rfl⟩
    | _ => rcases form with rfl | rfl <;> exact suits.elim

theorem divides_entity_iff {kind : Artifact.Kind} (form : kind = .ancestors ∨ kind = .descendants) (line : Text)
    (fields : Fields) :
    (∃ found, Typed line found ∧ Fields.entity found.1 found.2.1 found.2.2.1 found.2.2.2 = fields) ↔
      Divides kind line fields := by
  constructor
  · rintro ⟨⟨entityType, name, file, number⟩,
      ⟨_, typed, ⟨_, named, ⟨tag, blanks, tagged, filled, digits, blank, rfl⟩, rfl⟩, rfl⟩, rfl⟩
    refine ⟨?_, ⟨typed, named, filled, digits⟩, tag, blanks, tagged, blank, rfl⟩
    rcases form with rfl | rfl <;> trivial
  · rintro ⟨suits, proper, tag, blanks, tagged, blank, rfl⟩
    cases fields with
    | entity entityType name file number =>
        obtain ⟨typed, named, filled, digits⟩ := proper
        exact ⟨(entityType, name, file, number),
          ⟨_, typed, ⟨_, named, ⟨tag, blanks, tagged, filled, digits, blank, rfl⟩, rfl⟩, rfl⟩, rfl⟩
    | _ => rcases form with rfl | rfl <;> exact suits.elim

theorem divides_location_iff {kind : Artifact.Kind} (form : kind = .references ∨ kind = .typeDefinition) (line : Text)
    (fields : Fields) :
    (∃ found, Placed line found ∧ Fields.location found.1 found.2 = fields) ↔ Divides kind line fields := by
  constructor
  · rintro ⟨⟨file, number⟩, ⟨tag, blanks, tagged, filled, digits, blank, rfl⟩, rfl⟩
    refine ⟨?_, ⟨filled, digits⟩, tag, blanks, tagged, blank, rfl⟩
    rcases form with rfl | rfl <;> trivial
  · rintro ⟨suits, proper, tag, blanks, tagged, blank, rfl⟩
    cases fields with
    | location file number =>
        exact ⟨(file, number), ⟨tag, blanks, tagged, proper.1, proper.2, blank, rfl⟩, rfl⟩
    | _ => rcases form with rfl | rfl <;> exact suits.elim

theorem divides_metric_iff (line : Text) (fields : Fields) :
    (∃ found, Scored line found ∧ Fields.metric found.1 found.2.1 found.2.2 = fields) ↔
      Divides .metrics line fields := by
  constructor
  · rintro ⟨⟨file, number, score⟩, ⟨tag, blanks, tagged, filled, digits, scored, blank, rfl⟩, rfl⟩
    exact ⟨trivial, ⟨filled, digits, scored⟩, tag, blanks, tagged, blank, rfl⟩
  · rintro ⟨suits, proper, tag, blanks, tagged, blank, rfl⟩
    cases fields with
    | metric file number score =>
        obtain ⟨filled, digits, scored⟩ := proper
        exact ⟨(file, number, score), ⟨tag, blanks, tagged, filled, digits, scored, blank, rfl⟩, rfl⟩
    | _ => exact suits.elim

/-- Reading a line finds the division with the shortest name. -/
theorem finds_fields (kind : Artifact.Kind) (single : kind ≠ .tests) :
    Finds (fields? kind) (Divides kind) fun fields => [fields.name.length] := by
  have call := finds_callFields.map (fun found => Fields.call found.1 found.2.1 found.2.2)
    (fun fields => [fields.name.length]) fun _ => rfl
  have entity := finds_entityFields.map (fun found => Fields.entity found.1 found.2.1 found.2.2.1 found.2.2.2)
    (fun fields => [fields.name.length]) fun _ => rfl
  have location := (finds_place [0]).map (fun found => Fields.location found.1 found.2)
    (fun fields => [fields.name.length]) fun _ => rfl
  have metric := (finds_metricFields [0]).map (fun found => Fields.metric found.1 found.2.1 found.2.2)
    (fun fields => [fields.name.length]) fun _ => rfl
  cases kind with
  | callers => exact call.congr (divides_call_iff (.inl rfl))
  | callees => exact call.congr (divides_call_iff (.inr rfl))
  | ancestors => exact entity.congr (divides_entity_iff (.inl rfl))
  | descendants => exact entity.congr (divides_entity_iff (.inr rfl))
  | references => exact location.congr (divides_location_iff (.inl rfl))
  | typeDefinition => exact location.congr (divides_location_iff (.inr rfl))
  | tests => exact absurd rfl single
  | metrics => exact metric.congr divides_metric_iff

theorem Fields.Proper.digits {fields : Fields} (proper : fields.Proper) : Digits fields.line := by
  cases fields with
  | call name file line => exact proper.2.2
  | entity entityType name file line => exact proper.2.2.2
  | location file line => exact proper.2
  | metric file line score => exact proper.2.1

-- However the fields in front are, the number of the line follows the same tag.
theorem Fields.spelled_eq (tag blanks : Text) (fields : Fields) :
    ∃ front, fields.spelled tag blanks =
      front ++ (";Line:".toList ++ (fields.line ++ fields.behind blanks)) := by
  cases fields with
  | call name file line =>
      refine ⟨"Name:".toList ++ (name ++ (";".toList ++ (tag ++ file))), ?_⟩
      simp only [List.append_assoc]
      rfl
  | entity entityType name file line =>
      refine ⟨"Type:".toList ++ (entityType ++ (";Name:".toList ++ (name ++ (";".toList ++ (tag ++ file))))), ?_⟩
      simp only [List.append_assoc]
      rfl
  | location file line | metric file line score =>
      refine ⟨tag ++ file, ?_⟩
      simp only [List.append_assoc]
      rfl

section Line
variable {kind : Artifact.Kind} {line : Text}

theorem number_of_few (digits : Text) (few : digits.length ≤ maxDigits) : number digits = .ok (numeral digits) := by
  rw [number, if_neg (Nat.not_lt.mpr few)]

theorem counted_of_few {α : Type} (digits : Text) (few : digits.length ≤ maxDigits) (next : Int → Except Failure α) :
    (positiveLine kind line digits >>= next) =
      if 1 ≤ numeral digits then next (numeral digits) else .error (malformed kind line) := by
  rw [positiveLine, number_of_few digits few]
  change ((if (numeral digits : Int) < 1 then .error _ else .ok _) >>= next) = _
  by_cases positive : 1 ≤ numeral digits
  · rw [if_pos positive, if_neg (by omega)]
    rfl
  · rw [if_neg positive, if_pos (by omega)]
    rfl

theorem Divides.line_few {fields : Fields} (divides : Divides kind line fields) (few : FewDigits line) :
    fields.line.length ≤ maxDigits := by
  obtain ⟨_, proper, tag, blanks, _, _, rfl⟩ := divides
  obtain ⟨front, ends⟩ := Fields.spelled_eq tag blanks fields
  refine few fields.line ⟨front ++ ";Line:".toList, fields.behind blanks, ?_⟩ proper.digits.2
  rw [ends]
  simp

theorem Divides.score_few {file number score : Text} (divides : Divides kind line (.metric file number score))
    (few : FewDigits line) : score.length ≤ maxDigits := by
  obtain ⟨_, proper, tag, blanks, _, _, rfl⟩ := divides
  refine few score ⟨tag ++ file ++ ";Line:".toList ++ number ++ ";Score:".toList, blanks, ?_⟩ proper.2.2.2
  simp only [List.append_assoc]
  rfl

/-- What is read from a line follows from its fields. -/
theorem ofLine_eq_fields (single : kind ≠ .tests) (oneLine : OneLine line) (few : FewDigits line) :
    ofLine kind line =
      match fields? kind line with
      | none => .error (malformed kind line)
      | some fields => if 1 ≤ numeral fields.line then .ok fields.record else .error (malformed kind line) := by
  cases read : fields? kind line with
  | none =>
      cases kind <;> simp only [fields?, Option.map_eq_none_iff] at read <;>
        simp [ofLine, callOfLine, entityOfLine, locationOfLine, metricOfLine, read]
      exact absurd rfl single
  | some fields =>
      have divides := (finds_fields kind single).parsed line fields oneLine read
      have short := divides.line_few few
      cases kind with
      | tests => exact absurd rfl single
      | callers | callees =>
          obtain ⟨⟨name, file, number⟩, here, rfl⟩ := Option.map_eq_some_iff.mp read
          rw [ofLine, callOfLine, here]
          exact counted_of_few number short _
      | ancestors | descendants =>
          obtain ⟨⟨entityType, name, file, number⟩, here, rfl⟩ := Option.map_eq_some_iff.mp read
          rw [ofLine, entityOfLine, here]
          exact counted_of_few number short _
      | references | typeDefinition =>
          obtain ⟨⟨file, number⟩, here, rfl⟩ := Option.map_eq_some_iff.mp read
          rw [ofLine, locationOfLine, here]
          exact counted_of_few number short _
      | metrics =>
          obtain ⟨⟨file, number, score⟩, here, rfl⟩ := Option.map_eq_some_iff.mp read
          rw [ofLine, metricOfLine, here]
          refine (counted_of_few number short _).trans ?_
          rw [number_of_few score (divides.score_few few)]
          rfl

theorem afterLast?_semicolon (front rest : Text) (plain : ';' ∉ rest) :
    afterLast? ";".toList (front ++ (';' :: rest)) = some rest := by
  apply afterLast?_append
  change (afterLast? [';'] rest <|> after? [';'] (';' :: rest)) = some rest
  rw [afterLast?_of_notMem [] plain]
  rfl

theorem Divides.last_field {fields : Fields} (divides : Divides kind line fields) :
    ∃ blanks, allBlank blanks = true ∧ afterLast? ";".toList line = some (fields.last ++ blanks) := by
  obtain ⟨_, proper, tag, blanks, _, blank, rfl⟩ := divides
  obtain ⟨front, ends⟩ := Fields.spelled_eq tag blanks fields
  have found (word : String) (tagged : ';' ∉ word.toList) (front digits : Text) (spelled : Digits digits) :
      afterLast? ";".toList (front ++ (';' :: (word.toList ++ (digits ++ blanks)))) =
        some ((word.toList ++ digits) ++ blanks) := by
    rw [List.append_assoc]
    apply afterLast?_semicolon
    simp only [List.mem_append, not_or]
    exact ⟨tagged, spelled.plain, semicolon_notMem_blanks blanks blank⟩
  refine ⟨blanks, blank, ?_⟩
  rw [ends]
  cases fields with
  | call name file number | entity entityType name file number | location file number =>
      exact found "Line:" (by decide) front number proper.digits
  | metric file number score =>
      have behind := found "Score:" (by decide) (front ++ (";Line:".toList ++ number)) score proper.2.2
      rw [List.append_assoc, List.append_assoc] at behind
      exact behind

theorem last_eq_line {fields : Fields} (suits : Suits kind fields.record) (unscored : kind ≠ .metrics) :
    fields.last = "Line:".toList ++ fields.line := by
  cases fields with
  | metric file number score => cases kind <;> first | exact suits.elim | exact absurd rfl unscored
  | _ => rfl

theorem digits_unique (one other blanks spaces : Text) (spelled : Digits one) (also : Digits other)
    (blank : allBlank blanks = true) (space : allBlank spaces = true) (same : one ++ blanks = other ++ spaces) :
    one = other := by
  have first := (digits?_eq_some_iff _ one blanks).mpr ⟨rfl, spelled, stops_blanks blanks blank⟩
  have second := (digits?_eq_some_iff _ other spaces).mpr ⟨rfl, also, stops_blanks spaces space⟩
  rw [same, second] at first
  exact (Prod.mk.inj (Option.some.inj first)).1.symm

/-- However a line is divided, its number is the same. -/
theorem Divides.line_unique {fields other : Fields} (oneLine : OneLine line) (divides : Divides kind line fields)
    (also : Divides kind line other) : fields.line = other.line := by
  by_cases scored : kind = .metrics
  · subst scored
    have same := (finds_fields .metrics nofun).apart line fields other oneLine divides also
    cases fields <;> cases other <;> first | exact divides.suits.elim | exact also.suits.elim | rw [same rfl]
  · obtain ⟨blanks, blank, found⟩ := divides.last_field
    obtain ⟨spaces, space, again⟩ := also.last_field
    rw [found, Option.some.injEq, last_eq_line divides.suits scored, last_eq_line also.suits scored,
      List.append_assoc, List.append_assoc, List.append_cancel_left_eq] at again
    exact digits_unique _ _ blanks spaces divides.proper.digits also.proper.digits blank space again

theorem fields?_eq_some_iff (single : kind ≠ .tests) (oneLine : OneLine line) (fields : Fields) :
    fields? kind line = some fields ↔ Divides kind line fields ∧
      ∀ other, Divides kind line other → fields.name.length ≤ other.name.length := by
  simp only [(finds_fields kind single).eq_some_iff oneLine, noLater_single]

theorem ofLine_eq_ok_iff (single : kind ≠ .tests) (oneLine : OneLine line) (few : FewDigits line) (record : Record) :
    ofLine kind line = .ok record ↔ ∃ fields, Divides kind line fields ∧ 1 ≤ numeral fields.line ∧
      (∀ other, Divides kind line other → fields.name.length ≤ other.name.length) ∧ record = fields.record := by
  rw [ofLine_eq_fields single oneLine few]
  constructor
  · intro accepted
    split at accepted
    case h_1 => cases accepted
    case h_2 fields read =>
      obtain ⟨divides, least⟩ := (fields?_eq_some_iff single oneLine fields).mp read
      split at accepted
      case isTrue positive => exact ⟨fields, divides, positive, least, (Except.ok.inj accepted).symm⟩
      case isFalse => cases accepted
  · rintro ⟨fields, divides, positive, least, rfl⟩
    rw [(fields?_eq_some_iff single oneLine fields).mpr ⟨divides, least⟩]
    exact if_pos positive

theorem ofLine_undivided (single : kind ≠ .tests) (oneLine : OneLine line) (few : FewDigits line)
    (undivided : ∀ fields, ¬ Divides kind line fields) : ofLine kind line = .error (malformed kind line) := by
  rw [ofLine_eq_fields single oneLine few, ((finds_fields kind single).eq_none_iff oneLine).mpr undivided]

/-- A line that can be divided is a record unless its number is zero. -/
theorem ofLine_divided (single : kind ≠ .tests) (oneLine : OneLine line) (few : FewDigits line) {fields : Fields}
    (divides : Divides kind line fields) :
    ∃ record, ofLine kind line =
      if 1 ≤ numeral fields.line then .ok record else .error (malformed kind line) := by
  obtain ⟨chosen, read⟩ := Option.isSome_iff_exists.mp ((finds_fields kind single).complete line fields oneLine divides)
  have also := (finds_fields kind single).parsed line chosen oneLine read
  refine ⟨chosen.record, ?_⟩
  rw [ofLine_eq_fields single oneLine few, read, divides.line_unique oneLine also]

end Line

/-- A line is a record exactly if it can be divided into fields and does not count from zero. Of all divisions the one
with the shortest name is read, and there is only one of these. -/
theorem lines_read_by_grammar (kind : Artifact.Kind) (line : Text) (single : kind ≠ .tests) (oneLine : OneLine line)
    (few : FewDigits line) :
    ((∃ record, ofLine kind line = .ok record) ↔ ∃ fields, Divides kind line fields ∧ 1 ≤ numeral fields.line) ∧
    (∀ record, ofLine kind line = .ok record ↔ ∃ fields, Divides kind line fields ∧ 1 ≤ numeral fields.line ∧
      (∀ other, Divides kind line other → fields.name.length ≤ other.name.length) ∧ record = fields.record) ∧
    (∀ fields other, Divides kind line fields → Divides kind line other → fields.name = other.name →
      fields = other) ∧
    (∀ fields, Divides kind line fields →
      ∃ blanks, allBlank blanks = true ∧ afterLast? ";".toList line = some (fields.last ++ blanks)) ∧
    ((∀ fields, ¬ Divides kind line fields) → ofLine kind line = .error (malformed kind line)) ∧
    (∀ fields, Divides kind line fields → numeral fields.line = 0 →
      ofLine kind line = .error (malformed kind line)) := by
  have accepted := ofLine_eq_ok_iff single oneLine few
  refine ⟨⟨?_, ?_⟩, accepted, ?_, fun fields divides => divides.last_field,
    ofLine_undivided single oneLine few, ?_⟩
  · rintro ⟨record, read⟩
    obtain ⟨fields, divides, positive, _⟩ := (accepted record).mp read
    exact ⟨fields, divides, positive⟩
  · rintro ⟨fields, divides, positive⟩
    obtain ⟨record, read⟩ := ofLine_divided single oneLine few divides
    exact ⟨record, read.trans (if_pos positive)⟩
  · intro fields other divides also same
    exact (finds_fields kind single).apart line fields other oneLine divides also (by rw [same])
  · intro fields divides zero
    obtain ⟨record, read⟩ := ofLine_divided single oneLine few divides
    exact read.trans (if_neg (by omega))

theorem few_of_short (line : Text) (short : line.length ≤ maxDigits) : FewDigits line :=
  fun _ inside _ => Nat.le_trans inside.length_le short

-- The name ends at the first tag of a file, the file at the last tag of a line.
theorem tags_in_both_fields_read :
    Artifact.Kind.callers ≠ .tests ∧
    let line := "Name:a;file:b;File:c;Line:1;Line:7 ".toList
    OneLine line ∧ FewDigits line ∧
      Divides .callers line (.call "a;file:b".toList "c;Line:1".toList "7".toList) ∧
      ofLine .callers line = .ok (.call ⟨"a".toList, "b;File:c;Line:1".toList, 7⟩) := by
  have oneLine : OneLine "Name:a;file:b;File:c;Line:1;Line:7 ".toList := by simp [OneLine]
  have few : FewDigits "Name:a;file:b;File:c;Line:1;Line:7 ".toList := few_of_short _ (by decide)
  have digits : Digits "7".toList := ⟨by decide, List.all_eq_true.mp (by decide +kernel)⟩
  have lower : FileTag "file:".toList := ⟨'f', by simp, 'i', by simp, 'l', by simp, 'e', by simp, rfl⟩
  refine ⟨by decide, oneLine, few, ?_, ?_⟩
  · exact ⟨trivial, ⟨by decide, by decide, digits⟩, _, " ".toList, fileTag_plain, by decide +kernel, rfl⟩
  · apply ((lines_read_by_grammar .callers _ (by decide) oneLine few).2.1 _).mpr
    refine ⟨.call "a".toList "b;File:c;Line:1".toList "7".toList, ?_, by decide +kernel, ?_, by decide +kernel⟩
    · exact ⟨trivial, ⟨by decide, by decide, digits⟩, _, " ".toList, lower, by decide +kernel, rfl⟩
    · intro other divides
      cases other with
      | call name file number => exact List.length_pos_iff.mpr divides.proper.1
      | _ => exact divides.suits.elim

end LogtalkNavigation.Record
