import LogtalkNavigation.Cursor.Arguments

/-! Scanning argument lists. The scan can be done by a reader that takes one character at a time and looks at
none twice. What such a reader makes of a well-nested text, by the grammar below, is known from the text as a
whole: where the list ends, and how many arguments it has. Blanks count once however many follow each other, so the
reader does the same on a text with its blanks collapsed. -/

namespace LogtalkNavigation.Cursor

abbrev Quote := { c : Char // isQuote c = true }

inductive Mode where
  | outside
  | inside (quote : Quote)
  | escaped (quote : Quote)
deriving DecidableEq

structure Reader where
  mode : Mode
  scan : Scan
deriving DecidableEq

namespace Reader

def step : Reader → Char → Option Reader
  | ⟨.escaped quote, scan⟩, _ => some ⟨.inside quote, scan⟩
  | ⟨.inside quote, scan⟩, c =>
    if c = '\\' then some ⟨.escaped quote, scan⟩
    else if c = quote then some ⟨.outside, scan⟩
    else some ⟨.inside quote, scan⟩
  | ⟨.outside, scan⟩, c =>
    if opens : isQuote c then some ⟨.inside ⟨c, opens⟩, { scan with filled := true }⟩
    else if isOpening c then some ⟨.outside, { scan with depth := scan.depth + 1 }⟩
    else if isClosing c then
      if scan.depth = 1 then none else some ⟨.outside, { scan with depth := scan.depth - 1 }⟩
    else some ⟨.outside, scan.pass c⟩

def run : Reader → Text → Nat × Nat
  | reader, [] => (0, reader.scan.arity)
  | reader, c :: text =>
    match reader.step c with
    | none => (1, reader.scan.arity)
    | some next => ((next.run text).1 + 1, (next.run text).2)

def after? : Reader → Text → Option Reader
  | reader, [] => some reader
  | reader, c :: text => (reader.step c).bind fun next => next.after? text

theorem after?_append (reader : Reader) (front back : Text) :
    reader.after? (front ++ back) = (reader.after? front).bind fun next => next.after? back := by
  induction front generalizing reader with
  | nil => rfl
  | cons c rest ih =>
      rw [List.cons_append, after?, after?]
      cases reader.step c with
      | none => rfl
      | some next => exact ih next

theorem run_append {reader later : Reader} {front : Text} (passed : reader.after? front = some later) (back : Text) :
    reader.run (front ++ back) = ((later.run back).1 + front.length, (later.run back).2) := by
  induction front generalizing reader with
  | nil =>
      cases passed
      rfl
  | cons c rest ih =>
      rw [after?] at passed
      rw [List.cons_append, run]
      cases stepped : reader.step c with
      | none =>
          rw [stepped] at passed
          cases passed
      | some next =>
          rw [stepped] at passed
          dsimp only
          rw [ih passed]
          rfl

-- A reader moves on at every character, and never further than the text goes.
theorem run_bounds (reader : Reader) (text : Text) :
    (reader.run text).1 ≤ text.length ∧ (text ≠ [] → 0 < (reader.run text).1) := by
  induction text generalizing reader with
  | nil => exact ⟨Nat.le_refl _, fun none => absurd rfl none⟩
  | cons c rest ih =>
      rw [run]
      cases reader.step c with
      | none =>
          constructor
          · exact Nat.le_add_left _ _
          · intro _
            exact Nat.one_pos
      | some next =>
          constructor
          · exact Nat.succ_le_succ (ih next).1
          · intro _
            exact Nat.succ_pos _

theorem run_cons {reader next : Reader} {c : Char} {text : Text} {length arity : Nat}
    (stepped : reader.step c = some next) (rest : (length, arity) = next.run text) :
    (length + 1, arity) = reader.run (c :: text) := by
  rw [run, stepped]
  dsimp only
  rw [← rest]

theorem plain_of_opening {c : Char} (opening : isOpening c = true) : isQuote c = false := by
  simp only [isOpening, Bool.or_eq_true, decide_eq_true_eq] at opening
  rcases opening with (rfl | rfl) | rfl <;> rfl

theorem plain_of_closing {c : Char} (closing : isClosing c = true) : isQuote c = false ∧ isOpening c = false := by
  simp only [isClosing, Bool.or_eq_true, decide_eq_true_eq] at closing
  rcases closing with (rfl | rfl) | rfl <;> exact ⟨rfl, rfl⟩

theorem quote_ne_backslash (quote : Quote) : quote.1 ≠ '\\' := by
  intro same
  exact absurd (same ▸ quote.2) (by decide)

section Steps
variable (scan : Scan) {c : Char} (quote : Quote)

theorem step_quote : step ⟨.outside, scan⟩ quote.1 = some ⟨.inside quote, { scan with filled := true }⟩ := by
  rw [step, dif_pos quote.2]

theorem step_opening (opening : isOpening c = true) :
    step ⟨.outside, scan⟩ c = some ⟨.outside, { scan with depth := scan.depth + 1 }⟩ := by
  rw [step, dif_neg (by simp [plain_of_opening opening]), if_pos opening]

theorem step_closing (closing : isClosing c = true) (deep : scan.depth ≠ 1) :
    step ⟨.outside, scan⟩ c = some ⟨.outside, { scan with depth := scan.depth - 1 }⟩ := by
  obtain ⟨noQuote, noOpening⟩ := plain_of_closing closing
  rw [step, dif_neg (by simp [noQuote]), if_neg (by simp [noOpening]), if_pos closing, if_neg deep]

theorem step_last (closing : isClosing c = true) (last : scan.depth = 1) : step ⟨.outside, scan⟩ c = none := by
  obtain ⟨noQuote, noOpening⟩ := plain_of_closing closing
  rw [step, dif_neg (by simp [noQuote]), if_neg (by simp [noOpening]), if_pos closing, if_pos last]

theorem step_plain (noQuote : isQuote c = false) (noOpening : isOpening c = false) (noClosing : isClosing c = false) :
    step ⟨.outside, scan⟩ c = some ⟨.outside, scan.pass c⟩ := by
  rw [step, dif_neg (by simp [noQuote]), if_neg (by simp [noOpening]), if_neg (by simp [noClosing])]

theorem step_backslash : step ⟨.inside quote, scan⟩ '\\' = some ⟨.escaped quote, scan⟩ := rfl

theorem step_escaped : step ⟨.escaped quote, scan⟩ c = some ⟨.inside quote, scan⟩ := rfl

theorem step_end : step ⟨.inside quote, scan⟩ quote.1 = some ⟨.outside, scan⟩ := by
  rw [step, if_neg (quote_ne_backslash quote), if_pos rfl]

theorem step_inner (noBackslash : c ≠ '\\') (other : c ≠ quote.1) :
    step ⟨.inside quote, scan⟩ c = some ⟨.inside quote, scan⟩ := by
  rw [step, if_neg noBackslash, if_neg other]

end Steps

def within (quote : Option Quote) (scan : Scan) : Reader :=
  match quote with
  | none => ⟨.outside, scan⟩
  | some quote => ⟨.inside quote, scan⟩

-- A quote that ends a token, unless it is written twice: then another one begins, in which nothing is different.
theorem step_inside (quote : Quote) (scan : Scan) {c : Char} (noBackslash : c ≠ '\\') :
    step ⟨.inside quote, scan⟩ c = some (within (if c = quote.1 then none else some quote) scan) := by
  by_cases same : c = quote.1
  · rw [if_pos same, same]
    exact step_end scan quote
  · rw [if_neg same]
    exact step_inner scan quote noBackslash same

theorem map_ite_quote (quote : Quote) (c : Char) :
    (if c = quote.1 then none else some quote : Option Quote).map Subtype.val =
      if c = quote.1 then none else some quote.1 := by
  split <;> rfl

theorem scanFrom_eq_run (quote : Option Quote) (scan : Scan) (text : Text)
    (filled : quote ≠ none → scan.filled = true) :
    scanFrom (quote.map Subtype.val) scan text = (within quote scan).run text := by
  have free : ∀ {scan : Scan}, (none : Option Quote) ≠ none → scan.filled = true := fun none => absurd rfl none
  generalize spelled : quote.map Subtype.val = mark
  fun_induction scanFrom mark scan text generalizing quote with
  | case1 mark scan => cases quote <;> rfl
  | case2 mark scan =>
      obtain ⟨quote, rfl, rfl⟩ := Option.map_eq_some_iff.mp spelled
      rfl
  | case3 mark scan c next text skips length arity scanned ih =>
      obtain ⟨quote, rfl, rfl⟩ := Option.map_eq_some_iff.mp spelled
      have rest := scanned.symm.trans (ih (some quote) filled rfl)
      rcases skips with rfl | ⟨rfl, rfl⟩
      · exact run_cons (step_backslash scan quote) (run_cons (step_escaped scan quote) rest)
      · have again : step ⟨.outside, scan⟩ quote.1 = some ⟨.inside quote, scan⟩ := by
          rw [step_quote, ← filled (Option.some_ne_none quote)]
        exact run_cons (step_end scan quote) (run_cons again rest)
  | case4 mark scan c next text stays length arity scanned ih =>
      obtain ⟨quote, rfl, rfl⟩ := Option.map_eq_some_iff.mp spelled
      have rest := scanned.symm.trans (ih _ (fun _ => filled (Option.some_ne_none quote)) (map_ite_quote quote c))
      exact run_cons (step_inside quote scan fun same => stays (.inl same)) rest
  | case5 mark scan c noBackslash length arity scanned ih =>
      obtain ⟨quote, rfl, rfl⟩ := Option.map_eq_some_iff.mp spelled
      have rest := scanned.symm.trans (ih _ (fun _ => filled (Option.some_ne_none quote)) (map_ite_quote quote c))
      exact run_cons (step_inside quote scan noBackslash) rest
  | case6 scan c text opens length arity scanned ih =>
      obtain rfl := Option.map_eq_none_iff.mp spelled
      have rest := scanned.symm.trans (ih (some ⟨c, opens⟩) (fun _ => rfl) rfl)
      exact run_cons (step_quote scan ⟨c, opens⟩) rest
  | case7 scan c text noQuote opening length arity scanned ih =>
      obtain rfl := Option.map_eq_none_iff.mp spelled
      exact run_cons (step_opening scan opening) (scanned.symm.trans (ih none free rfl))
  | case8 scan c text noQuote noOpening closing last =>
      obtain rfl := Option.map_eq_none_iff.mp spelled
      rw [within, run, step_last scan closing last]
  | case9 scan c text noQuote noOpening closing deep length arity scanned ih =>
      obtain rfl := Option.map_eq_none_iff.mp spelled
      exact run_cons (step_closing scan closing deep) (scanned.symm.trans (ih none free rfl))
  | case10 scan c text noQuote noOpening noClosing length arity scanned ih =>
      obtain rfl := Option.map_eq_none_iff.mp spelled
      rw [Bool.not_eq_true] at noQuote noOpening noClosing
      exact run_cons (step_plain scan noQuote noOpening noClosing) (scanned.symm.trans (ih none free rfl))

end Reader

theorem scanArguments_eq_run (text : Text) : scanArguments text = Reader.run ⟨.outside, {}⟩ text :=
  Reader.scanFrom_eq_run none {} text fun none => absurd rfl none

/-- What stands between the quotes of a token: any characters, where a backslash takes the next one with it and the
quote itself is written twice. -/
inductive Content (quote : Char) : Text → Prop where
  | nil : Content quote []
  | char {c : Char} {rest : Text} (other : c ≠ quote) (noBackslash : c ≠ '\\') (more : Content quote rest) :
      Content quote (c :: rest)
  | escape {c : Char} {rest : Text} (more : Content quote rest) : Content quote ('\\' :: c :: rest)
  | doubled {rest : Text} (more : Content quote rest) : Content quote (quote :: quote :: rest)

def closingOf (opening : Char) : Char :=
  if opening = '(' then ')' else if opening = '[' then ']' else '}'

def IsOrdinary (c : Char) : Prop :=
  isQuote c = false ∧ isOpening c = false ∧ isClosing c = false ∧ c ≠ ','

instance (c : Char) : Decidable (IsOrdinary c) := inferInstanceAs (Decidable (_ ∧ _))

/-- A text with its brackets in pairs, as far as they are not quoted. `commas` says whether there may be commas
outside of all brackets. -/
inductive Nested : Bool → Text → Prop where
  | nil {commas : Bool} : Nested commas []
  | char {commas : Bool} {c : Char} {rest : Text} (ordinary : IsOrdinary c) (more : Nested commas rest) :
      Nested commas (c :: rest)
  | comma {rest : Text} (more : Nested true rest) : Nested true (',' :: rest)
  | token {commas : Bool} {content rest : Text} (quote : Quote) (inside : Content quote.1 content)
      (more : Nested commas rest) : Nested commas (quote.1 :: (content ++ quote.1 :: rest))
  | group {commas : Bool} {opening : Char} {inner rest : Text} (opens : isOpening opening = true)
      (inside : Nested true inner) (more : Nested commas rest) :
      Nested commas (opening :: (inner ++ closingOf opening :: rest))

def listed (arguments : List Text) : Text := '(' :: (Text.join [','] arguments ++ [')'])

theorem isClosing_closingOf (opening : Char) : isClosing (closingOf opening) = true := by
  unfold closingOf
  split
  · rfl
  · split <;> rfl

theorem join_cons_append (front first : Text) (rest : List Text) :
    Text.join [','] ((front ++ first) :: rest) = front ++ Text.join [','] (first :: rest) := by
  cases rest with
  | nil => simp [Text.join, List.intercalate]
  | cons next rest => simp [Text.join, List.intercalate]

theorem join_cons_cons (first second : Text) (rest : List Text) :
    Text.join [','] (first :: second :: rest) = first ++ ',' :: Text.join [','] (second :: rest) := by
  simp [Text.join, List.intercalate]

-- Between its commas a well-nested text has arguments. What stands in front of it belongs to the first of them.
theorem divided_of_nested {commas : Bool} {text : Text} (nested : Nested commas text) :
    ∃ first rest, (∀ argument ∈ first :: rest, Nested false argument) ∧
      text = Text.join [','] (first :: rest) := by
  have enlarged {front first : Text} {rest : List Text}
      (arguments : ∀ argument ∈ first :: rest, Nested false argument)
      (extended : Nested false first → Nested false (front ++ first)) :
      ∃ head tail, (∀ argument ∈ head :: tail, Nested false argument) ∧
        front ++ Text.join [','] (first :: rest) = Text.join [','] (head :: tail) := by
    refine ⟨front ++ first, rest, ?_, (join_cons_append front first rest).symm⟩
    obtain ⟨whole, others⟩ := List.forall_mem_cons.mp arguments
    exact List.forall_mem_cons.mpr ⟨extended whole, others⟩
  induction nested with
  | nil => exact ⟨[], [], by simpa using Nested.nil, rfl⟩
  | @char commas c text ordinary more ih =>
      obtain ⟨first, rest, arguments, rfl⟩ := ih
      exact @enlarged [c] first rest arguments (.char ordinary)
  | comma more ih =>
      obtain ⟨first, rest, arguments, rfl⟩ := ih
      exact ⟨[], first :: rest, List.forall_mem_cons.mpr ⟨.nil, arguments⟩, (join_cons_cons [] first rest).symm⟩
  | @token commas content text quote inside more ih =>
      obtain ⟨first, rest, arguments, rfl⟩ := ih
      have extended := @enlarged (quote.1 :: (content ++ [quote.1])) first rest arguments
        (by simpa using Nested.token quote inside)
      simpa using extended
  | @group commas opening inner text opens inside more _ ih =>
      obtain ⟨first, rest, arguments, rfl⟩ := ih
      have extended := @enlarged (opening :: (inner ++ [closingOf opening])) first rest arguments
        (by simpa using Nested.group opens inside)
      simpa using extended

def isFiller (c : Char) : Bool := !Text.isBlank c && !isOpening c && !isClosing c

def Scan.past (scan : Scan) (text : Text) : Scan := { scan with filled := scan.filled || text.any isFiller }

theorem Scan.past_append (scan : Scan) (front back : Text) : scan.past (front ++ back) = (scan.past front).past back := by
  simp [past, Bool.or_assoc]

theorem Scan.past_cons (scan : Scan) (c : Char) (rest : Text) : scan.past (c :: rest) = (scan.past [c]).past rest :=
  scan.past_append [c] rest

theorem isFiller_quote (quote : Quote) : isFiller quote.1 = true := by
  obtain ⟨c, opens⟩ := quote
  simp only [isQuote, Bool.or_eq_true, decide_eq_true_eq] at opens
  rcases opens with (rfl | rfl) | rfl <;> rfl

theorem Scan.past_token (scan : Scan) (quote : Quote) (rest : Text) :
    scan.past (quote.1 :: rest) = { scan with filled := true } := by
  simp [past, isFiller_quote]

theorem Scan.past_bracket (scan : Scan) {c : Char} (bracket : isOpening c = true ∨ isClosing c = true) :
    scan.past [c] = scan := by
  rcases bracket with opening | closing
  · simp [past, isFiller, opening]
  · simp [past, isFiller, closing]

namespace Reader

theorem after?_content {quote : Quote} {content : Text} (inside : Content quote.1 content) (scan : Scan)
    (filled : scan.filled = true) : after? ⟨.inside quote, scan⟩ content = some ⟨.inside quote, scan⟩ := by
  induction inside with
  | nil => rfl
  | char other noBackslash more ih =>
      rw [after?, step_inner scan quote noBackslash other]
      exact ih
  | escape more ih =>
      rw [after?, step_backslash, Option.bind_some, after?, step_escaped]
      exact ih
  | doubled more ih =>
      rw [after?, step_end, Option.bind_some, after?, step_quote, ← filled]
      exact ih

theorem pass_eq_past {scan : Scan} {c : Char} (noOpening : isOpening c = false) (noClosing : isClosing c = false)
    (deep : 1 ≤ scan.depth) (inner : c = ',' → scan.depth ≠ 1) : scan.pass c = scan.past [c] := by
  have noComma : ¬ (c = ',' ∧ scan.depth = 1) := fun ⟨comma, top⟩ => inner comma top
  rw [Scan.pass, if_neg noComma, Scan.past]
  cases blank : Text.isBlank c with
  | true => simp [isFiller, blank]
  | false => simp [isFiller, blank, deep, noOpening, noClosing]

-- The induction is on the nesting; inside of a group the depth is two or more, so no comma is counted there.
theorem after?_nested {commas : Bool} {text : Text} (nested : Nested commas text) (scan : Scan)
    (deep : 1 ≤ scan.depth) (covered : commas = true → scan.depth ≠ 1) :
    after? ⟨.outside, scan⟩ text = some ⟨.outside, scan.past text⟩ := by
  induction nested generalizing scan with
  | nil => simp [after?, Scan.past]
  | @char commas c rest ordinary more ih =>
      obtain ⟨noQuote, noOpening, noClosing, noComma⟩ := ordinary
      have passed := pass_eq_past noOpening noClosing deep fun comma => absurd comma noComma
      rw [after?, step_plain scan noQuote noOpening noClosing, passed, scan.past_cons c rest]
      exact ih (scan.past [c]) deep covered
  | @comma rest more ih =>
      have passed : scan.pass ',' = scan.past [','] := pass_eq_past rfl rfl deep fun _ => covered rfl
      rw [after?, step_plain scan rfl rfl rfl, passed, scan.past_cons ',' rest]
      exact ih (scan.past [',']) deep covered
  | @token commas content rest quote inside more ih =>
      have filled := ih { scan with filled := true } deep covered
      rw [after?, step_quote, Option.bind_some, after?_append, after?_content inside _ rfl, Option.bind_some, after?,
        step_end, Option.bind_some, filled, Scan.past_token]
      simp [Scan.past]
  | @group commas opening inner rest opens inside more ihInner ih =>
      have within := ihInner { scan with depth := scan.depth + 1 } (Int.le_add_of_nonneg_left (by omega))
        fun _ => by dsimp only; omega
      have closes : step ⟨.outside, { scan with depth := scan.depth + 1 }.past inner⟩ (closingOf opening) =
          some ⟨.outside, scan.past inner⟩ := by
        have lower : ({ scan with depth := scan.depth + 1 }.past inner).depth ≠ 1 := by
          dsimp only [Scan.past]
          omega
        rw [step_closing _ (isClosing_closingOf opening) lower]
        simp [Scan.past]
      have seen : scan.past (opening :: (inner ++ closingOf opening :: rest)) = (scan.past inner).past rest := by
        rw [scan.past_cons, scan.past_bracket (.inl opens), scan.past_append, Scan.past_cons,
          Scan.past_bracket _ (.inr (isClosing_closingOf opening))]
      rw [after?, step_opening scan opens, Option.bind_some, after?_append, within, Option.bind_some, after?, closes,
        seen]
      exact ih (scan.past inner) deep covered

/-- The scan behind some arguments with commas between them. -/
theorem after?_join (arguments : List Text) (nested : ∀ argument ∈ arguments, Nested false argument) (scan : Scan)
    (top : scan.depth = 1) :
    after? ⟨.outside, scan⟩ (Text.join [','] arguments) = some ⟨.outside,
      { scan.past arguments.flatten with commas := scan.commas + (arguments.length - 1) }⟩ := by
  induction arguments generalizing scan with
  | nil => simp [Text.join, List.intercalate, after?, Scan.past]
  | cons first rest ih =>
      obtain ⟨whole, others⟩ := List.forall_mem_cons.mp nested
      have passed := after?_nested whole scan (Int.le_of_eq top.symm) (fun commas => nomatch commas)
      cases rest with
      | nil => simpa [Text.join, List.intercalate, Scan.past] using passed
      | cons second rest =>
          have counted : (scan.past first).pass ',' =
              { scan.past first with commas := (scan.past first).commas + 1 } := if_pos ⟨rfl, top⟩
          have later := ih others { scan.past first with commas := (scan.past first).commas + 1 } top
          have count : scan.commas + 1 + rest.length = scan.commas + (rest.length + 1) := by omega
          rw [join_cons_cons, after?_append, passed, Option.bind_some, after?, step_plain _ rfl rfl rfl,
            Option.bind_some, counted, later]
          simp [Scan.past, Bool.or_assoc, count]

end Reader

def shownArity (arguments : List Text) : Nat :=
  if arguments.any (·.any isFiller) then arguments.length else 0

-- Nothing behind the closing parenthesis is looked at.
theorem scanArguments_listed {arguments : List Text} (nested : ∀ argument ∈ arguments, Nested false argument)
    (rest : Text) :
    scanArguments (listed arguments ++ rest) = ((listed arguments).length, shownArity arguments) := by
  have divided : listed arguments ++ rest = ('(' :: Text.join [','] arguments) ++ ')' :: rest := by simp [listed]
  have passed : Reader.after? ⟨.outside, {}⟩ ('(' :: Text.join [','] arguments) = some ⟨.outside,
      { Scan.past { depth := 1 } arguments.flatten with commas := 0 + (arguments.length - 1) }⟩ := by
    rw [Reader.after?, Reader.step_opening _ rfl]
    exact Reader.after?_join arguments nested { depth := 1 } rfl
  have length : 1 + ('(' :: Text.join [','] arguments).length = (listed arguments).length := by
    simp [listed, Nat.add_comm]
  rw [scanArguments_eq_run, divided, Reader.run_append passed, Reader.run, Reader.step_last _ rfl rfl]
  refine Prod.ext length ?_
  rw [shownArity, ← List.any_flatten]
  cases filled : arguments.flatten.any isFiller with
  | false => simp [Scan.arity, Scan.past, filled]
  | true =>
      have positive : 0 < arguments.length := by
        apply List.length_pos_iff.mpr
        rintro rfl
        cases filled
      simp [Scan.arity, Scan.past, filled, Nat.sub_add_cancel positive]

namespace Reader

def rested : Reader → Reader
  | ⟨.escaped quote, scan⟩ => ⟨.inside quote, scan⟩
  | reader => reader

theorem rested_rested (reader : Reader) : reader.rested.rested = reader.rested := by
  obtain ⟨mode, scan⟩ := reader
  cases mode <;> rfl

theorem plain_of_blank {c : Char} (blank : Text.isBlank c = true) : IsOrdinary c ∧ c ≠ '\\' := by
  have apart (d : Char) (visible : Text.isBlank d = false) : c ≠ d := by
    rintro rfl
    rw [visible] at blank
    cases blank
  simp [IsOrdinary, isQuote, isOpening, isClosing, apart '\'' rfl, apart '"' rfl, apart '`' rfl, apart '(' rfl,
    apart '[' rfl, apart '{' rfl, apart ')' rfl, apart ']' rfl, apart '}' rfl, apart ',' rfl, apart '\\' rfl]

theorem step_blank (reader : Reader) {c : Char} (blank : Text.isBlank c = true) :
    reader.step c = some reader.rested := by
  obtain ⟨⟨noQuote, noOpening, noClosing, noComma⟩, noBackslash⟩ := plain_of_blank blank
  obtain ⟨mode, scan⟩ := reader
  cases mode with
  | outside =>
      have passed : scan.pass c = scan := by simp [Scan.pass, noComma, blank]
      rw [step_plain scan noQuote noOpening noClosing, passed]
      rfl
  | inside quote =>
      apply step_inner scan quote noBackslash
      rintro rfl
      rw [quote.2] at noQuote
      cases noQuote
  | escaped quote => rfl

-- The induction is on the text. Within a run of blanks the reader is at rest, so that leaving out the next one
-- makes no difference to it.
theorem run_collapse (within : Bool) (reader : Reader) (text : Text) (still : within = true → reader.rested = reader) :
    (reader.run (Text.collapseFrom within text)).2 = (reader.run text).2 ∧
      (Text.collapseFrom within text).take (reader.run (Text.collapseFrom within text)).1 =
        Text.collapseFrom within (text.take (reader.run text).1) := by
  induction text generalizing within reader with
  | nil => exact ⟨rfl, rfl⟩
  | cons c rest ih =>
      by_cases blank : Text.isBlank c = true
      · have moved : reader.run (c :: rest) = ((reader.rested.run rest).1 + 1, (reader.rested.run rest).2) := by
          rw [run, reader.step_blank blank]
        obtain ⟨arity, extent⟩ := ih true reader.rested fun _ => reader.rested_rested
        rw [moved, List.take_succ_cons, Text.collapseFrom, Text.collapseFrom, if_pos blank, if_pos blank]
        cases within with
        | true =>
            rw [still rfl] at arity extent ⊢
            exact ⟨arity, extent⟩
        | false =>
            have spaced : reader.run (' ' :: Text.collapseFrom true rest) =
                ((reader.rested.run (Text.collapseFrom true rest)).1 + 1,
                  (reader.rested.run (Text.collapseFrom true rest)).2) := by
              rw [run, reader.step_blank rfl]
            simp only [Bool.false_eq_true, if_false, spaced, List.take_succ_cons]
            exact ⟨arity, congrArg (List.cons ' ') extent⟩
      · rw [Text.collapseFrom, if_neg blank, run, run]
        cases reader.step c with
        | none =>
            refine ⟨rfl, ?_⟩
            simp [Text.collapseFrom, blank]
        | some next =>
            obtain ⟨arity, extent⟩ := ih false next fun turned => nomatch turned
            refine ⟨arity, ?_⟩
            simp only [List.take_succ_cons, Text.collapseFrom, if_neg blank]
            exact congrArg (List.cons c) extent

end Reader

theorem scanArguments_collapse (text : Text) :
    (scanArguments (Text.collapse text)).2 = (scanArguments text).2 ∧
      (Text.collapse text).take (scanArguments (Text.collapse text)).1 =
        Text.collapse (text.take (scanArguments text).1) := by
  rw [scanArguments_eq_run, scanArguments_eq_run]
  exact Reader.run_collapse false _ text fun turned => nomatch turned

theorem scanArguments_bounds (text : Text) :
    (scanArguments text).1 ≤ text.length ∧ (text ≠ [] → 0 < (scanArguments text).1) := by
  rw [scanArguments_eq_run]
  exact Reader.run_bounds _ text

end LogtalkNavigation.Cursor
