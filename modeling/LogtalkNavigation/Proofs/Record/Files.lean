import LogtalkNavigation.Record.Basic

/-! Names of files in records. Tidying twice is tidying once, so a name and its tidy form mean the same
file. -/

namespace LogtalkNavigation.Text

-- Neither end of the text is blank.
def Trimmed (text : Text) : Prop :=
  (∀ c, text.head? = some c → isBlank c = false) ∧ ∀ c, text.getLast? = some c → isBlank c = false

theorem dropWhile_of_head (text : Text) (filled : ∀ c, text.head? = some c → isBlank c = false) :
    text.dropWhile isBlank = text := by
  cases text with
  | nil => rfl
  | cons c rest => rw [List.dropWhile_cons_of_neg (by simp [filled c rfl])]

theorem trim_of_trimmed (text : Text) (trimmed : Trimmed text) : trim text = text := by
  have front := dropWhile_of_head text trimmed.1
  have back : text.reverse.dropWhile isBlank = text.reverse := by
    apply dropWhile_of_head
    intro c last
    exact trimmed.2 c (by rw [← List.head?_reverse]; exact last)
  rw [trim, front, trimEnd, back, List.reverse_reverse]

theorem filled_of_dropWhile (text : Text) (c : Char)
    (head : (text.dropWhile isBlank).head? = some c) : isBlank c = false := by
  have first := List.head?_dropWhile_not isBlank text
  rw [head] at first
  exact first

theorem trimmed_trim (text : Text) : Trimmed (trim text) := by
  constructor
  · intro c head
    -- What is cut off behind leaves the first character, if any is left.
    have front : (trim text) <+: text.dropWhile isBlank := by
      rw [trim, trimEnd, ← List.reverse_suffix, List.reverse_reverse]
      exact List.dropWhile_suffix _
    obtain ⟨cut, whole⟩ := front
    refine filled_of_dropWhile text c ?_
    rw [← whole, List.head?_append, head]
    rfl
  · intro c last
    refine filled_of_dropWhile (text.dropWhile isBlank).reverse c ?_
    rw [← List.reverse_reverse (List.dropWhile isBlank _), List.head?_reverse]
    exact last

theorem head?_squeeze (c : Char) (text : Text) : (squeeze c text).head? = text.head? := by
  fun_induction squeeze c text with
  | case1 => rfl
  | case2 last => rfl
  | case3 first second rest run ih => rw [ih, List.head?_cons, List.head?_cons, run.1, run.2]
  | case4 first second rest _ ih => rfl

theorem getLast?_squeeze (c : Char) (text : Text) : (squeeze c text).getLast? = text.getLast? := by
  fun_induction squeeze c text with
  | case1 => rfl
  | case2 last => rfl
  | case3 first second rest run ih => rw [ih, List.getLast?_cons_cons]
  | case4 first second rest _ ih =>
      cases squeezed : squeeze c (second :: rest) with
      | nil =>
          have head := head?_squeeze c (second :: rest)
          rw [squeezed] at head
          cases head
      | cons d more => rw [List.getLast?_cons_cons, List.getLast?_cons_cons, ← squeezed, ih]

theorem mem_of_mem_squeeze (c d : Char) (text : Text) (inside : d ∈ squeeze c text) : d ∈ text := by
  fun_induction squeeze c text with
  | case1 => exact inside
  | case2 last => exact inside
  | case3 first second rest run ih => exact List.mem_cons_of_mem _ (ih inside)
  | case4 first second rest _ ih =>
      rcases List.mem_cons.mp inside with same | later
      · rw [same]
        exact List.mem_cons_self
      · exact List.mem_cons_of_mem _ (ih later)

theorem squeeze_cons (c first : Char) (text : Text)
    (apart : ∀ second, text.head? = some second → ¬ (first = c ∧ second = c)) :
    squeeze c (first :: text) = first :: squeeze c text := by
  cases text with
  | nil => rfl
  | cons second rest => rw [squeeze, if_neg (apart second rfl)]

theorem squeeze_squeeze (c : Char) (text : Text) : squeeze c (squeeze c text) = squeeze c text := by
  fun_induction squeeze c text with
  | case1 => rfl
  | case2 last => rfl
  | case3 first second rest run ih => exact ih
  | case4 first second rest apart ih =>
      rw [squeeze_cons c first _ ?_, ih]
      intro next head
      rw [head?_squeeze] at head
      cases head
      exact apart

end LogtalkNavigation.Text

namespace LogtalkNavigation.Record

open Text

def forward (c : Char) : Char := if c = '\\' then '/' else c

theorem forward_forward (c : Char) : forward (forward c) = forward c := by
  by_cases back : c = '\\' <;> simp [forward, back]

theorem filled_forward (c : Char) (filled : isBlank c = false) : isBlank (forward c) = false := by
  by_cases back : c = '\\'
  · simp only [forward, back, ↓reduceIte]
    decide +kernel
  · simpa only [forward, back, ↓reduceIte] using filled

theorem tidy_eq (file : Text) : tidy file = squeeze '/' ((trim file).map forward) := rfl

theorem trimmed_tidy (file : Text) : Trimmed (tidy file) := by
  have trimmed := trimmed_trim file
  rw [tidy_eq]
  constructor
  · intro c head
    rw [head?_squeeze, List.head?_map] at head
    obtain ⟨d, first, same⟩ := Option.map_eq_some_iff.mp head
    rw [← same]
    exact filled_forward d (trimmed.1 d first)
  · intro c last
    rw [getLast?_squeeze, List.getLast?_map] at last
    obtain ⟨d, final, same⟩ := Option.map_eq_some_iff.mp last
    rw [← same]
    exact filled_forward d (trimmed.2 d final)

theorem tidy_tidy (file : Text) : tidy (tidy file) = tidy file := by
  have turned : (tidy file).map forward = tidy file := by
    have each : ∀ c ∈ tidy file, forward c = c := by
      intro c inside
      obtain ⟨d, _, same⟩ := List.mem_map.mp (mem_of_mem_squeeze _ _ _ inside)
      rw [← same]
      exact forward_forward d
    rw [List.map_congr_left each, List.map_id']
  rw [tidy_eq (tidy file), trim_of_trimmed _ (trimmed_tidy file), turned, tidy_eq, squeeze_squeeze]

theorem sameFile_tidy_left (left right : Text) : sameFile (tidy left) right = sameFile left right := by
  rw [sameFile, tidy_tidy, sameFile]

theorem sameFile_tidy_right (left right : Text) : sameFile left (tidy right) = sameFile left right := by
  rw [sameFile, tidy_tidy, sameFile]

theorem sameFile_comm (left right : Text) : sameFile left right = sameFile right left :=
  Bool.beq_comm

theorem sameFile_trans {left middle right : Text} (first : sameFile left middle = true)
    (second : sameFile middle right = true) : sameFile left right = true := by
  rw [sameFile, beq_iff_eq] at *
  exact first.trans second

end LogtalkNavigation.Record
