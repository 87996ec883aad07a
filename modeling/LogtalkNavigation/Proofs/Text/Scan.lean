import LogtalkNavigation.Text.Scan

/-! What the scans for fields find. A scan divides a text into a field and a rest that its follower
accepts. `shortest` takes the first such division from the left and `longest` the last one, as far as no
line feed stands in between; both are characterised by their divisions, so that nothing below has to
unfold them again. Tags start with a semicolon and have no other, so a tag that begins inside a field
never reaches over the tag behind it. -/

namespace LogtalkNavigation.Text

theorem after_eq_some_iff (tag text rest : Text) :
    after? tag text = some rest ↔ text = tag ++ rest := by
  induction tag generalizing text with
  | nil => simp [after?]
  | cons want tag ih =>
      cases text with
      | nil => simp [after?]
      | cons c text =>
          by_cases same : want = c
          · subst same
            simp [after?, ih]
          · simp [after?, same, Ne.symm same]

theorem after_append (tag rest : Text) : after? tag (tag ++ rest) = some rest :=
  (after_eq_some_iff tag _ rest).mpr rfl

theorem afterLast?_append (tag front : Text) {back rest : Text} (found : afterLast? tag back = some rest) :
    afterLast? tag (front ++ back) = some rest := by
  induction front with
  | nil => exact found
  | cons c front ih =>
      rw [List.cons_append, afterLast?, ih]
      rfl

theorem after?_of_notMem {c : Char} (tag : Text) {text : Text} (absent : c ∉ text) : after? (c :: tag) text = none := by
  cases text with
  | nil => rfl
  | cons d rest => exact if_neg fun same => absent (List.mem_cons.mpr (.inl same))

theorem afterLast?_of_notMem {c : Char} (tag : Text) {text : Text} (absent : c ∉ text) :
    afterLast? (c :: tag) text = none := by
  induction text with
  | nil => rfl
  | cons d rest ih =>
      rw [afterLast?, ih (List.not_mem_of_not_mem_cons absent), after?_of_notMem tag absent]
      rfl

section Divisions
variable {α : Type}

/-- A division at which the follower accepts, and before which it accepts nowhere. -/
theorem shortest_of_first (follower : Text → Option α) (field rest : Text) (found : α)
    (clean : '\n' ∉ field) (accepted : follower rest = some found)
    (first : ∀ part, part <:+ field → part ≠ [] → follower (part ++ rest) = none) :
    shortest follower (field ++ rest) = some (field, found) := by
  induction field with
  | nil =>
      cases rest with
      | nil => simp [shortest, accepted]
      | cons c rest => simp [shortest, accepted]
  | cons c field ih =>
      have refused : follower (c :: (field ++ rest)) = none :=
        first (c :: field) List.suffix_rfl (by simp)
      have feedless : c ≠ '\n' := fun same => clean (by simp [same])
      have tail := ih (fun inside => clean (List.mem_cons_of_mem c inside))
        (fun part ends => first part (ends.trans (List.suffix_cons c field)))
      simp [shortest, refused, feedless, tail]

theorem shortest_divides (follower : Text → Option α) (text field : Text) (found : α)
    (scanned : shortest follower text = some (field, found)) :
    ∃ rest, text = field ++ rest ∧ '\n' ∉ field ∧ follower rest = some found := by
  induction text generalizing field with
  | nil =>
      obtain ⟨value, accepted, same⟩ := Option.map_eq_some_iff.mp scanned
      cases same
      exact ⟨[], rfl, by simp, accepted⟩
  | cons c text ih =>
      rw [shortest] at scanned
      split at scanned
      · rename_i value accepted
        cases scanned
        exact ⟨c :: text, rfl, by simp, accepted⟩
      · split at scanned
        · cases scanned
        · rename_i feedless
          obtain ⟨⟨tail, value⟩, further, same⟩ := Option.map_eq_some_iff.mp scanned
          cases same
          obtain ⟨rest, split, clean, accepted⟩ := ih tail further
          refine ⟨rest, by simp [split], ?_, accepted⟩
          simp [clean, Ne.symm feedless]

theorem shortest_of_no_end (follower : Text → Option α) (text : Text)
    (refused : ∀ part, part <:+ text → follower part = none) : shortest follower text = none := by
  cases scanned : shortest follower text with
  | none => rfl
  | some division =>
      obtain ⟨rest, split, _, accepted⟩ := shortest_divides follower text division.1 division.2 scanned
      rw [refused rest ⟨division.1, split.symm⟩] at accepted
      cases accepted

/-- The non-empty field that the shortest scan finds. -/
theorem shortestSome_of_first (follower : Text → Option α) (field rest : Text) (found : α)
    (filled : field ≠ []) (clean : '\n' ∉ field) (accepted : follower rest = some found)
    (first : ∀ part, part <:+ field → part ≠ [] → follower (part ++ rest) = none) :
    shortestSome follower (field ++ rest) = some (field, found) := by
  cases field with
  | nil => exact absurd rfl filled
  | cons c field =>
      have feedless : c ≠ '\n' := fun same => clean (by simp [same])
      have tail := shortest_of_first follower field rest found
        (fun inside => clean (List.mem_cons_of_mem c inside)) accepted
        (fun part ends => first part (ends.trans (List.suffix_cons c field)))
      simp [shortestSome, feedless, tail]

theorem shortestSome_of_no_end (follower : Text → Option α) (text : Text)
    (refused : ∀ part, part <:+ text → follower part = none) : shortestSome follower text = none := by
  cases text with
  | nil => rfl
  | cons c text =>
      have tail := shortest_of_no_end follower text
        (fun part ends => refused part (ends.trans (List.suffix_cons c text)))
      simp [shortestSome, tail]

theorem longest_of_no_end (follower : Text → Option α) (text : Text)
    (refused : ∀ part, part <:+ text → follower part = none) : longest follower text = none := by
  induction text with
  | nil => simp [longest, refused [] List.suffix_rfl]
  | cons c text ih =>
      have tail := ih (fun part ends => refused part (ends.trans (List.suffix_cons c text)))
      simp [longest, tail, refused (c :: text) List.suffix_rfl]

/-- A division at which the follower accepts, and behind which it accepts nowhere. -/
theorem longest_of_last (follower : Text → Option α) (field rest : Text) (c : Char) (found : α)
    (clean : '\n' ∉ field) (accepted : follower (c :: rest) = some found)
    (last : ∀ part, part <:+ rest → follower part = none) :
    longest follower (field ++ c :: rest) = some (field, found) := by
  induction field with
  | nil => simp [longest, longest_of_no_end follower rest last, accepted]
  | cons d field ih =>
      have feedless : d ≠ '\n' := fun same => clean (by simp [same])
      have tail := ih (fun inside => clean (List.mem_cons_of_mem d inside))
      simp [longest, feedless, tail]

theorem longest_divides (follower : Text → Option α) (text field : Text) (found : α)
    (scanned : longest follower text = some (field, found)) :
    ∃ rest, text = field ++ rest ∧ '\n' ∉ field ∧ follower rest = some found := by
  induction text generalizing field with
  | nil =>
      obtain ⟨value, accepted, same⟩ := Option.map_eq_some_iff.mp scanned
      cases same
      exact ⟨[], rfl, by simp, accepted⟩
  | cons c text ih =>
      rw [longest] at scanned
      split at scanned
      · rename_i tail value further
        cases scanned
        split at further
        · cases further
        · rename_i feedless
          obtain ⟨rest, split, clean, accepted⟩ := ih tail further
          refine ⟨rest, by simp [split], ?_, accepted⟩
          simp [clean, Ne.symm feedless]
      · obtain ⟨value, accepted, same⟩ := Option.map_eq_some_iff.mp scanned
        cases same
        exact ⟨c :: text, rfl, by simp, accepted⟩

/-- The non-empty field that the longest scan finds. -/
theorem longestSome_of_last (follower : Text → Option α) (field rest : Text) (c : Char) (found : α)
    (filled : field ≠ []) (clean : '\n' ∉ field) (accepted : follower (c :: rest) = some found)
    (last : ∀ part, part <:+ rest → follower part = none) :
    longestSome follower (field ++ c :: rest) = some (field, found) := by
  cases field with
  | nil => exact absurd rfl filled
  | cons d field =>
      have feedless : d ≠ '\n' := fun same => clean (by simp [same])
      have tail := longest_of_last follower field rest c found
        (fun inside => clean (List.mem_cons_of_mem d inside)) accepted last
      simp [longestSome, feedless, tail]

theorem longestSome_divides (follower : Text → Option α) (text field : Text) (found : α)
    (scanned : longestSome follower text = some (field, found)) :
    ∃ rest, text = field ++ rest ∧ field ≠ [] ∧ '\n' ∉ field ∧ follower rest = some found := by
  cases text with
  | nil => cases scanned
  | cons c text =>
      rw [longestSome] at scanned
      split at scanned
      · cases scanned
      · rename_i feedless
        obtain ⟨⟨tail, value⟩, further, same⟩ := Option.map_eq_some_iff.mp scanned
        cases same
        obtain ⟨rest, split, clean, accepted⟩ := longest_divides follower text tail found further
        refine ⟨rest, by simp [split], by simp, ?_, accepted⟩
        simp [clean, Ne.symm feedless]

end Divisions

-- A tag is a semicolon and a word. `Untagged` says that a tag begins nowhere in a text; it is shown field by
-- field, from the end of the text to its front.
section Tags

def Untagged (word text : Text) : Prop := ∀ part, part <:+ text → after? (';' :: word) part = none

theorem after_suffix (tag text rest : Text) (tagged : after? tag text = some rest) : rest <:+ text :=
  ⟨tag, ((after_eq_some_iff tag text rest).mp tagged).symm⟩

theorem untagged_of_suffix (word text part : Text) (untagged : Untagged word text)
    (ends : part <:+ text) : Untagged word part :=
  fun later further => untagged later (further.trans ends)

theorem untagged_of_plain (word front back : Text) (plain : ';' ∉ front)
    (behind : Untagged word back) : Untagged word (front ++ back) := by
  induction front with
  | nil => exact behind
  | cons c front ih =>
      intro part ends
      rcases List.suffix_cons_iff.mp ends with whole | further
      · have other : ';' ≠ c := fun same => plain (same ▸ List.mem_cons_self)
        simp [whole, after?, other]
      · exact ih (fun inside => plain (List.mem_cons_of_mem c inside)) part further

theorem untagged_nil (word : Text) : Untagged word [] := by
  intro part ends
  rw [List.suffix_nil.mp ends]
  rfl

theorem untagged_of_no_semicolon (word text : Text) (plain : ';' ∉ text) : Untagged word text := by
  simpa using untagged_of_plain word text [] plain (untagged_nil word)

/-- Behind another tag there is no tag if there is none behind its semicolon. -/
theorem untagged_cons (word back : Text) (other : after? (';' :: word) (';' :: back) = none)
    (behind : Untagged word back) : Untagged word (';' :: back) := by
  intro part ends
  rcases List.suffix_cons_iff.mp ends with whole | further
  · rw [whole]
    exact other
  · exact behind part further

/-- A word that starts a text ends before the first character that it does not have. -/
theorem word_ends_before (word rest front back : Text)
    (stop : ∀ c, back.head? = some c → c ∉ word) (split : front ++ back = word ++ rest) :
    word <+: front := by
  rcases List.append_eq_append_iff.mp split with ⟨more, atWord, atBack⟩ | ⟨more, atFront, atRest⟩
  · cases more with
    | nil => exact ⟨[], by simpa using atWord⟩
    | cons c more => exact absurd (by simp [atWord]) (stop c (by simp [atBack]))
  · exact ⟨more, atFront.symm⟩

/-- In a field without a tag none begins, if it cannot go on in what follows the field. -/
theorem no_tag_inside (word field back : Text) (stop : ∀ c, back.head? = some c → c ∉ word)
    (free : ¬ (';' :: word) <:+: field) :
    ∀ part, part <:+ field → part ≠ [] → after? (';' :: word) (part ++ back) = none := by
  intro part ends filled
  cases tagged : after? (';' :: word) (part ++ back) with
  | none => rfl
  | some rest =>
      cases part with
      | nil => exact absurd rfl filled
      | cons c part =>
          obtain ⟨atHead, atTail⟩ := List.cons.inj ((after_eq_some_iff _ _ _).mp tagged)
          have inPart : word <+: part := word_ends_before word rest part back stop atTail
          have inField : (';' :: word) <:+: field :=
            (List.prefix_cons_iff.mpr (.inr ⟨word, by rw [atHead], inPart⟩)).isInfix.trans ends.isInfix
          exact absurd inField free

/-- The parts of a field with something behind it begin in the field or behind it. -/
theorem suffix_append_cases (field back part : Text) (ends : part <:+ field ++ back) :
    part <:+ back ∨ ∃ inside, inside <:+ field ∧ inside ≠ [] ∧ part = inside ++ back := by
  induction field with
  | nil => exact .inl ends
  | cons c field ih =>
      rcases List.suffix_cons_iff.mp ends with whole | further
      · exact .inr ⟨c :: field, List.suffix_rfl, by simp, whole⟩
      · rcases ih further with behind | ⟨inside, within, filled, same⟩
        · exact .inl behind
        · exact .inr ⟨inside, within.trans (List.suffix_cons c field), filled, same⟩

theorem untagged_of_field (word field back : Text) (stop : ∀ c, back.head? = some c → c ∉ word)
    (free : ¬ (';' :: word) <:+: field) (behind : Untagged word back) :
    Untagged word (field ++ back) := by
  intro part ends
  rcases suffix_append_cases field back part ends with further | ⟨inside, within, filled, rfl⟩
  · exact behind part further
  · exact no_tag_inside word field back stop free inside within filled

end Tags

end LogtalkNavigation.Text
