import LogtalkNavigation.Proofs.Text.Scan

/-! Readers of texts that can be divided in several ways. A parse of a text has free fields, from left to right, and
the parses of a text are ordered by the lengths of these fields, the first field first. `Finds` says of a reader
that it yields the first of all parses, and nothing only if there is none. A reader that searches for the shortest
field in front of what another reader finds has this property if the other one has it; so a line with several free
fields is searched by one step per field, and no step has to know what the steps behind it are looking for. -/

namespace LogtalkNavigation.Text

variable {α β : Type}

section Shortest
variable {follower : Text → Option α}

theorem shortest_le (other rest field : Text) (found : α) (accepted : (follower rest).isSome)
    (scanned : shortest follower (other ++ rest) = some (field, found)) : field.length ≤ other.length := by
  induction other generalizing field with
  | nil =>
      obtain ⟨value, here⟩ := Option.isSome_iff_exists.mp accepted
      cases rest <;> simp [shortest, here] at scanned <;> simp [scanned.1]
  | cons c other ih =>
      rw [List.cons_append, shortest] at scanned
      split at scanned
      case h_1 => cases scanned; simp
      case h_2 =>
        split at scanned
        case isTrue => cases scanned
        case isFalse =>
          obtain ⟨⟨tail, value⟩, further, same⟩ := Option.map_eq_some_iff.mp scanned
          cases same
          exact Nat.succ_le_succ (ih tail further)

theorem shortest_isSome (other rest : Text) (clean : '\n' ∉ other) (accepted : (follower rest).isSome) :
    (shortest follower (other ++ rest)).isSome := by
  induction other with
  | nil =>
      obtain ⟨value, here⟩ := Option.isSome_iff_exists.mp accepted
      cases rest <;> simp [shortest, here]
  | cons c other ih =>
      have feedless : c ≠ '\n' := fun same => clean (by simp [same])
      have tail := ih fun inside => clean (List.mem_cons_of_mem c inside)
      rw [List.cons_append, shortest]
      split
      · rfl
      · rw [if_neg feedless, Option.isSome_map]
        exact tail

theorem shortestSome_divides (text field : Text) (found : α)
    (scanned : shortestSome follower text = some (field, found)) :
    ∃ rest, text = field ++ rest ∧ field ≠ [] ∧ follower rest = some found := by
  cases text with
  | nil => cases scanned
  | cons c text =>
      rw [shortestSome] at scanned
      split at scanned
      case isTrue => cases scanned
      case isFalse =>
        obtain ⟨⟨tail, value⟩, further, same⟩ := Option.map_eq_some_iff.mp scanned
        cases same
        obtain ⟨rest, split, _, accepted⟩ := shortest_divides follower text tail found further
        exact ⟨rest, by simp [split], by simp, accepted⟩

theorem shortestSome_le (other rest field : Text) (found : α) (filled : other ≠ [])
    (accepted : (follower rest).isSome)
    (scanned : shortestSome follower (other ++ rest) = some (field, found)) : field.length ≤ other.length := by
  cases other with
  | nil => exact absurd rfl filled
  | cons c other =>
      rw [List.cons_append, shortestSome] at scanned
      split at scanned
      case isTrue => cases scanned
      case isFalse =>
        obtain ⟨⟨tail, value⟩, further, same⟩ := Option.map_eq_some_iff.mp scanned
        cases same
        exact Nat.succ_le_succ (shortest_le other rest tail found accepted further)

theorem shortestSome_isSome (other rest : Text) (filled : other ≠ []) (clean : '\n' ∉ other)
    (accepted : (follower rest).isSome) : (shortestSome follower (other ++ rest)).isSome := by
  cases other with
  | nil => exact absurd rfl filled
  | cons c other =>
      have feedless : c ≠ '\n' := fun same => clean (by simp [same])
      rw [List.cons_append, shortestSome, if_neg feedless, Option.isSome_map]
      exact shortest_isSome other rest (fun inside => clean (List.mem_cons_of_mem c inside)) accepted

end Shortest

def NoLater : List Nat → List Nat → Prop
  | [], _ => True
  | _ :: _, [] => False
  | one :: sizes, other :: others => one < other ∨ one = other ∧ NoLater sizes others

theorem NoLater.refl (sizes : List Nat) : NoLater sizes sizes := by
  induction sizes with
  | nil => trivial
  | cons size sizes ih => exact .inr ⟨rfl, ih⟩

theorem NoLater.antisymm {sizes others : List Nat} (one : NoLater sizes others) (other : NoLater others sizes) :
    sizes = others := by
  induction sizes generalizing others with
  | nil => cases others <;> first | rfl | exact other.elim
  | cons size sizes ih =>
      cases others with
      | nil => exact one.elim
      | cons second others =>
          rcases one with less | ⟨rfl, further⟩
          · rcases other with more | ⟨same, _⟩ <;> omega
          · rcases other with more | ⟨_, back⟩
            · omega
            · rw [ih further back]

theorem noLater_single (one other : Nat) : NoLater [one] [other] ↔ one ≤ other := by
  simp only [NoLater, and_true]
  omega

/-- The reader yields the first parse of a line in the order of sizes, and yields one if there is any. Two parses of
one line have different sizes. -/
structure Finds (reader : Text → Option α) (Parse : Text → α → Prop) (sizes : α → List Nat) : Prop where
  parsed : ∀ text found, '\n' ∉ text → reader text = some found → Parse text found
  first : ∀ text found other, '\n' ∉ text → reader text = some found → Parse text other →
    NoLater (sizes found) (sizes other)
  complete : ∀ text found, '\n' ∉ text → Parse text found → (reader text).isSome
  apart : ∀ text one other, '\n' ∉ text → Parse text one → Parse text other → sizes one = sizes other → one = other

theorem clean_of_suffix {part text : Text} (ends : part <:+ text) (clean : '\n' ∉ text) : '\n' ∉ part :=
  fun inside => clean (ends.subset inside)

section Finds
variable {reader : Text → Option α} {Parse : Text → α → Prop} {sizes : α → List Nat} {text : Text}

theorem Finds.eq_some_iff (finds : Finds reader Parse sizes) (clean : '\n' ∉ text) (found : α) :
    reader text = some found ↔ Parse text found ∧ ∀ other, Parse text other → NoLater (sizes found) (sizes other) := by
  constructor
  · intro read
    exact ⟨finds.parsed text found clean read, fun other parse => finds.first text found other clean read parse⟩
  · rintro ⟨parse, least⟩
    obtain ⟨value, read⟩ := Option.isSome_iff_exists.mp (finds.complete text found clean parse)
    have other := finds.parsed text value clean read
    have same := NoLater.antisymm (finds.first text value found clean read parse) (least value other)
    rw [read, finds.apart text value found clean other parse same]

theorem Finds.eq_none_iff (finds : Finds reader Parse sizes) (clean : '\n' ∉ text) :
    reader text = none ↔ ∀ found, ¬ Parse text found := by
  constructor
  · intro unread found parse
    have some := finds.complete text found clean parse
    rw [unread] at some
    cases some
  · intro none
    cases read : reader text with
    | none => rfl
    | some found => exact absurd (finds.parsed text found clean read) (none found)

-- A reader of texts that have at most one parse, so that all parses may be given one size.
theorem finds_of_iff (exact_ : ∀ text found, '\n' ∉ text → (reader text = some found ↔ Parse text found))
    (size : List Nat) : Finds reader Parse fun _ => size where
  parsed text found clean := (exact_ text found clean).mp
  first _ _ _ _ _ _ := NoLater.refl size
  complete text found clean parse := by rw [(exact_ text found clean).mpr parse]; rfl
  apart text one other clean first second _ := by
    have read := (exact_ text one clean).mpr first
    rw [(exact_ text other clean).mpr second] at read
    exact (Option.some.inj read).symm

theorem Finds.congr {Other : Text → α → Prop} (finds : Finds reader Parse sizes)
    (same : ∀ text found, Parse text found ↔ Other text found) : Finds reader Other sizes := by
  have equal : Parse = Other := funext fun text => funext fun found => propext (same text found)
  rw [← equal]
  exact finds

theorem Finds.ranked (finds : Finds reader Parse sizes) (rank : Nat) :
    Finds reader Parse fun found => rank :: sizes found where
  parsed := finds.parsed
  first text found other clean read parse :=
    .inr ⟨rfl, finds.first text found other clean read parse⟩
  complete := finds.complete
  apart text one other clean first second same :=
    finds.apart text one other clean first second (List.cons.inj same).2

theorem Finds.map (finds : Finds reader Parse sizes) (make : α → β) (lengths : β → List Nat)
    (kept : ∀ found, lengths (make found) = sizes found) :
    Finds (fun text => (reader text).map make) (fun text value => ∃ found, Parse text found ∧ make found = value)
      lengths where
  parsed text value clean read := by
    obtain ⟨found, here, same⟩ := Option.map_eq_some_iff.mp read
    exact ⟨found, finds.parsed text found clean here, same⟩
  first text value other clean read parse := by
    obtain ⟨found, here, rfl⟩ := Option.map_eq_some_iff.mp read
    obtain ⟨second, parsed, rfl⟩ := parse
    rw [kept, kept]
    exact finds.first text found second clean here parsed
  complete text value clean parse := by
    obtain ⟨found, parsed, _⟩ := parse
    rw [Option.isSome_map]
    exact finds.complete text found clean parsed
  apart text one other clean := by
    rintro ⟨first, here, rfl⟩ ⟨second, there, rfl⟩ same
    rw [kept, kept] at same
    rw [finds.apart text first second clean here there same]

/-- What stands in front, such as a tag, is taken off. -/
theorem Finds.behind (finds : Finds reader Parse sizes) (cut : Text → Option Text)
    (suffix : ∀ text rest, cut text = some rest → rest <:+ text) :
    Finds (fun text => (cut text).bind reader) (fun text found => ∃ rest, cut text = some rest ∧ Parse rest found)
      sizes where
  parsed text found clean read := by
    obtain ⟨rest, taken, here⟩ := Option.bind_eq_some_iff.mp read
    exact ⟨rest, taken, finds.parsed rest found (clean_of_suffix (suffix text rest taken) clean) here⟩
  first text found other clean read parse := by
    obtain ⟨rest, taken, parsed⟩ := parse
    rw [taken] at read
    exact finds.first rest found other (clean_of_suffix (suffix text rest taken) clean) read parsed
  complete text found clean parse := by
    obtain ⟨rest, taken, parsed⟩ := parse
    rw [taken]
    exact finds.complete rest found (clean_of_suffix (suffix text rest taken) clean) parsed
  apart text one other clean := by
    rintro ⟨rest, taken, first⟩ ⟨back, again, second⟩ same
    rw [taken] at again
    obtain rfl := Option.some.inj again
    exact finds.apart rest one other (clean_of_suffix (suffix text rest taken) clean) first second same

/-- A field whose end does not depend on what follows is taken off and kept. -/
theorem Finds.beside (finds : Finds reader Parse sizes) (cut : Text → Option (Text × Text))
    (suffix : ∀ text field rest, cut text = some (field, rest) → rest <:+ text) :
    Finds (fun text => (cut text).bind fun taken => (reader taken.2).map (taken.1, ·))
      (fun text found => ∃ rest, cut text = some (found.1, rest) ∧ Parse rest found.2) fun found => sizes found.2 where
  parsed text found clean read := by
    obtain ⟨⟨field, rest⟩, taken, mapped⟩ := Option.bind_eq_some_iff.mp read
    obtain ⟨value, here, rfl⟩ := Option.map_eq_some_iff.mp mapped
    exact ⟨rest, taken, finds.parsed rest value (clean_of_suffix (suffix text field rest taken) clean) here⟩
  first text found other clean read parse := by
    obtain ⟨rest, taken, parsed⟩ := parse
    simp only [taken, Option.bind_some] at read
    obtain ⟨value, here, rfl⟩ := Option.map_eq_some_iff.mp read
    exact finds.first rest value other.2 (clean_of_suffix (suffix text other.1 rest taken) clean) here parsed
  complete text found clean parse := by
    obtain ⟨rest, taken, parsed⟩ := parse
    simp only [taken, Option.bind_some, Option.isSome_map]
    exact finds.complete rest found.2 (clean_of_suffix (suffix text found.1 rest taken) clean) parsed
  apart text one other clean := by
    rintro ⟨rest, taken, first⟩ ⟨back, again, second⟩ same
    rw [taken] at again
    obtain ⟨sameField, sameRest⟩ := Prod.mk.inj (Option.some.inj again)
    rw [← sameRest] at second
    have restClean := clean_of_suffix (suffix text one.1 rest taken) clean
    exact Prod.ext sameField (finds.apart rest one.2 other.2 restClean first second same)

/-- One of several readers, of which no two find something in one text. -/
theorem finds_oneOf {ι : Type} {readers : ι → Text → Option α} {Parses : ι → Text → α → Prop} (keys : List ι)
    (every : ∀ key ∈ keys, Finds (readers key) (Parses key) sizes)
    (exclusive : ∀ key ∈ keys, ∀ other ∈ keys, ∀ text one two, Parses key text one → Parses other text two →
      key = other) :
    Finds (fun text => keys.findSome? (readers · text)) (fun text found => ∃ key ∈ keys, Parses key text found)
      sizes where
  parsed text found clean read := by
    obtain ⟨key, among, here⟩ := List.exists_of_findSome?_eq_some read
    exact ⟨key, among, (every key among).parsed text found clean here⟩
  first text found other clean read parse := by
    obtain ⟨key, among, here⟩ := List.exists_of_findSome?_eq_some read
    obtain ⟨second, inside, parsed⟩ := parse
    obtain rfl := exclusive key among second inside text found other
      ((every key among).parsed text found clean here) parsed
    exact (every key among).first text found other clean here parsed
  complete text found clean parse := by
    obtain ⟨key, among, parsed⟩ := parse
    exact List.findSome?_isSome_iff.mpr ⟨key, among, (every key among).complete text found clean parsed⟩
  apart text one other clean := by
    rintro ⟨key, among, first⟩ ⟨second, inside, parsed⟩ same
    obtain rfl := exclusive key among second inside text one other first parsed
    exact (every key among).apart text one other clean first parsed same

/-- The second reader stands in where the first finds nothing, so its parses come behind all others. -/
theorem Finds.orElse {second : Text → Option α} {Other : Text → α → Prop} (finds : Finds reader Parse sizes)
    (also : Finds second Other sizes)
    (before : ∀ text one other, Parse text one → Other text other →
      NoLater (sizes one) (sizes other) ∧ sizes one ≠ sizes other) :
    Finds (fun text => (reader text).or (second text)) (fun text found => Parse text found ∨ Other text found)
      sizes where
  parsed text found clean read := by
    rcases Option.or_eq_some_iff.mp read with here | ⟨_, there⟩
    · exact .inl (finds.parsed text found clean here)
    · exact .inr (also.parsed text found clean there)
  first text found other clean read parse := by
    rcases Option.or_eq_some_iff.mp read with here | ⟨unread, there⟩
    · have parsed := finds.parsed text found clean here
      rcases parse with first | second
      · exact finds.first text found other clean here first
      · exact (before text found other parsed second).1
    · rcases parse with first | second
      · exact absurd first ((finds.eq_none_iff clean).mp unread other)
      · exact also.first text found other clean there second
  complete text found clean parse := by
    rcases parse with first | second
    · simp [finds.complete text found clean first]
    · simp [also.complete text found clean second]
  apart text one other clean := by
    rintro (first | first) (second | second) same
    · exact finds.apart text one other clean first second same
    · exact absurd same (before text one other first second).2
    · exact absurd same.symm (before text other one second first).2
    · exact also.apart text one other clean first second same

/-- The search for the shortest field in front goes by its length first. -/
theorem Finds.shortestSome (finds : Finds reader Parse sizes) :
    Finds (shortestSome reader)
      (fun text found => ∃ rest, text = found.1 ++ rest ∧ found.1 ≠ [] ∧ Parse rest found.2)
      fun found => found.1.length :: sizes found.2 where
  parsed text found clean read := by
    obtain ⟨rest, split, filled, accepted⟩ := shortestSome_divides text found.1 found.2 read
    exact ⟨rest, split, filled, finds.parsed rest found.2 (clean_of_suffix ⟨found.1, split.symm⟩ clean) accepted⟩
  first text found other clean read parse := by
    obtain ⟨back, split, filled, parsed⟩ := parse
    have restClean := clean_of_suffix ⟨other.1, split.symm⟩ clean
    have accepted := finds.complete back other.2 restClean parsed
    have short : found.1.length ≤ other.1.length :=
      shortestSome_le other.1 back found.1 found.2 filled accepted (split ▸ read)
    rcases Nat.lt_or_eq_of_le short with less | same
    · exact .inl less
    · -- Fields of one length are the same field, and then the follower has decided.
      obtain ⟨rest, divided, _, here⟩ := shortestSome_divides text found.1 found.2 read
      obtain ⟨_, sameRest⟩ := List.append_inj (divided.symm.trans split) same
      rw [sameRest] at here
      exact .inr ⟨same, finds.first back found.2 other.2 restClean here parsed⟩
  complete text found clean parse := by
    obtain ⟨rest, rfl, filled, parsed⟩ := parse
    have accepted := finds.complete rest found.2 (clean_of_suffix ⟨found.1, rfl⟩ clean) parsed
    exact shortestSome_isSome found.1 rest filled (fun inside => clean (List.mem_append_left _ inside)) accepted
  apart text one other clean := by
    rintro ⟨rest, split, _, first⟩ ⟨back, divided, _, second⟩ same
    obtain ⟨length, sizesSame⟩ := List.cons.inj same
    obtain ⟨sameField, rfl⟩ := List.append_inj (split.symm.trans divided) length
    have restClean := clean_of_suffix ⟨one.1, split.symm⟩ clean
    exact Prod.ext sameField (finds.apart rest one.2 other.2 restClean first second sizesSame)

end Finds

end LogtalkNavigation.Text
