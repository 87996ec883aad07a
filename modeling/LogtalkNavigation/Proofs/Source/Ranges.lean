import LogtalkNavigation.Proofs.Cursor.Words
import LogtalkNavigation.Proofs.Record.Files
import LogtalkNavigation.Proofs.Source.Sites

/-! Ranges that clients take. What is located is a line and a part of it to select, and the part never reaches out of
the line. For a symbol it is the first place of its name, for an entity the name in the directive that opens it. -/

namespace LogtalkNavigation

/-- A range and the part of it to select, both on one line; the part lies within the range. -/
structure Proper (line : Nat) (range selection : Range) : Prop where
  flat : range.start.line = line ∧ range.stop.line = line ∧ selection.start.line = line ∧ selection.stop.line = line
  opens : range.start.character ≤ selection.start.character
  ordered : selection.start.character ≤ selection.stop.character
  closes : selection.stop.character ≤ range.stop.character

namespace Source

open Act Text

theorem proper_of_placed {index : Int} {found : Except Lost Span} {located : Located}
    (within : ∀ span, found = .ok span → span.Within index) (answer : placed index found = .ok located) :
    Proper index.toNat located.range located.selection := by
  cases found with
  | ok span =>
      obtain ⟨_, ordered, inside⟩ := within span rfl
      obtain ⟨line, rfl, _, _, _, _, rfl⟩ := (located_eq_ok_iff span index located).mp answer
      exact ⟨⟨rfl, rfl, rfl, rfl⟩, Nat.zero_le _, ordered, inside⟩
  | error lost =>
      obtain ⟨_, rfl⟩ := (lineStart_eq_ok_iff index located).mp answer
      exact ⟨⟨rfl, rfl, rfl, rfl⟩, Nat.le_refl _, Nat.le_refl _, Nat.le_refl _⟩

theorem proper_of_findSymbol {p : Path} {rows : Option (List Text)} {line : Int} {symbol : Text} {world after : World}
    {located : Located} (ran : findSymbol p rows line symbol world = .ok located after) :
    Proper (line - 1).toNat located.range located.selection := by
  have answer := outcome_of_looks (looks_locatedOr p (line - 1) (symbolSpan rows (line - 1) symbol)) world
  apply proper_of_placed (symbolSpan_within rows (line - 1) symbol)
  rw [← answer]
  exact outcome_of_ran ran

theorem proper_of_findEntity {p : Path} {rows : Option (List Text)} {line : Int} {entity : Text} {world after : World}
    {located : Located} (ran : findEntity p rows line entity world = .ok located after) :
    Proper (line - 1).toNat located.range located.selection := by
  have answer := outcome_of_looks (looks_locatedOr p (line - 1) (entitySpan rows (line - 1) entity)) world
  apply proper_of_placed (entitySpan_within rows (line - 1) entity)
  rw [← answer]
  exact outcome_of_ran ran

def Declares (name text : Text) (offset : Nat) : Prop :=
  ∃ opener ∈ openers, ∃ blanks behind, text = opener.toList ++ '(' :: (blanks ++ (name ++ behind)) ∧
    (∀ c ∈ blanks, isBlank c = true) ∧ (∀ c ∈ behind.head?, isBlank c = true ∨ c ∈ ['(', ',', ')']) ∧
    offset = opener.length + 1 + blanks.length

/-- A directive that opens an entity of a name starts at a column of a row, not inside of a word, and the name has its
place further on. -/
def Opens (name row : Text) (start place : Nat) : Prop :=
  Cursor.Parted (row.take start) ∧ ∃ offset, Declares name (row.drop start) offset ∧ place = start + offset

theorem nameEnds_iff (behind : Text) :
    nameEnds behind = true ↔ ∀ c ∈ behind.head?, isBlank c = true ∨ c ∈ ['(', ',', ')'] := by
  cases behind with
  | nil => simp [nameEnds]
  | cons c rest => simp [nameEnds, or_assoc]

section Directives
variable {name : Text} (filled : ∀ c, name.head? = some c → isBlank c = false) (nonempty : name ≠ [])

theorem declares_of_directiveOffset {text : Text} {offset : Nat} (found : directiveOffset? name text = some offset) :
    Declares name text offset := by
  unfold directiveOffset? at found
  obtain ⟨opener, listed, opened⟩ := List.exists_of_findSome?_eq_some found
  obtain ⟨rest, tagged, named⟩ := Option.bind_eq_some_iff.mp opened
  obtain ⟨behind, spelled, ended⟩ := Option.bind_eq_some_iff.mp named
  split at ended
  case isTrue ends =>
    have whole := (after_eq_some_iff _ _ _).mp tagged
    have argument := (after_eq_some_iff _ _ _).mp spelled
    have divided : rest = rest.takeWhile isBlank ++ (name ++ behind) := by
      rw [← argument, List.takeWhile_append_dropWhile]
    refine ⟨opener, listed, rest.takeWhile isBlank, behind, ?_, ?_, (nameEnds_iff behind).mp ends, ?_⟩
    · rw [whole, ← divided, List.append_assoc]
      rfl
    · exact List.all_eq_true.mp List.all_takeWhile
    · have count := congrArg List.length divided
      cases ended
      rw [whole, argument]
      simp only [List.length_append, List.length_singleton, String.length_toList] at count ⊢
      omega
  case isFalse => cases ended

include filled nonempty

theorem dropWhile_blanks {blanks : Text} (blank : ∀ c ∈ blanks, isBlank c = true) (behind : Text) :
    (blanks ++ (name ++ behind)).dropWhile isBlank = name ++ behind := by
  rw [List.dropWhile_append_of_pos blank]
  apply dropWhile_of_head
  intro c head
  obtain ⟨first, rest, rfl⟩ := List.exists_cons_of_ne_nil nonempty
  exact filled c head

theorem directiveOffset_of_declares {text : Text} {offset : Nat} (declares : Declares name text offset) :
    directiveOffset? name text = some offset := by
  obtain ⟨opener, listed, blanks, behind, rfl, blank, ends, rfl⟩ := declares
  have own : (do
      let rest ← after? (opener.toList ++ ['(']) (opener.toList ++ '(' :: (blanks ++ (name ++ behind)))
      let argument := rest.dropWhile isBlank
      let last ← after? name argument
      if nameEnds last then some ((opener.toList ++ '(' :: (blanks ++ (name ++ behind))).length - argument.length)
      else none) = some (opener.length + 1 + blanks.length) := by
    have tagged := after_append (opener.toList ++ ['(']) (blanks ++ (name ++ behind))
    rw [List.append_assoc, List.singleton_append] at tagged
    simp only [tagged, Option.bind_eq_bind, Option.bind_some, dropWhile_blanks filled nonempty blank behind,
      after_append, (nameEnds_iff behind).mpr ends, if_true, Option.some.injEq, List.length_append, List.length_cons,
      String.length_toList]
    omega
  -- No opener starts like another one, so those that are tried before are not found.
  apply List.findSome?_eq_some_iff.mpr
  simp only [openers, List.mem_cons, List.not_mem_nil, or_false] at listed
  rcases listed with rfl | rfl | rfl
  · exact ⟨[], _, _, rfl, own, by simp⟩
  · refine ⟨["object"], _, _, rfl, own, ?_⟩
    rintro other (_ | ⟨_, ⟨⟩⟩)
    rfl
  · refine ⟨["object", "protocol"], _, _, rfl, own, ?_⟩
    rintro other (_ | ⟨_, _ | ⟨_, ⟨⟩⟩⟩)
    · rfl
    · rfl

omit filled nonempty in
theorem parted_concat (front : Text) (c : Char) : Cursor.Parted (front ++ [c]) ↔ isWord c = false := by
  simp [Cursor.Parted]

def FirstOpened (name row : Text) (column : Nat) : Option Nat → Prop
  | some place => ∃ start, column ≤ start ∧ Opens name row start place ∧
      ∀ earlier, column ≤ earlier → earlier < start → ∀ other, ¬ Opens name row earlier other
  | none => ∀ start, column ≤ start → ∀ place, ¬ Opens name row start place

omit filled nonempty in
theorem FirstOpened.earlier {row : Text} {column : Nat} {result : Option Nat}
    (missing : ∀ place, ¬ Opens name row column place) (first : FirstOpened name row (column + 1) result) :
    FirstOpened name row column result := by
  have further {start place : Nat} (least : column ≤ start) (opens : Opens name row start place) :
      column + 1 ≤ start := by
    rcases Nat.lt_or_eq_of_le least with more | rfl
    · exact more
    · exact absurd opens (missing place)
  cases result with
  | none => exact fun start least place opens => first start (further least opens) place opens
  | some place =>
      obtain ⟨start, ahead, opens, before⟩ := first
      refine ⟨start, Nat.le_of_succ_le ahead, opens, fun earlier least less other opened => ?_⟩
      exact before earlier (further least opened) less other opened

-- The induction is on what is left of the row; `word` tells what the character before it is.
theorem firstOpened_directiveColumnFrom {row text : Text} {word : Bool} {column : Nat}
    (left : row.drop column = text) (inWord : word = false ↔ Cursor.Parted (row.take column)) :
    FirstOpened name row column (directiveColumnFrom name word column text) := by
  induction text generalizing word column with
  | nil =>
      rintro start least place ⟨_, offset, ⟨opener, _, blanks, behind, whole, _⟩, _⟩
      rw [List.drop_of_length_le (Nat.le_trans (List.drop_eq_nil_iff.mp left) least)] at whole
      exact absurd (List.append_eq_nil_iff.mp whole.symm).2 (List.cons_ne_nil _ _)
  | cons c rest ih =>
      unfold directiveColumnFrom
      split
      case h_1 offset here =>
        split at here
        case isTrue => cases here
        case isFalse outside =>
          have declares := declares_of_directiveOffset here
          rw [← left] at declares
          have parted := inWord.mp (Bool.not_eq_true _ ▸ outside)
          exact ⟨column, Nat.le_refl column, ⟨parted, offset, declares, rfl⟩, fun earlier least less => by omega⟩
      case h_2 nothing =>
        have missing : ∀ place, ¬ Opens name row column place := by
          rintro place ⟨parted, offset, declares, _⟩
          rw [left] at declares
          rw [inWord.mpr parted, directiveOffset_of_declares filled nonempty declares] at nothing
          cases nothing
        have inside : column < row.length := by
          have count := congrArg List.length left
          rw [List.length_drop, List.length_cons] at count
          omega
        have next : row.take (column + 1) = row.take column ++ [c] := by
          have char : row[column] = c := by
            have head := List.drop_eq_getElem_cons inside
            rw [left] at head
            exact (List.cons.inj head).1.symm
          rw [List.take_succ_eq_append_getElem inside, char]
        apply FirstOpened.earlier missing
        apply ih
        · rw [← List.tail_drop, left, List.tail_cons]
        · rw [next, parted_concat]

theorem firstOpened_directiveColumn (row : Text) : FirstOpened name row 0 (directiveColumn? name row) :=
  firstOpened_directiveColumnFrom filled nonempty List.drop_zero (by simp [Cursor.Parted])

end Directives

theorem Opens.stands {name row : Text} {start place : Nat} (opens : Opens name row start place) :
    name <+: row.drop place := by
  obtain ⟨_, offset, ⟨opener, _, blanks, behind, whole, _, _, rfl⟩, rfl⟩ := opens
  have front : (opener.toList ++ '(' :: blanks).length = opener.length + 1 + blanks.length := by
    rw [List.length_append, List.length_cons, String.length_toList]
    omega
  have divided : row.drop start = (opener.toList ++ '(' :: blanks) ++ (name ++ behind) := by
    rw [whole]
    simp
  rw [← List.drop_drop, divided, ← front, List.drop_left]
  exact List.prefix_append name behind

def OpenedAt (disk : Disk) (p : Path) (line : Int) (entity row : Text) (place : Nat) : Prop :=
  LineIs disk p line row ∧ entityName entity ≠ [] ∧ ∃ start, Opens (entityName entity) row start place ∧
    ∀ earlier < start, ∀ other, ¬ Opens (entityName entity) row earlier other

def Unopened (disk : Disk) (p : Path) (line : Int) (entity : Text) : Prop :=
  ∀ row, LineIs disk p line row → entityName entity ≠ [] →
    ∀ start place, ¬ Opens (entityName entity) row start place

def fallback (entity : Text) : Text := if (entityName entity).isEmpty then entity else entityName entity

theorem entitySpan_cases (disk : Disk) (p : Path) (line : Int) (entity : Text) :
    (∃ row place, OpenedAt disk p line entity row place ∧ entitySpan (rowsOn disk p) (line - 1) entity =
      .ok ⟨row, place, place + (entityName entity).length⟩) ∨
    Unopened disk p line entity ∧ entitySpan (rowsOn disk p) (line - 1) entity =
      symbolSpan (rowsOn disk p) (line - 1) (fallback entity) := by
  unfold entitySpan
  cases taken : rowAt (rowsOn disk p) (line - 1) with
  | error lost =>
      right
      constructor
      · intro row is
        rw [← rowAt_eq_ok_iff_lineIs, taken] at is
        cases is
      · simp only [symbolSpan, taken, bind, Except.bind]
  | ok row =>
      have is := (rowAt_eq_ok_iff_lineIs disk p line row).mp taken
      dsimp only [bind, Except.bind]
      by_cases empty : entityName entity = []
      · right
        constructor
        · intro _ _ named
          exact absurd empty named
        · rw [if_pos (by simpa using empty)]
          rfl
      · have first : FirstOpened (entityName entity) row 0 (directiveColumn? (entityName entity) row) :=
          firstOpened_directiveColumn (trimmed_trim _).1 empty row
        rw [if_neg (by simpa using empty)]
        cases found : directiveColumn? (entityName entity) row with
        | some place =>
            rw [found] at first
            obtain ⟨start, _, opens, before⟩ := first
            left
            refine ⟨row, place, ⟨is, empty, start, opens, ?_⟩, rfl⟩
            intro earlier less
            exact before earlier (Nat.zero_le earlier) less
        | none =>
            rw [found] at first
            right
            constructor
            · intro other same _ start place
              rw [← rowAt_eq_ok_iff_lineIs, taken] at same
              cases same
              exact first start (Nat.zero_le start) place
            · rfl

theorem locateEntity_cases {world : World} {p : Path} {line : Int} {entity : Text} {located : Located}
    (found : (locateEntity p line entity).outcome world = .ok located) :
    (∃ row place, OpenedAt world.disk p line entity row place ∧ entityName entity <+: row.drop place ∧
      located = spanning line row (entityName entity) place) ∨
    Unopened world.disk p line entity ∧ (locate p line (fallback entity)).outcome world = .ok located := by
  obtain ⟨fine, answer⟩ := (outcome_locateEntity p line entity world located).mp found
  rcases entitySpan_cases world.disk p line entity with ⟨row, place, opened, spanned⟩ | ⟨unopened, spanned⟩
  · rw [spanned] at answer
    obtain ⟨index, same, _, _, _, _, rfl⟩ := (located_eq_ok_iff _ _ _).mp answer
    have counted : index = (line - 1).toNat := by omega
    have ⟨_, _, start, opens, _⟩ := opened
    refine .inl ⟨row, place, opened, opens.stands, ?_⟩
    rw [spanning, counted]
  · rw [spanned] at answer
    exact .inr ⟨unopened, (outcome_locate p line (fallback entity) world located).mpr ⟨fine, answer⟩⟩

theorem proper_of_locate {world : World} {p : Path} {line : Int} {symbol : Text} {located : Located}
    (found : (locate p line symbol).outcome world = .ok located) :
    Proper (line - 1).toNat located.range located.selection :=
  proper_of_placed (symbolSpan_within _ _ _) ((outcome_locate p line symbol world located).mp found).2

theorem proper_of_locateEntity {world : World} {p : Path} {line : Int} {entity : Text} {located : Located}
    (found : (locateEntity p line entity).outcome world = .ok located) :
    Proper (line - 1).toNat located.range located.selection :=
  proper_of_placed (entitySpan_within _ _ _) ((outcome_locateEntity p line entity world located).mp found).2

end Source

namespace Hierarchy

open Act Source

theorem items_of_callsAt {site : CallFact → Path × Int × Text} {known : Known} {records : List CallFact}
    {world after : World} {calls : List Call} (ran : callsAt site known records world = .ok calls after) :
    ∀ call ∈ calls, ∃ record ∈ records, call.item.name = record.name ∧
      Proper (record.line - 1).toNat call.item.range call.item.selection := by
  induction records generalizing known world calls with
  | nil =>
      cases ran
      simp
  | cons record rest ih =>
      obtain ⟨⟨item, known⟩, _, shown, ran⟩ := ran_of_bind ran
      obtain ⟨⟨rows, known⟩, _, _, ran⟩ := ran_of_bind ran
      obtain ⟨sites, _, _, ran⟩ := ran_of_bind ran
      obtain ⟨others, _, further, made⟩ := ran_of_bind ran
      cases made
      obtain ⟨⟨rows, _⟩, _, _, shown⟩ := ran_of_bind shown
      obtain ⟨located, _, found, shown⟩ := ran_of_bind shown
      obtain ⟨uri, _, _, made⟩ := ran_of_bind shown
      cases made
      intro call inside
      rcases List.mem_cons.mp inside with rfl | later
      · exact ⟨record, List.mem_cons_self, rfl, proper_of_findSymbol found⟩
      · obtain ⟨other, listed, proper⟩ := ih further call later
        exact ⟨other, List.mem_cons_of_mem record listed, proper⟩

theorem items_of_entities {known : Known} {records : List EntityFact} {world after : World} {items : List Item}
    (ran : itemsOfEntities known records world = .ok items after) :
    ∀ item ∈ items, ∃ record ∈ records, item.name = record.name ∧
      Proper (record.line - 1).toNat item.range item.selection := by
  induction records generalizing known world items with
  | nil =>
      cases ran
      simp
  | cons record rest ih =>
      obtain ⟨⟨first, known⟩, _, shown, ran⟩ := ran_of_bind ran
      obtain ⟨others, _, further, made⟩ := ran_of_bind ran
      cases made
      obtain ⟨⟨rows, _⟩, _, _, shown⟩ := ran_of_bind shown
      obtain ⟨located, _, found, shown⟩ := ran_of_bind shown
      obtain ⟨kind, _, _, shown⟩ := ran_of_bind shown
      obtain ⟨uri, _, _, made⟩ := ran_of_bind shown
      cases made
      intro item inside
      rcases List.mem_cons.mp inside with rfl | later
      · exact ⟨record, List.mem_cons_self, rfl, proper_of_findEntity found⟩
      · obtain ⟨other, listed, proper⟩ := ih further item later
        exact ⟨other, List.mem_cons_of_mem record listed, proper⟩

/-- Every located range is a line and a part of it. For a symbol the part is the first place of its name. For an
entity it is the name in the first directive that opens an entity of that name, and without such a directive what is
found is what is found for the name as a symbol. Where nothing is found, it is the start of the line. So the items
of callers, callees and entities have parts to select that lie within their ranges. -/
theorem located_ranges_proper (world : World) (p : Path) (line : Int) :
    (∀ symbol located, (locate p line symbol).outcome world = .ok located →
      Proper (line - 1).toNat located.range located.selection ∧
      ((Unfound world.disk p line symbol ∧ located = .atStart (line - 1).toNat) ∨
        ∃ row column, LineIs world.disk p line row ∧ Symbol.bare symbol ≠ [] ∧
          Text.FirstAt (Symbol.bare symbol) row column ∧ located = spanning line row (Symbol.bare symbol) column)) ∧
    (∀ entity located, (locateEntity p line entity).outcome world = .ok located →
      Proper (line - 1).toNat located.range located.selection ∧
      ((∃ row place, OpenedAt world.disk p line entity row place ∧ entityName entity <+: row.drop place ∧
          located = spanning line row (entityName entity) place) ∨
        Unopened world.disk p line entity ∧ (locate p line (fallback entity)).outcome world = .ok located)) ∧
    (∀ records calls, (∃ symbol, (incomingCalls symbol records).outcome world = .ok calls) ∨
        (outgoingCalls p line records).outcome world = .ok calls →
      ∀ call ∈ calls, ∃ record ∈ records, call.item.name = record.name ∧
        Proper (record.line - 1).toNat call.item.range call.item.selection) ∧
    ∀ records items, (typeItems records).outcome world = .ok items →
      ∀ item ∈ items, ∃ record ∈ records, item.name = record.name ∧
        Proper (record.line - 1).toNat item.range item.selection := by
  refine ⟨?_, ?_, ?_, ?_⟩
  · intro symbol located found
    exact ⟨proper_of_locate found, locate_cases found⟩
  · intro entity located found
    exact ⟨proper_of_locateEntity found, locateEntity_cases found⟩
  · intro records calls shown call inside
    have built : ∃ site after, callsAt site [] (Record.latest callKey records) world = .ok calls after := by
      rcases shown with ⟨symbol, shown⟩ | shown
      · exact ⟨_, _, ran_of_outcome shown⟩
      · exact ⟨_, _, ran_of_outcome shown⟩
    obtain ⟨site, after, ran⟩ := built
    obtain ⟨record, kept, proper⟩ := items_of_callsAt ran call inside
    exact ⟨record, mem_of_mem_latest callKey records record kept, proper⟩
  · intro records items shown item inside
    obtain ⟨record, kept, proper⟩ := items_of_entities (ran_of_outcome shown) item inside
    exact ⟨record, mem_of_mem_latest entityKey records record kept, proper⟩

-- The name of an entity stands on a line twice, first behind something that only looks like a directive.
namespace Opening

def world : World := Lone.world "xobject(sq) :- object( sq(S),".toList

def call : CallFact := ⟨"sq/1".toList, "/f".toList, 1⟩

def entity : EntityFact := ⟨"object".toList, "sq(_)".toList, "/f".toList, 1⟩

end Opening

theorem entity_selected_in_directive :
    (locate Lone.file 1 Opening.call.name).outcome Opening.world = .ok ⟨.stretch 0 0 29, .stretch 0 8 10⟩ ∧
    (locateEntity Lone.file 1 Opening.entity.name).outcome Opening.world =
      .ok ⟨.stretch 0 0 29, .stretch 0 23 25⟩ ∧
    Proper 0 (.stretch 0 0 29) (.stretch 0 23 25) ∧
    (∃ first rest, (incomingCalls Opening.call.name [Opening.call]).outcome Opening.world = .ok (first :: rest) ∧
      Proper 0 first.item.range first.item.selection) ∧
    ∃ first rest, (typeItems [Opening.entity]).outcome Opening.world = .ok (first :: rest) ∧
      Proper 0 first.range first.selection := by
  obtain ⟨_, entities, calls, types⟩ := located_ranges_proper Opening.world Lone.file 1
  have found : (locateEntity Lone.file 1 Opening.entity.name).outcome Opening.world =
      .ok ⟨.stretch 0 0 29, .stretch 0 23 25⟩ := rfl
  have incoming : ∃ first rest, (incomingCalls Opening.call.name [Opening.call]).outcome Opening.world =
      .ok (first :: rest) := ⟨_, _, rfl⟩
  have typed : ∃ first rest, (typeItems [Opening.entity]).outcome Opening.world = .ok (first :: rest) := ⟨_, _, rfl⟩
  refine ⟨rfl, found, (entities _ _ found).1, ?_, ?_⟩
  · obtain ⟨first, rest, shown⟩ := incoming
    obtain ⟨record, listed, _, proper⟩ := calls _ _ (.inl ⟨_, shown⟩) first List.mem_cons_self
    cases List.mem_singleton.mp listed
    exact ⟨first, rest, shown, proper⟩
  · obtain ⟨first, rest, shown⟩ := typed
    obtain ⟨record, listed, _, proper⟩ := types _ _ shown first List.mem_cons_self
    cases List.mem_singleton.mp listed
    exact ⟨first, rest, shown, proper⟩

end Hierarchy

end LogtalkNavigation
