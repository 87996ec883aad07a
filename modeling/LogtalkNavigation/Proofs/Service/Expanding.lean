import LogtalkNavigation.Proofs.Path.Uri
import LogtalkNavigation.Proofs.Position
import LogtalkNavigation.Proofs.Record.Fitness
import LogtalkNavigation.Service.Handlers

/-! Expanding a hierarchy of calls. The item that is shown for a caller or callee goes back to the service when
the client opens it, and what the engine is then asked is about just the fact that the item was made of: its
name, its file and its line, however well the item could be placed in the source. -/

namespace LogtalkNavigation

namespace Source

-- A range that is found and the start of the line that stands in for one begin on the same line.
theorem line_of_locatedOr {p : Path} {index : Int} {found : Except Lost Span} {world later : World}
    {located : Located} (counted : 0 ≤ index) (placed : locatedOr p index found world = .ok located later) :
    (located.range.start.line : Int) = index := by
  cases found with
  | ok span =>
      obtain ⟨whole, began, rest⟩ := ok_of_bind (Act.ok_of_ofExcept placed)
      obtain ⟨part, _, made⟩ := ok_of_bind rest
      cases made
      obtain ⟨line, rfl, _, _, _, rfl⟩ := (onLine_eq_ok_iff index 0 span.row.length whole).mp began
      rfl
  | error lost =>
      obtain ⟨_, noted, _, started⟩ := Act.ran_of_bind placed
      obtain ⟨_, rfl⟩ := (lineStart_eq_ok_iff index located).mp (Act.ok_of_ofExcept started)
      exact Int.toNat_of_nonneg counted

end Source

namespace Hierarchy

open Act

theorem item_of_call {known later : Source.Known} {record : CallFact} {world last : World} {item : Item}
    (absolute : (Path.ofText record.file).isAbsolute = true) (positive : 1 ≤ record.line)
    (shown : itemOfCall known record world = .ok (item, later) last) :
    item.name = record.name ∧ item.uri = (Path.ofText record.file).uri ∧
      (item.range.start.line : Int) = record.line - 1 := by
  obtain ⟨⟨rows, found⟩, _, _, shown⟩ := ran_of_bind shown
  obtain ⟨located, _, placed, shown⟩ := ran_of_bind shown
  obtain ⟨uri, _, named, made⟩ := ran_of_bind shown
  cases made
  have written := ok_of_ofExcept named
  rw [Disk.uriOf, if_pos absolute] at written
  cases written
  exact ⟨rfl, rfl, Source.line_of_locatedOr (by omega) placed⟩

end Hierarchy

theorem Request.ofItem_of_uri (query : Query) {item : Item} {p : Path} (named : pathOfUri item.uri = .ok p) :
    ofItem query item =
      .ok ⟨query, p, item.range.start.line, item.range.start.character, item.name⟩ := by
  rw [ofItem, named]
  rfl

theorem pathOfUri_uri (p : Path) (absolute : p.isAbsolute = true) : pathOfUri p.uri = .ok p := by
  rw [pathOfUri, Uri.toPath_uri p absolute]

namespace Hierarchy

/-- The item of a call, when it is opened, makes a request about the fact that the engine gave: the symbol, the
file and the line are those of the record, and so are those of the goal. The sites of calls that it makes are
looked for on the line of the record. This holds for each state of the files in which there is an item. -/
theorem item_asks_about_record {kind : Artifact.Kind} {text : Text} {world after later last : World}
    {records : List Record} {record : CallFact} {known found : Source.Known} {item : Item} {query : Query}
    (decoded : Record.ofText kind text world = .ok records after) (listed : .call record ∈ records)
    (absolute : (Path.ofText record.file).isAbsolute = true)
    (shown : itemOfCall known record later = .ok (item, found) last)
    (asked : query = .incomingCalls ∨ query = .outgoingCalls) (root : Option Path) :
    ∃ request, Reply.related query item root = .ok (.errand (.fetch request root)) ∧
      request.kind = query ∧ request.symbol = record.name ∧ request.file = Path.ofText record.file ∧
      request.line = record.line - 1 ∧
      (∀ workspace, Goal.ofRequest request workspace = Goal.clause query.predicate
        [Atom.ofPath workspace, record.name, Atom.ofPath (Path.ofText record.file), Text.ofInt record.line]) ∧
      (query = .outgoingCalls → ∀ content, request.answer content = do
        let records := calls (← Record.ofText .callees (Utf8.decode content))
        return .outgoing (← outgoingCalls (Path.ofText record.file) record.line records)) := by
  have positive : 1 ≤ record.line := (Record.fit_of_ofText (Act.outcome_of_ran decoded) _ listed).counted
  obtain ⟨name, uri, line⟩ := item_of_call absolute positive shown
  have made := Request.ofItem_of_uri query ((congrArg pathOfUri uri).trans (pathOfUri_uri _ absolute))
  have next : (item.range.start.line : Int) + 1 = record.line := by omega
  refine ⟨⟨query, Path.ofText record.file, item.range.start.line, item.range.start.character, item.name⟩, ?_,
    rfl, name, rfl, line, ?_, ?_⟩
  · rw [Reply.related, made]
    rfl
  · intro workspace
    rw [Goal.ofRequest, name, next]
    rcases asked with rfl | rfl <;> rfl
  · rintro rfl content
    rw [Request.answer, next]

namespace Odd

-- Blanks, codes and delimiters of URIs stand in the name of a file that does not exist.
def text : Text := "Name:a::p/2;File:/w s/é%41#?;x.lgt;Line:3".toList

def record : CallFact := ⟨"a::p/2".toList, "/w s/é%41#?;x.lgt".toList, 3⟩

def world : World := ⟨⟨[], [], {}⟩, ⟨.off, []⟩, {}⟩

theorem decoded : ∃ after, Record.ofText .callers text world = .ok [.call record] after := ⟨_, rfl⟩

theorem shown : ∃ item found last, itemOfCall [] record world = .ok (item, found) last := ⟨_, _, _, rfl⟩

end Odd

theorem odd_item_asks_about_record :
    ∃ after item found last request, Record.ofText .callers Odd.text Odd.world = .ok [.call Odd.record] after ∧
      itemOfCall [] Odd.record Odd.world = .ok (item, found) last ∧
      Reply.related .outgoingCalls item none = .ok (.errand (.fetch request none)) ∧
      request.file = Path.ofText Odd.record.file ∧ request.line = 2 ∧
      Goal.ofRequest request ⟨.root, []⟩ =
        "vscode::find_callees('/', a::p/2, '/w s/é%41#?;x.lgt', 3).".toList := by
  obtain ⟨after, decoded⟩ := Odd.decoded
  obtain ⟨item, found, last, shown⟩ := Odd.shown
  obtain ⟨request, related, _, _, file, line, goal, _⟩ :=
    item_asks_about_record decoded List.mem_cons_self (by decide) shown (.inr rfl) none
  refine ⟨after, item, found, last, request, decoded, shown, related, file, line, (goal _).trans ?_⟩
  decide +kernel

end Hierarchy

end LogtalkNavigation
