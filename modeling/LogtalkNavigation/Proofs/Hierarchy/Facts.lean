import LogtalkNavigation.Proofs.Hierarchy.Memo
import LogtalkNavigation.Proofs.Record.Latest

/-! Each fact is shown once. An artifact may tell the same fact several times, with the name of its file spelled in
different ways. Of the records with one fact the last is shown, where the first would have been. -/

namespace LogtalkNavigation.Hierarchy

open Act Record

theorem mapM_latest_eq_ok_iff {α β κ : Type} [DecidableEq κ] (key : α → κ) (each : α → Except Failure β)
    (records : List α) (results : List β) :
    (latest key records).mapM each = .ok results ↔
      OnePerKey key (fun record result => each record = .ok result) records results := by
  rw [mapM_eq_ok_iff_forall₂, onePerKey_iff]

/-- Keeping the latest record of each key, for records and keys of any type; and what it does for callers,
callees and entities, whose key is the name, the file as its tidied and folded name says, and the line. They
are shown if each of the kept records can be shown, and then there is one item for each key. -/
theorem facts_shown_once :
    (∀ {α κ : Type} [DecidableEq κ] (key : α → κ) (first second : List α),
      ((latest key first).map key).Nodup ∧ (latest key first).map key = (first.map key).eraseDups ∧
      (∀ record ∈ latest key first, IsLast key first record) ∧
      latest key (latest key first ++ second) = latest key (first ++ second) ∧
      latest key (latest key first) = latest key first) ∧
    ∀ world : World,
      (∀ symbol records calls, (incomingCalls symbol records).outcome world = .ok calls ↔
        OnePerKey callKey (fun record call =>
          (callOf record (Path.ofText record.file) record.line symbol).outcome world = .ok call) records calls) ∧
      (∀ p line records calls, (outgoingCalls p line records).outcome world = .ok calls ↔
        OnePerKey callKey (fun record call =>
          (callOf record p line record.name).outcome world = .ok call) records calls) ∧
      ∀ records items, (typeItems records).outcome world = .ok items ↔
        OnePerKey entityKey (fun record item => (entityItem record).outcome world = .ok item) records items := by
  constructor
  · intro α κ _ key first second
    exact ⟨nodup_latest key first, keys_latest key first, fun record => (mem_latest_iff key first record).mp,
      latest_latest_append key first second, latest_latest key first⟩
  · intro world
    refine ⟨fun symbol records calls => ?_, fun p line records calls => ?_, fun records items => ?_⟩
    · simp only [outcome_callOf]
      rw [← mapM_latest_eq_ok_iff, incomingCalls, outcome_callsAt]
    · simp only [outcome_callOf]
      rw [← mapM_latest_eq_ok_iff, outgoingCalls, outcome_callsAt]
    · simp only [outcome_entityItem]
      rw [← mapM_latest_eq_ok_iff, typeItems, outcome_itemsOfEntities]

-- A caller is told twice, the second time with its file in capitals.
namespace Repeated

def world : World := ⟨⟨[([⟨['k'], by decide⟩], .file (Utf8.encode "p :- q.".toList))], [], {}⟩, ⟨.off, []⟩, {}⟩

def caller : CallFact := ⟨"p/0".toList, "/k".toList, 1⟩

def other : CallFact := ⟨"r/0".toList, "/k".toList, 1⟩

def again : CallFact := ⟨"p/0".toList, "/K".toList, 1⟩

end Repeated

open Repeated in
theorem repeated_caller_shown_once :
    latest callKey [caller, other, again] = [again, other] ∧ IsLast callKey [caller, other, again] again ∧
    ∃ first second, (incomingCalls "q/0".toList [caller, other, again]).outcome world = .ok [first, second] ∧
      OnePerKey callKey (fun record call => (callOf record (Path.ofText record.file) record.line
        "q/0".toList).outcome world = .ok call) [caller, other, again] [first, second] := by
  obtain ⟨kept, shown⟩ := facts_shown_once
  have both : latest callKey [caller, other, again] = [again, other] := by decide +kernel
  obtain ⟨_, _, last, _⟩ := kept callKey [caller, other, again] []
  have answered : ∃ first second, (incomingCalls "q/0".toList [caller, other, again]).outcome world =
      .ok [first, second] := ⟨_, _, rfl⟩
  obtain ⟨first, second, answered⟩ := answered
  refine ⟨both, last again ?_, first, second, answered, ((shown world).1 _ _ _).mp answered⟩
  rw [both]
  exact List.mem_cons_self

end LogtalkNavigation.Hierarchy
