import LogtalkNavigation.Proofs.Artifact.Pruning
import LogtalkNavigation.Proofs.Artifact.Refusals
import Mathlib.Data.List.Perm.Basic

/-! Pruning as a filter on the lines of an artifact. Lines are read with many kinds of breaks and written with
one, and an artifact with nothing but blank lines is removed, so the bytes of an artifact depend on its past.
Still a second pruning of a file finds nothing, and files may be pruned in any order. -/

namespace LogtalkNavigation.Artifact

open Act Record

theorem keptLines_comm (first second : Text) (lines : List Text) :
    keptLines second (keptLines first lines) = keptLines first (keptLines second lines) :=
  List.filter_comm _ _ _

theorem blank_kept (document : Text) (lines : List Text) (blank : lines.all Text.allBlank = true) :
    (keptLines document lines).all Text.allBlank = true := by
  rw [List.all_eq_true] at blank ⊢
  intro line inside
  exact blank line ((mem_keptLines _ _ _).mp inside).1

-- If two filters together keep everything, the first one does.
theorem keptLines_of_both (first second : Text) (lines : List Text)
    (all : keptLines second (keptLines first lines) = lines) : keptLines first lines = lines := by
  have fewer : (keptLines first lines).Sublist lines := List.filter_sublist
  have less : (keptLines second (keptLines first lines)).Sublist (keptLines first lines) := List.filter_sublist
  rw [all] at less
  exact fewer.antisymm less

theorem silent_kept (document : Text) (lines : List Text) :
    (keptLines document lines).any (isAbout document) = false := by
  rw [List.any_eq_false]
  intro line inside
  exact ((mem_keptLines _ _ _).mp inside).2

-- Lines that were stored are pruned as if they had not been, also if storing them left nothing.
theorem pruned_stored (document : Text) (lines : List Text) (unbroken : ∀ line ∈ lines, Text.Unbroken line) :
    pruned document (stored lines) = stored (keptLines document lines) := by
  cases kept : stored lines with
  | none =>
      have blank := blank_kept document lines ((stored_eq_none_iff lines).mp kept)
      exact ((stored_eq_none_iff _).mpr blank).symm
  | some content =>
      have same := linesOf_stored unbroken kept
      dsimp only [pruned]
      rw [same]
      by_cases all : keptLines document lines = lines
      · rw [if_pos all, all, kept]
      · rw [if_neg all]

theorem pruned_pruned (first second : Text) (content : List UInt8) :
    pruned second (pruned first (some content)) =
      if keptLines second (keptLines first (linesOf content)) = linesOf content then some content
      else stored (keptLines second (keptLines first (linesOf content))) := by
  by_cases all : keptLines first (linesOf content) = linesOf content
  · have unchanged : pruned first (some content) = some content := if_pos all
    rw [unchanged, all]
    rfl
  · have rewritten : pruned first (some content) = stored (keptLines first (linesOf content)) := if_neg all
    rw [rewritten, pruned_stored second _ (unbroken_kept first content), if_neg]
    exact fun both => all (keptLines_of_both first second _ both)

theorem pruned_comm (first second : Text) (held : Option (List UInt8)) :
    pruned second (pruned first held) = pruned first (pruned second held) := by
  cases held with
  | none => rfl
  | some content => rw [pruned_pruned, pruned_pruned, keptLines_comm]

theorem mentions_pruned (document : Text) (held : Option (List UInt8)) :
    mentions document (pruned document held) = false := by
  cases held with
  | none => rfl
  | some content =>
      cases kept : pruned document (some content) with
      | none => rfl
      | some left =>
          dsimp only [mentions]
          rw [linesOf_pruned kept]
          exact silent_kept document (linesOf content)

theorem pruned_eq_none_iff {document : Text} {content : List UInt8}
    (struck : mentions document (some content) = true) :
    pruned document (some content) = none ↔
      ∀ line ∈ keptLines document (linesOf content), Text.allBlank line = true := by
  have fewer : keptLines document (linesOf content) ≠ linesOf content := by
    rw [Ne, keptLines_eq_self_iff, Bool.not_eq_false]
    exact struck
  have rewritten : pruned document (some content) = stored (keptLines document (linesOf content)) :=
    if_neg fewer
  rw [rewritten, stored_eq_none_iff, List.all_eq_true]

def dropInTurn (artifact : Path) : List Path → Act Unit
  | [] => return ()
  | document :: rest => do
    let _ ← dropRecords artifact document
    dropInTurn artifact rest

def prunedInTurn (documents : List Path) (held : Option (List UInt8)) : Option (List UInt8) :=
  documents.foldl (fun held document => pruned (tidy document.text) held) held

theorem dropInTurn_prunes {world : World} {artifact : Path} {place : Location} {held : Option (List UInt8)}
    (holds : Holds world.disk artifact place held) (documents : List Path) :
    ∃ after, dropInTurn artifact documents world = .ok () after ∧
      Holds after.disk artifact place (prunedInTurn documents held) := by
  induction documents generalizing world held with
  | nil => exact ⟨world, rfl, holds⟩
  | cons document rest ih =>
      obtain ⟨middle, ran, left, _⟩ := dropRecords_prunes holds document
      obtain ⟨after, finished, ended⟩ := ih left
      exact ⟨after, (bind_ran ran _).trans finished, ended⟩

theorem prunedInTurn_perm {documents others : List Path} (reordered : documents.Perm others)
    (held : Option (List UInt8)) : prunedInTurn documents held = prunedInTurn others held := by
  apply reordered.foldl_eq'
  intro first _ second _ held
  exact pruned_comm (tidy first.text) (tidy second.text) held

theorem Holds.nodeAt? {disk : Disk} {p : Path} {place : Location} {held : Option (List UInt8)}
    (holds : Holds disk p place held) : disk.nodeAt? p = held.map .file := by
  rw [nodeAt?_of_leads holds.leads, holds.here]

/-- Pruning changes an artifact exactly if a line of it is about the file. It leaves the other lines as they are
and in order, or no artifact if they are blank. Pruning again changes nothing. Whatever the order in which
files are pruned, the same bytes are left, or none. -/
theorem pruning_filters_lines (world : World) (artifact document : Path) (content : List UInt8)
    (sound : world.disk.faults = {}) (there : world.disk.read artifact = .ok content) :
    ∃ changed after, dropRecords artifact document world = .ok changed after ∧
      (changed = true ↔ ∃ line ∈ linesOf content, isAbout (tidy document.text) line = true) ∧
      (changed = false → after = world) ∧
      (changed = true →
        (after.disk.nodeAt? artifact = none ↔
          ∀ line ∈ keptLines (tidy document.text) (linesOf content), Text.allBlank line = true) ∧
        (after.disk.nodeAt? artifact ≠ none → ∃ left, after.disk.read artifact = .ok left ∧
          linesOf left = keptLines (tidy document.text) (linesOf content))) ∧
      dropRecords artifact document after = .ok false after ∧
      ∀ documents others : List Path, documents.Perm others →
        ∃ left right, dropInTurn artifact documents world = .ok () left ∧
          dropInTurn artifact others world = .ok () right ∧
            left.disk.nodeAt? artifact = right.disk.nodeAt? artifact := by
  obtain ⟨place, holds⟩ := holds_of_read sound there
  obtain ⟨after, ran, left, untouched⟩ := dropRecords_prunes holds document
  refine ⟨_, after, ran, List.any_eq_true, untouched, ?_, ?_, ?_⟩
  · intro struck
    rw [left.nodeAt?, ← pruned_eq_none_iff struck]
    refine ⟨Option.map_eq_none_iff, fun present => ?_⟩
    cases kept : pruned (tidy document.text) (some content) with
    | none => exact absurd (congrArg (Option.map Node.file) kept) present
    | some bytes =>
        rw [kept] at left
        exact ⟨bytes, left.read_some, linesOf_pruned kept⟩
  · obtain ⟨again, second, _, same⟩ := dropRecords_prunes left document
    rw [mentions_pruned] at second same
    rw [second, same rfl]
  · intro documents others reordered
    obtain ⟨one, first, oneHolds⟩ := dropInTurn_prunes holds documents
    obtain ⟨two, second, twoHolds⟩ := dropInTurn_prunes holds others
    refine ⟨one, two, first, second, ?_⟩
    rw [oneHolds.nodeAt?, twoHolds.nodeAt?, prunedInTurn_perm reordered]

-- Three lines behind two kinds of breaks. Pruned of `/a` they are two, written with a third kind, and pruned of
-- `/b` as well, in either order, only a blank one.
namespace Mixed

def content : List UInt8 := Utf8.encode "File:/a;1\r\n \x0bFile:/b;2".toList

def world : World := ⟨⟨[([⟨['m'], by decide⟩], .file content)], [], {}⟩, ⟨.off, []⟩, {}⟩

end Mixed

theorem mixed_breaks_filtered :
    ∃ changed after, dropRecords (Path.ofString "/m") (Path.ofString "/a") Mixed.world = .ok changed after ∧
      changed = true ∧
      (∃ left, after.disk.read (Path.ofString "/m") = .ok left ∧
        linesOf left = [[' '], "File:/b;2".toList]) ∧
      dropRecords (Path.ofString "/m") (Path.ofString "/a") after = .ok false after ∧
      ∃ left right,
        dropInTurn (Path.ofString "/m") [Path.ofString "/a", Path.ofString "/b"] Mixed.world = .ok () left ∧
          dropInTurn (Path.ofString "/m") [Path.ofString "/b", Path.ofString "/a"] Mixed.world = .ok () right ∧
            left.disk.nodeAt? (Path.ofString "/m") = right.disk.nodeAt? (Path.ofString "/m") := by
  obtain ⟨changed, after, ran, struck, _, filtered, again, order⟩ := pruning_filters_lines Mixed.world
    (Path.ofString "/m") (Path.ofString "/a") Mixed.content rfl rfl
  have kept : keptLines (tidy (Path.ofString "/a").text) (linesOf Mixed.content) =
      [[' '], "File:/b;2".toList] := by decide +kernel
  have did : changed = true := struck.mpr ⟨"File:/a;1".toList, by decide +kernel⟩
  obtain ⟨gone, left⟩ := filtered did
  rw [kept] at gone left
  refine ⟨changed, after, ran, did, left fun absent => ?_, again, order _ _ (List.Perm.swap _ _ _)⟩
  have blank := gone.mp absent "File:/b;2".toList (by simp)
  exact absurd blank (by decide +kernel)

end LogtalkNavigation.Artifact
