import LogtalkNavigation.Artifact.Claim
import LogtalkNavigation.Proofs.Disk.Moving
import LogtalkNavigation.Proofs.Path
import LogtalkNavigation.Proofs.Reading
import Mathlib.Data.List.Nodup
import Mathlib.Data.List.Perm.Subperm

/-! Discarding and taking files. On any disk they end well or by the operating system, unless the path
has a NUL; on a disk that refuses nothing they do what they are for. -/

namespace LogtalkNavigation.Artifact

open Act

def TakeChokes (disk : Disk) (p : Path) : Prop :=
  '\x00' ∈ p.text ∧ (p.text ∉ disk.faults.renameDenied ∨ p.text ∉ disk.faults.openDenied)

theorem discard_ends (p : Path) (world : World) (clean : '\x00' ∉ p.text) :
    ∃ after, discard p world = .ok () after := by
  rw [discard, disk_bind]
  rcases world.disk.unlink_cases p clean with ⟨disk, removed⟩ | ⟨error, failed⟩
  · rw [removed]
    exact ⟨_, rfl⟩
  · rw [failed]
    by_cases missing : error.code = .notFound
    · exact ⟨world, by simp only [missing]; rfl⟩
    · exact ⟨_, by simp only [missing, ne_eq, not_false_eq_true, ↓reduceIte]; exact note_ran _ _ _⟩

theorem discard_left (p : Path) (world : World) :
    ∃ disk log, (discard p).left world = { world with disk, log } := by
  rw [Act.left, discard, disk_bind]
  cases world.disk.unlink p with
  | ok disk => exact ⟨disk, world.log, rfl⟩
  | error failure =>
      cases failure with
      | os error =>
          by_cases missing : error.code = .notFound
          · exact ⟨world.disk, world.log, by simp only [missing]; rfl⟩
          · exact ⟨world.disk, _, by simp only [missing, ne_eq, not_false_eq_true, ↓reduceIte]; rfl⟩
      | _ => exact ⟨world.disk, world.log, rfl⟩

-- An action on a path that answers, which takes a path without NUL, or fails by the operating system.
def EndsWell {α : Type} (p : Path) (result : EStateM.Result Failure World α) : Prop :=
  ('\x00' ∉ p.text ∧ ∃ value after, result = .ok value after) ∨
    ∃ error after, result = .error (.os error) after

theorem readClaimed_ends (p : Path) (world : World) (clean : '\x00' ∉ p.text) :
    EndsWell p (readClaimed p world) := by
  obtain ⟨after, removed⟩ := discard_ends p world clean
  rw [readClaimed, disk_bind, bind_ran removed]
  rcases world.disk.read_cases p with ⟨chokes, _⟩ | ⟨_, ⟨content, read⟩ | ⟨error, failed, _⟩⟩
  · exact absurd chokes.1 clean
  · rw [read]
    exact .inl ⟨clean, content, after, rfl⟩
  · rw [failed]
    exact .inr ⟨error, after, rfl⟩

theorem readInPlace_ends (p : Path) (world : World) :
    (world.disk.Chokes p ∧ ∃ after, readInPlace p world = .error .nulInPath after) ∨
      (¬ world.disk.Chokes p ∧ EndsWell p (readInPlace p world)) := by
  rw [readInPlace, disk_bind]
  rcases world.disk.read_cases p with ⟨chokes, failed⟩ | ⟨fine, ⟨content, read⟩ | ⟨error, failed, why⟩⟩
  · rw [failed]
    exact .inl ⟨chokes, world, rfl⟩
  · obtain ⟨_, leads, _⟩ := Disk.leads_of_read read
    obtain ⟨after, removed⟩ := discard_ends p world leads.clean
    rw [read]
    exact .inr ⟨fine, .inl ⟨leads.clean, some content, after, bind_ran removed _⟩⟩
  · rw [failed]
    refine .inr ⟨fine, ?_⟩
    by_cases missing : error.code = .notFound
    · have clean : '\x00' ∉ p.text := fun nul => by
        rw [why nul] at missing
        cases missing
      exact .inl ⟨clean, none, world, by simp only [missing, ↓reduceIte]; rfl⟩
    · exact .inr ⟨error, world, by simp only [missing, ↓reduceIte]; rfl⟩

theorem take_ends (p : Path) (name : Name) (last : p.name? = some name) (world : World) :
    (TakeChokes world.disk p ∧ ∃ after, take p world = .error .nulInPath after) ∨
      (¬ TakeChokes world.disk p ∧ EndsWell p (take p world)) := by
  obtain ⟨claimed, found, alike⟩ : ∃ claimed, privatePath world.disk p = .ok claimed ∧
      ('\x00' ∈ claimed.text ↔ '\x00' ∈ p.text) := by
    unfold privatePath
    rw [last]
    exact ⟨_, rfl, nul_mem_private p name last _⟩
  have same : Act.ofExcept (.ok claimed) world = .ok claimed world := rfl
  rw [take, disk_bind, found, bind_ran same]
  rcases world.disk.rename_cases p claimed alike with
    ⟨⟨nul, allowed⟩, failed⟩ | ⟨denied, ⟨clean, disk, renamed⟩ | ⟨error, failed, why⟩⟩
  · rw [failed]
    exact .inl ⟨⟨nul, .inl allowed⟩, world, rfl⟩
  · rw [renamed]
    refine .inr ⟨fun chokes => clean chokes.1, ?_⟩
    rcases readClaimed_ends claimed { world with disk } (fun nul => clean (alike.mp nul)) with
      ⟨_, content, after, read⟩ | ⟨error, after, failed⟩
    · exact .inl ⟨clean, some content, after, bind_ran read _⟩
    · refine .inr ⟨error, after, ?_⟩
      dsimp only
      rw [bind_ran (setDisk_ran disk world)]
      exact bind_failed failed _
  · rw [failed]
    dsimp only
    split
    case isTrue missing =>
      have clean : '\x00' ∉ p.text := fun nul => by
        rw [why nul] at missing
        cases missing
      exact .inr ⟨fun chokes => clean chokes.1, .inl ⟨clean, none, world, rfl⟩⟩
    case isFalse =>
      rw [bind_ran (note_ran _ _ _)]
      generalize world.log.add _ _ = log
      rcases readInPlace_ends p { world with log } with ⟨chokes, ended⟩ | ⟨fine, ended⟩
      · exact .inl ⟨⟨chokes.1, .inr chokes.2⟩, ended⟩
      · refine .inr ⟨fun chokes => ?_, ended⟩
        rcases chokes.2 with notDenied | readable
        · exact notDenied (denied chokes.1)
        · exact fine ⟨chokes.1, readable⟩

theorem discard_file (world : World) (p : Path) (place : Location) (content : List UInt8)
    (sound : world.disk.faults = {}) (leads : world.disk.Leads p place)
    (file : world.disk.node? place = some (.file content)) :
    discard p world = .ok () { world with disk := world.disk.erase place } := by
  have removed : world.disk.unlink p = .ok (world.disk.erase place) := by
    rw [Disk.unlink_of_leads sound leads, file]
  rw [discard, disk_bind, removed]
  rfl

theorem discard_missing (world : World) (p : Path) (place : Location)
    (sound : world.disk.faults = {}) (leads : world.disk.Leads p place)
    (missing : world.disk.node? place = none) : discard p world = .ok () world := by
  have failed : world.disk.unlink p = .error (world.disk.failure .notFound [p]) := by
    rw [Disk.unlink_of_leads sound leads, missing]
  rw [discard, disk_bind, failed]
  rfl

-- Whether the file is there or not, it is gone afterwards.
theorem discard_clears (world : World) (p : Path) (place : Location)
    (sound : world.disk.faults = {}) (leads : world.disk.Leads p place)
    (plain : world.disk.node? place ≠ some .directory) :
    ∃ disk, discard p world = .ok () { world with disk } ∧ world.disk.Becomes disk place none := by
  cases found : world.disk.node? place with
  | none =>
      refine ⟨world.disk, discard_missing world p place sound leads found, ?_⟩
      rw [← found]
      exact Disk.Becomes.same world.disk place
  | some node =>
      cases node with
      | directory => exact absurd found plain
      | file content =>
          exact ⟨_, discard_file world p place content sound leads found,
            Disk.becomes_erase world.disk place (Disk.below_of_no_directory _ _ plain)⟩

-- A private name is told from another by its token. So one of the names that are tried is free: there are more
-- of them than there is on the disk.
theorem paddedDigits_injective (width left right : Nat)
    (same : paddedDigits width left = paddedDigits width right) : left = right := by
  have value (number : Nat) : Nat.ofDigitChars 10 (paddedDigits width number) 0 = number := by
    simp only [paddedDigits]
    rw [Nat.ofDigitChars_append, Nat.ofDigitChars_replicate_zero, Nat.mul_zero,
      Nat.ofDigitChars_ten_toDigits]
  rw [← value left, same, value right]

theorem privateName_injective (name : Name) (left right : Nat)
    (same : privateName name left = privateName name right) : left = right := by
  have texts := congrArg Subtype.val same
  simp only [privateName, Name.append, claimMark, List.append_cancel_left_eq, List.cons.injEq,
    true_and, List.append_assoc, List.cons_append, List.append_cancel_right_eq] at texts
  exact paddedDigits_injective tokenWidth left right texts

theorem privateName_ne_up (name : Name) (token : Nat) : privateName name token ≠ Name.up := by
  intro same
  have sizes := congrArg (fun name : Name => name.1.length) same
  simp [privateName, Name.append, claimMark, claimWord, Name.up] at sizes
  omega

theorem privatePath_free {disk : Disk} {root : Path} {base : Location} (name : Name)
    (walked : disk.walk [] (disk.absolute root).names = .ok base)
    (entered : disk.node? base = some .directory) :
    ∃ token, privatePath disk (root.child name) = .ok (root.child (privateName name token)) ∧
      disk.nodeAt? (root.child (privateName name token)) = none := by
  unfold privatePath
  rw [Path.name?_child]
  dsimp only
  rw [Path.parent_child]
  cases tried : (List.range (disk.nodes.length + 1)).find? fun token =>
      (disk.nodeAt? (root.child (privateName name token))).isNone with
  | some token =>
      refine ⟨token, rfl, ?_⟩
      simpa using List.find?_some tried
  | none =>
      -- All names that are tried are taken, by different entries of the disk.
      exfalso
      have taken : ((List.range (disk.nodes.length + 1)).map fun token =>
          base ++ [privateName name token]) ⊆ disk.nodes.map Prod.fst := by
        intro place listed
        obtain ⟨token, inside, rfl⟩ := List.mem_map.mp listed
        have there := List.find?_eq_none.mp tried token inside
        unfold Disk.nodeAt? at there
        rcases Disk.locate_child walked entered (privateName_ne_up name token) with located | long
        · rw [located] at there
          dsimp only at there
          rw [Disk.node?_below _ _ (by simp), Bool.not_eq_true, Option.isNone_eq_false_iff,
            Disk.lookup_isSome] at there
          obtain ⟨⟨spot, node⟩, listed, same⟩ := List.any_eq_true.mp there
          exact List.mem_map.mpr ⟨(spot, node), listed, of_decide_eq_true same⟩
        · rw [long] at there
          simp at there
      have distinct : ((List.range (disk.nodes.length + 1)).map fun token =>
          base ++ [privateName name token]).Nodup := by
        refine List.Nodup.map ?_ List.nodup_range
        intro left right same
        exact privateName_injective name left right (by simpa using same)
      have crowded := (List.subperm_of_subset distinct taken).length_le
      rw [List.length_map, List.length_range, List.length_map] at crowded
      omega

section File

variable (world : World) (p : Path) (place : Location) (content : List UInt8)
  (sound : world.disk.faults = {}) (leads : world.disk.Leads p place)
  (file : world.disk.node? place = some (.file content))
include sound leads file

theorem readClaimed_file :
    readClaimed p world = .ok content { world with disk := world.disk.erase place } := by
  have read : world.disk.read p = .ok content := by rw [Disk.read_of_leads sound leads, file]
  rw [readClaimed, disk_bind, bind_ran (discard_file world p place content sound leads file), read]
  rfl

theorem readInPlace_file :
    readInPlace p world = .ok (some content) { world with disk := world.disk.erase place } := by
  have read : world.disk.read p = .ok content := by rw [Disk.read_of_leads sound leads, file]
  rw [readInPlace, disk_bind, read]
  exact bind_ran (discard_file world p place content sound leads file) _

end File

theorem take_clears (world : World) (root : Path) (name : Name) (place : Location)
    (sound : world.disk.faults = {}) (leads : world.disk.Leads (root.child name) place)
    (proper : name ≠ Name.up) (plain : world.disk.node? place ≠ some .directory)
    (alone : ∀ rest, rest ≠ [] → world.disk.node? (place ++ rest) = none) :
    ∃ disk log, take (root.child name) world = .ok (world.disk.content? place) { world with disk, log } ∧
      world.disk.Becomes disk place none := by
  obtain ⟨base, walked, entered, rfl⟩ := leads.above proper
  obtain ⟨token, chosen, free⟩ := privatePath_free name walked entered
  have clean : '\x00' ∉ (root.child (privateName name token)).text := by
    intro nul
    have alike := nul_mem_private (root.child name) name (Path.name?_child root name) token
    rw [Path.parent_child] at alike
    exact leads.clean (alike.mp nul)
  have named : (root.child name).name? ≠ some Name.up := by
    rw [Path.name?_child]
    exact fun same => proper (Option.some.inj same)
  have ran : Act.ofExcept (privatePath world.disk (root.child name)) world =
      .ok (root.child (privateName name token)) world := by
    rw [chosen]
    rfl
  rw [take, disk_bind, bind_ran ran, Disk.rename_of_leads sound leads clean named (by simp)]
  cases found : world.disk.node? (base ++ [name]) with
  | none =>
      refine ⟨world.disk, world.log, ?_, ?_⟩
      · simp only [Disk.content?, found]
        rfl
      · rw [← found]
        exact Disk.Becomes.same world.disk _
  | some node =>
      cases node with
      | directory => exact absurd found plain
      | file content =>
          have held : world.disk.content? (base ++ [name]) = some content := by
            simp only [Disk.content?, found]
          rw [held, if_neg (by simp)]
          rcases Disk.locate_child walked entered (privateName_ne_up name token) with located | long
          · have empty : world.disk.node? (base ++ [privateName name token]) = none := by
              simpa only [Disk.nodeAt?, located] using free
            have moved := Disk.node?_move_spare (by simp) found alone (by simp) empty
            have same := Disk.sameDirectories_move (by simp) found alone (by simp) empty
            have claimed : world.disk.Leads (root.child (privateName name token)) _ := ⟨clean, located⟩
            rw [located]
            dsimp only
            rw [bind_ran (setDisk_ran _ world)]
            have read := readClaimed_file
              { world with disk := world.disk.move (base ++ [name]) (base ++ [privateName name token]) }
              _ _ content sound (claimed.kept same rfl) (by rw [moved, if_pos rfl])
            exact ⟨_, world.log, bind_ran read _,
              Disk.becomes_move_erase (by simp) found alone (by simp) empty⟩
          · -- The private name is too long: the file is read where it is.
            rw [long]
            dsimp only [Disk.failure]
            rw [if_neg (by simp), bind_ran (note_ran _ _ world)]
            generalize world.log.add _ _ = log
            exact ⟨_, log, readInPlace_file { world with log } _ _ content sound leads found,
              Disk.becomes_erase _ _ (by simp)⟩

end LogtalkNavigation.Artifact
