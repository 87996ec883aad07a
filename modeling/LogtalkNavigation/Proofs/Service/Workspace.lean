import LogtalkNavigation.Proofs.Engine.Polling
import LogtalkNavigation.Proofs.Service.Boundary

/-! A workspace whose files can be used. The artifacts that are taken once, and their sentinels, have their
places in the directory of the workspace. What a request does to the disk is said by what is left at the two
places of its kind; the places of all other kinds are as before. -/

namespace LogtalkNavigation

open Act Engine Machine

namespace Artifact.Kind

theorem resultName_injective : ∀ kind other : Kind, kind.resultName = other.resultName → kind = other := by
  intro kind other
  cases kind <;> cases other <;> decide

theorem sentinelName_injective :
    ∀ kind other : Kind, kind.sentinelName = other.sentinelName → kind = other := by
  intro kind other
  cases kind <;> cases other <;> decide

theorem resultName_ne_sentinelName : ∀ kind other : Kind, kind.resultName ≠ other.sentinelName := by
  intro kind other
  cases kind <;> cases other <;> decide

theorem resultName_ne_up (kind : Kind) : kind.resultName ≠ Name.up := by
  cases kind <;> decide

theorem sentinelName_ne_up (kind : Kind) : kind.sentinelName ≠ Name.up := by
  cases kind <;> decide

end Artifact.Kind

theorem Query.artifact_isOnce (query : Query) : query.artifact.isOnce = true := by
  cases query <;> rfl

theorem Report.artifact_not_isOnce (report : Report) : report.artifact.isOnce = false := by
  cases report <;> rfl

def Reserved (name : Name) : Prop :=
  ∃ kind : Artifact.Kind, kind.isOnce = true ∧ (name = kind.resultName ∨ name = kind.sentinelName)

theorem Reserved.ne_up {name : Name} (reserved : Reserved name) : name ≠ Name.up := by
  obtain ⟨kind, _, rfl | rfl⟩ := reserved
  · exact kind.resultName_ne_up
  · exact kind.sentinelName_ne_up

theorem reserved_result (query : Query) : Reserved query.artifact.resultName :=
  ⟨query.artifact, query.artifact_isOnce, .inl rfl⟩

theorem reserved_sentinel (query : Query) : Reserved query.artifact.sentinelName :=
  ⟨query.artifact, query.artifact_isOnce, .inr rfl⟩

theorem not_reserved_report (report : Report) : ¬ Reserved report.artifact.sentinelName := by
  rintro ⟨kind, once, same | same⟩
  · exact kind.resultName_ne_sentinelName _ same.symm
  · have alike := Artifact.Kind.sentinelName_injective _ _ same
    rw [← alike, report.artifact_not_isOnce] at once
    cases once

/-- The workspace is a directory of a disk that refuses nothing. Its paths are not too long, and where the
artifacts and sentinels belong there are files or nothing. -/
structure Grounded (root : Path) (base : Location) (disk : Disk) : Prop where
  sound : disk.faults = {}
  leads : ∀ name, Reserved name → disk.Leads (root.child name) (base ++ [name])
  plain : ∀ name, Reserved name → disk.node? (base ++ [name]) ≠ some .directory
  alone : ∀ name, Reserved name → ∀ rest, rest ≠ [] → disk.node? (base ++ [name] ++ rest) = none

section Places

variable {root : Path} {base : Location} {disk after : Disk}

theorem Grounded.becomes {place : Location} {node : Option Node} (grounded : Grounded root base disk)
    (becomes : disk.Becomes after place node) (plain : disk.node? place ≠ some .directory)
    (file : node ≠ some .directory)
    (level : node = none ∨ ∀ name, Reserved name → ∀ rest, rest ≠ [] → base ++ [name] ++ rest ≠ place) :
    Grounded root base after where
  sound := becomes.faults.trans grounded.sound
  leads name reserved :=
    (grounded.leads name reserved).kept (becomes.sameDirectories plain file) becomes.home
  plain name reserved := by
    rw [becomes.nodes]
    by_cases here : base ++ [name] = place
    · rw [if_pos here]
      exact file
    · rw [if_neg here]
      exact grounded.plain name reserved
  alone name reserved rest more := by
    rw [becomes.nodes]
    by_cases here : base ++ [name] ++ rest = place
    · rw [if_pos here]
      rcases level with gone | apart
      · exact gone
      · exact absurd here (apart name reserved rest more)
    · rw [if_neg here]
      exact grounded.alone name reserved rest more

structure Elsewhere (root : Path) (base : Location) (disk after : Disk) : Prop where
  grounded : Grounded root base after
  same : ∀ name, Reserved name → after.node? (base ++ [name]) = disk.node? (base ++ [name])

theorem Elsewhere.refl (grounded : Grounded root base disk) : Elsewhere root base disk disk :=
  ⟨grounded, fun _ _ => rfl⟩

theorem Elsewhere.trans {middle : Disk} (first : Elsewhere root base disk middle)
    (second : Elsewhere root base middle after) : Elsewhere root base disk after :=
  ⟨second.grounded, fun name reserved => (second.same name reserved).trans (first.same name reserved)⟩

/-- The disk changes at the places of a kind, where `artifact` and `sentinel` are left. -/
structure Leaves (root : Path) (base : Location) (kind : Artifact.Kind) (disk after : Disk)
    (artifact sentinel : Option (List UInt8)) : Prop where
  grounded : Grounded root base after
  others : ∀ name, Reserved name → name ≠ kind.resultName → name ≠ kind.sentinelName →
    after.node? (base ++ [name]) = disk.node? (base ++ [name])
  artifact : after.node? (base ++ [kind.resultName]) = artifact.map .file
  sentinel : after.node? (base ++ [kind.sentinelName]) = sentinel.map .file

-- A reserved place is not below another one.
theorem level_of_reserved (base : Location) (name other : Name) (rest : List Name) (more : rest ≠ []) :
    base ++ [other] ++ rest ≠ base ++ [name] := by
  intro same
  have lengths := congrArg List.length same
  cases rest with
  | nil => exact more rfl
  | cons first rest => simp at lengths

theorem Grounded.changed {name : Name} {node : Option Node} (grounded : Grounded root base disk)
    (reserved : Reserved name) (becomes : disk.Becomes after (base ++ [name]) node)
    (file : node ≠ some .directory) : Grounded root base after :=
  grounded.becomes becomes (grounded.plain name reserved) file
    (.inr fun other _ rest more => level_of_reserved base name other rest more)

theorem Disk.Becomes.apart {name other : Name} {node : Option Node}
    (becomes : disk.Becomes after (base ++ [name]) node) (differ : other ≠ name) :
    after.node? (base ++ [other]) = disk.node? (base ++ [other]) := by
  apply becomes.away
  intro same
  exact differ (by simpa using same)

theorem Leaves.start (grounded : Grounded root base disk) (query : Query) :
    ∃ artifact sentinel, Leaves root base query.artifact disk disk artifact sentinel := by
  have file (name : Name) (reserved : Reserved name) :
      ∃ content : Option (List UInt8), disk.node? (base ++ [name]) = content.map .file := by
    cases found : disk.node? (base ++ [name]) with
    | none => exact ⟨none, rfl⟩
    | some node =>
        cases node with
        | directory => exact absurd found (grounded.plain name reserved)
        | file content => exact ⟨some content, rfl⟩
  obtain ⟨artifact, written⟩ := file _ (reserved_result query)
  obtain ⟨sentinel, marked⟩ := file _ (reserved_sentinel query)
  exact ⟨artifact, sentinel, grounded, fun _ _ _ _ => rfl, written, marked⟩

theorem file_ne_directory (content : Option (List UInt8)) : content.map Node.file ≠ some .directory := by
  cases content <;> simp

theorem Leaves.setArtifact {query : Query} {middle : Disk} {artifact sentinel other : Option (List UInt8)}
    (leaves : Leaves root base query.artifact disk middle artifact sentinel)
    (becomes : middle.Becomes after (base ++ [query.artifact.resultName]) (other.map .file)) :
    Leaves root base query.artifact disk after other sentinel where
  grounded := leaves.grounded.changed (reserved_result query) becomes (file_ne_directory other)
  others name reserved noResult noSentinel :=
    (becomes.apart noResult).trans (leaves.others name reserved noResult noSentinel)
  artifact := becomes.here
  sentinel := (becomes.apart (Artifact.Kind.resultName_ne_sentinelName _ _).symm).trans leaves.sentinel

theorem Leaves.setSentinel {query : Query} {middle : Disk} {artifact sentinel other : Option (List UInt8)}
    (leaves : Leaves root base query.artifact disk middle artifact sentinel)
    (becomes : middle.Becomes after (base ++ [query.artifact.sentinelName]) (other.map .file)) :
    Leaves root base query.artifact disk after artifact other where
  grounded := leaves.grounded.changed (reserved_sentinel query) becomes (file_ne_directory other)
  others name reserved noResult noSentinel :=
    (becomes.apart noSentinel).trans (leaves.others name reserved noResult noSentinel)
  artifact := (becomes.apart (Artifact.Kind.resultName_ne_sentinelName _ _)).trans leaves.artifact
  sentinel := becomes.here

-- What is at the places of other kinds stays, where `own` is the kind that the change is about, if any.
structure Touches (root : Path) (base : Location) (own : Option Artifact.Kind) (disk after : Disk) :
    Prop where
  grounded : Grounded root base after
  result : ∀ kind : Artifact.Kind, kind.isOnce = true → some kind ≠ own →
    after.node? (base ++ [kind.resultName]) = disk.node? (base ++ [kind.resultName])
  sentinel : ∀ kind : Artifact.Kind, kind.isOnce = true → some kind ≠ own →
    after.node? (base ++ [kind.sentinelName]) = disk.node? (base ++ [kind.sentinelName])

theorem Elsewhere.touches (elsewhere : Elsewhere root base disk after) (own : Option Artifact.Kind) :
    Touches root base own disk after where
  grounded := elsewhere.grounded
  result kind once _ := elsewhere.same _ ⟨kind, once, .inl rfl⟩
  sentinel kind once _ := elsewhere.same _ ⟨kind, once, .inr rfl⟩

theorem Leaves.touches {kind : Artifact.Kind} {artifact sentinel : Option (List UInt8)}
    (leaves : Leaves root base kind disk after artifact sentinel) :
    Touches root base (some kind) disk after where
  grounded := leaves.grounded
  result other once apart := by
    refine leaves.others _ ⟨other, once, .inl rfl⟩ ?_ (Artifact.Kind.resultName_ne_sentinelName _ _)
    intro same
    exact apart (congrArg some (Artifact.Kind.resultName_injective _ _ same))
  sentinel other once apart := by
    refine leaves.others _ ⟨other, once, .inr rfl⟩ (Artifact.Kind.resultName_ne_sentinelName _ _).symm ?_
    intro same
    exact apart (congrArg some (Artifact.Kind.sentinelName_injective _ _ same))

theorem Leaves.still {kind : Artifact.Kind} {artifact sentinel : Option (List UInt8)}
    (leaves : Leaves root base kind disk after artifact sentinel) :
    Leaves root base kind after after artifact sentinel :=
  ⟨leaves.grounded, fun _ _ _ _ => rfl, leaves.artifact, leaves.sentinel⟩

theorem Leaves.trans {kind : Artifact.Kind} {middle : Disk}
    {artifact sentinel later last : Option (List UInt8)}
    (first : Leaves root base kind disk middle artifact sentinel)
    (second : Leaves root base kind middle after later last) :
    Leaves root base kind disk after later last where
  grounded := second.grounded
  others name reserved noResult noSentinel :=
    (second.others name reserved noResult noSentinel).trans (first.others name reserved noResult noSentinel)
  artifact := second.artifact
  sentinel := second.sentinel

theorem put_becomes {name : Name} (grounded : Grounded root base disk) (reserved : Reserved name)
    (content : List UInt8) :
    disk.Becomes (disk.put (root.child name) content) (base ++ [name]) (some (.file content)) := by
  rw [Disk.put_child (grounded.leads name reserved) reserved.ne_up]
  exact Disk.becomes_set disk _ _ (by simp)

end Places

structure Output where
  artifact : Option (List UInt8) := none
  sentinel : Option (List UInt8) := none
deriving DecidableEq

def Output.files (request : Request) (root : Path) (output : Output) : List (Path × List UInt8) :=
  (output.artifact.map (Errand.artifactOf request root, ·)).toList ++
    (output.sentinel.map (Errand.sentinelOf request.kind.artifact root, ·)).toList

theorem Errand.sentinelOf_eq (kind : Artifact.Kind) (root : Path) :
    sentinelOf kind root = root.child kind.sentinelName :=
  Path.join_name root kind.sentinelName

theorem Leaves.write {root : Path} {base : Location} {disk middle : Disk} {request : Request}
    (leaves : Leaves root base request.kind.artifact disk middle none none) (output : Output) :
    Leaves root base request.kind.artifact disk
      ((output.files request root).foldl (fun disk (p, content) => disk.put p content) middle)
      output.artifact output.sentinel := by
  obtain ⟨artifact, sentinel⟩ := output
  have written : Leaves root base request.kind.artifact disk
      (((artifact.map (Errand.artifactOf request root, ·)).toList).foldl
        (fun disk (p, content) => disk.put p content) middle) artifact none := by
    cases artifact with
    | none => exact leaves
    | some content =>
        have becomes := put_becomes leaves.grounded (reserved_result request.kind) content
        rw [← Errand.artifactOf_eq] at becomes
        rw [Option.map_some, Option.toList_some, List.foldl_cons, List.foldl_nil]
        exact leaves.setArtifact becomes
  unfold Output.files
  rw [List.foldl_append]
  cases sentinel with
  | none => exact written
  | some content =>
      have becomes := put_becomes written.grounded (reserved_sentinel request.kind) content
      rw [← Errand.sentinelOf_eq] at becomes
      rw [Option.map_some, Option.toList_some, List.foldl_cons, List.foldl_nil]
      exact written.setSentinel becomes

end LogtalkNavigation
