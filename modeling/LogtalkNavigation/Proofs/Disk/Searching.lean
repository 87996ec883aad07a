import LogtalkNavigation.Disk.Pattern
import LogtalkNavigation.Proofs.Disk.Tree
import LogtalkNavigation.Proofs.Path
import LogtalkNavigation.Proofs.Path.Order
import LogtalkNavigation.Proofs.Results
import LogtalkNavigation.Proofs.Text.Search
import Mathlib.Data.List.Nodup
import Mathlib.Data.Set.List

/-! Searching a tree for a name. The search looks the name up in every directory at or below the root. If each of these
paths can be looked up, it finds everything below the root that has the name, each thing once and in the order of paths;
otherwise it fails. -/

namespace LogtalkNavigation.Disk

def Fits (disk : Disk) (p : Path) : Prop := (Utf8.encode (disk.shown p)).length ≤ maxPath

instance (disk : Disk) (p : Path) : Decidable (disk.Fits p) := inferInstanceAs (Decidable (_ ≤ _))

structure Rooted (disk : Disk) (root : Path) (base : Location) : Prop where
  tree : disk.IsTree
  leads : disk.Leads root base
  entered : disk.node? base = some .directory

theorem Rooted.kept {disk other : Disk} {root : Path} {base : Location} (rooted : disk.Rooted root base)
    (tree : other.IsTree) (same : SameDirectories disk other) (home : other.home = disk.home) :
    other.Rooted root base :=
  ⟨tree, rooted.leads.kept same home, (same base).mp rooted.entered⟩

theorem child_descend (root : Path) (rest : List Name) (name : Name) :
    (descend root rest).child name = descend root (rest ++ [name]) := by
  simp [descend, Path.child]

theorem descend_injective {root : Path} {one other : List Name} (same : descend root one = descend root other) :
    one = other := by
  simpa [descend] using same

theorem name?_descend (root : Path) {rest : List Name} {name : Name} (last : rest.getLast? = some name) :
    (descend root rest).name? = some name := by
  simp [descend, Path.name?, List.getLast?_append, last]

theorem absolute_descend (disk : Disk) (root : Path) (rest : List Name) :
    (disk.absolute (descend root rest)).names = (disk.absolute root).names ++ rest := by
  unfold absolute
  by_cases absolute : root.isAbsolute = true
  · have still : (descend root rest).isAbsolute = true := absolute
    rw [if_pos absolute, if_pos still]
    rfl
  · have still : ¬ (descend root rest).isAbsolute = true := absolute
    rw [if_neg absolute, if_neg still]
    exact (List.append_assoc _ _ _).symm

structure Plain (name : Name) : Prop where
  proper : name ≠ Name.up
  short : name.size ≤ maxName
  clean : '\x00' ∉ name.1
  tame : '*' ∉ name.1 ∧ '?' ∉ name.1 ∧ '[' ∉ name.1

instance (name : Name) : Decidable (Plain name) :=
  decidable_of_iff
    (name ≠ Name.up ∧ name.size ≤ maxName ∧ '\x00' ∉ name.1 ∧ '*' ∉ name.1 ∧ '?' ∉ name.1 ∧ '[' ∉ name.1)
    ⟨fun ⟨proper, short, clean, tame⟩ => ⟨proper, short, clean, tame⟩,
      fun plain => ⟨plain.proper, plain.short, plain.clean, plain.tame⟩⟩

section Rooted
variable {disk : Disk} {root : Path} {base : Location} (rooted : disk.Rooted root base) {rest : List Name}
  (entered : disk.node? (base ++ rest) = some .directory) {name : Name} (plain : Plain name)
include rooted entered plain

theorem Rooted.locate_descend : disk.locate (descend root (rest ++ [name])) =
    if disk.Fits (descend root (rest ++ [name])) then .ok (base ++ (rest ++ [name])) else .error .nameTooLong := by
  have walked : disk.walk [] (disk.absolute (descend root (rest ++ [name]))).names =
      .ok (base ++ (rest ++ [name])) := by
    rw [absolute_descend, walk_append disk [] base _ _ (walk_of_locate rooted.leads.located),
      walk_append disk base _ _ _ (rooted.tree.walk_down base rest entered), walk_name disk _ _ entered,
      if_neg (Nat.not_lt.mpr plain.short), if_neg plain.proper, List.append_assoc]
  unfold locate
  rw [walked]
  by_cases fits : disk.Fits (descend root (rest ++ [name]))
  · rw [if_pos fits, if_neg (Nat.not_lt.mpr fits)]
  · rw [if_neg fits, if_pos (Nat.not_le.mp fits)]

theorem Rooted.clean_descend : '\x00' ∉ (descend root (rest ++ [name])).text := by
  rw [Path.nul_mem_text_iff]
  rintro ⟨part, inside, nul⟩
  rcases List.mem_append.mp inside with above | below
  · exact rooted.leads.clean ((Path.nul_mem_text_iff root).mpr ⟨part, above, nul⟩)
  · rcases List.mem_append.mp below with between | last
    · exact (rooted.tree.name_of_mem entered (List.mem_append_right base between)).2.2 nul
    · obtain rfl := List.mem_singleton.mp last
      exact plain.clean nul

theorem Rooted.leads_descend (fits : disk.Fits (descend root (rest ++ [name]))) :
    disk.Leads (descend root (rest ++ [name])) (base ++ (rest ++ [name])) := by
  refine ⟨rooted.clean_descend entered plain, ?_⟩
  rw [rooted.locate_descend entered plain, if_pos fits]

theorem Rooted.isThere_descend : disk.isThere (descend root (rest ++ [name])) =
    if disk.Fits (descend root (rest ++ [name])) then .ok (disk.node? (base ++ (rest ++ [name]))).isSome
    else .error (disk.failure .nameTooLong [descend root (rest ++ [name])]) := by
  by_cases fits : disk.Fits (descend root (rest ++ [name]))
  · rw [if_pos fits, isThere_of_leads (rooted.leads_descend entered plain fits)]
  · have located := rooted.locate_descend entered plain
    have clean := rooted.clean_descend entered plain
    rw [if_neg fits] at located
    rw [if_neg fits]
    simp only [isThere, stat, List.contains_eq_mem, clean, decide_false, Bool.false_eq_true, ↓reduceIte, located]
    rfl

end Rooted

theorem mem_below (disk : Disk) (base : Location) (names : List Name) (node : Node) :
    (names, node) ∈ disk.below base ↔ names ≠ [] ∧ (base ++ names, node) ∈ disk.nodes := by
  unfold below
  rw [List.mem_filterMap]
  constructor
  · rintro ⟨⟨spot, held⟩, listed, found⟩
    dsimp only at found
    split at found
    case isFalse => cases found
    case isTrue under =>
      cases found
      obtain ⟨rest, rfl⟩ := List.isPrefixOf_iff_prefix.mp under.1
      rw [List.drop_left]
      refine ⟨?_, listed⟩
      rintro rfl
      simp at under
  · rintro ⟨further, listed⟩
    exact ⟨_, listed, by simp [further]⟩

theorem Rooted.mem_directories {disk : Disk} {root : Path} {base : Location} (rooted : disk.Rooted root base)
    (q : Path) :
    q ∈ disk.directories root ↔ ∃ rest, q = descend root rest ∧ disk.node? (base ++ rest) = some .directory := by
  have inside : disk.belowPath root = disk.below base := by
    simp only [belowPath, rooted.leads.located, rooted.entered, ↓reduceIte]
  rw [directories, inside, List.mem_cons, List.mem_filterMap]
  constructor
  · rintro (rfl | ⟨⟨rest, node⟩, listed, found⟩)
    · exact ⟨[], by simp [descend], by simpa using rooted.entered⟩
    · dsimp only at found
      split at found
      case isFalse => cases found
      case isTrue directory =>
        cases found
        obtain ⟨_, entry⟩ := (mem_below disk base rest node).mp listed
        rw [directory] at entry
        exact ⟨rest, rfl, rooted.tree.node?_of_mem entry⟩
  · rintro ⟨rest, rfl, directory⟩
    by_cases top : rest = []
    · left
      simp [top, descend]
    · right
      have listed := mem_of_node? directory (by simp [top])
      exact ⟨(rest, .directory), (mem_below disk base rest .directory).mpr ⟨top, listed⟩, by simp⟩

theorem Plain.step_eq {name : Name} (plain : Plain name) : Pattern.step name = .ok (.name name) := by
  obtain ⟨star, question, bracket⟩ := plain.tame
  have single : name.1 ≠ ['*', '*'] := fun same => star (by simp [same])
  have double : Text.indexOf? ['*', '*'] name.1 = none := by
    rw [Text.indexOf?_eq_none_iff (by simp)]
    exact fun inside => star (inside.subset (by simp))
  have wild : (name.1.any fun c => c = '*' || c = '?' || c = '[') = false := by
    rw [List.any_eq_false]
    rintro c inside special
    simp only [Bool.or_eq_true, decide_eq_true_eq] at special
    rcases special with (rfl | rfl) | rfl
    · exact star inside
    · exact question inside
    · exact bracket inside
  simp only [Pattern.step, single, double, wild, ↓reduceIte, Option.isSome_none, Bool.false_eq_true]

theorem Plain.steps_eq {name : Name} (plain : Plain name) : Pattern.steps name.1 = .ok [.name name] := by
  have slashless : name.1.getLast? ≠ some '/' := fun last => name.2.2.2 (List.mem_of_getLast? last)
  have relative : (Path.ofText name.1).isAbsolute = false := by
    rw [Path.ofText_name]
    rfl
  have made : (Path.ofText name.1).names.mapM Pattern.step = .ok [.name name] := by
    rw [Path.ofText_name, List.mapM_cons, plain.step_eq]
    rfl
  unfold Pattern.steps
  simp only [relative, made, slashless, ↓reduceIte]
  rfl

theorem select_name (disk : Disk) (name : Name) (q : Path) :
    disk.select [.name name] q =
      (disk.isThere (q.child name)).map fun there => if there then [q.child name] else [] := by
  rw [select]
  cases disk.isThere (q.child name) with
  | error failure => rfl
  | ok there => cases there <;> rfl

-- What is found in one directory, once it can be told whether the name is there.
theorem select_eq_ok_iff (disk : Disk) (name : Name) (q : Path) (found : List Path) :
    disk.select [.name name] q = .ok found ↔
      (∃ there, disk.isThere (q.child name) = .ok there) ∧
        found = if disk.isThere (q.child name) = .ok true then [q.child name] else [] := by
  rw [select_name]
  cases disk.isThere (q.child name) with
  | error failure => simp [Except.map]
  | ok there => simp [Except.map, eq_comm]

theorem select_anyDepth (disk : Disk) (steps : List Pattern.Step) (q : Path) :
    disk.select (.anyDepth :: steps) q =
      ((disk.directories q).mapM (disk.select steps)).map fun found => found.flatten.eraseDups := by
  rw [select]
  cases (disk.directories q).mapM (disk.select steps) <;> rfl

theorem search_plain (disk : Disk) (root : Path) {name : Name} (plain : Plain name) :
    disk.search root name.1 =
      ((disk.directories root).mapM (disk.select [.name name])).map fun found =>
        found.flatten.eraseDups.mergeSort Path.le := by
  unfold search
  rw [plain.steps_eq]
  simp only [bind, Except.bind, select_anyDepth]
  cases (disk.directories root).mapM (disk.select [.name name]) <;> rfl

theorem nodup_eraseDups {α : Type} [BEq α] [LawfulBEq α] (items : List α) : items.eraseDups.Nodup := by
  induction many : items.length using Nat.strongRecOn generalizing items with
  | ind many ih =>
      cases items with
      | nil => exact List.nodup_nil
      | cons item rest =>
          rw [List.eraseDups_cons, List.nodup_cons]
          subst many
          refine ⟨?_, ih _ (Nat.lt_succ_of_le (List.length_filter_le _ rest)) _ rfl⟩
          rw [List.mem_eraseDups]
          simp

def FitsBelow (disk : Disk) (root : Path) (base : Location) (name : Name) : Prop :=
  ∀ rest, disk.node? (base ++ rest) = some .directory → disk.Fits (descend root (rest ++ [name]))

theorem Rooted.fitsBelow_iff {disk : Disk} {root : Path} {base : Location} (rooted : disk.Rooted root base)
    (name : Name) : disk.FitsBelow root base name ↔ ∀ q ∈ disk.directories root, disk.Fits (q.child name) := by
  constructor
  · intro fits q among
    obtain ⟨rest, rfl, entered⟩ := (rooted.mem_directories q).mp among
    rw [child_descend]
    exact fits rest entered
  · intro all rest entered
    rw [← child_descend]
    exact all _ ((rooted.mem_directories _).mpr ⟨rest, rfl, entered⟩)

theorem fitsBelow_of_sameDirectories {disk other : Disk} (same : SameDirectories disk other)
    (home : other.home = disk.home) (root : Path) (base : Location) (name : Name) :
    other.FitsBelow root base name ↔ disk.FitsBelow root base name := by
  have alike (p : Path) : other.Fits p ↔ disk.Fits p := by simp only [Fits, shown, home]
  simp only [FitsBelow, alike, ← same _]

section Search
variable {disk : Disk} {root : Path} {base : Location} (rooted : disk.Rooted root base) {name : Name}
  (plain : Plain name)
include rooted plain

theorem Rooted.search_fails (long : ¬ FitsBelow disk root base name) :
    ∃ shown, disk.search root name.1 = .error (.os ⟨.nameTooLong, shown⟩) := by
  rw [search_plain disk root plain]
  cases all : (disk.directories root).mapM (disk.select [.name name]) with
  | error failure =>
      obtain ⟨q, among, failed⟩ := error_of_mapM all
      obtain ⟨rest, rfl, entered⟩ := (rooted.mem_directories q).mp among
      rw [select_name, child_descend, rooted.isThere_descend entered plain] at failed
      split at failed
      case isTrue => cases failed
      case isFalse =>
        cases failed
        exact ⟨_, rfl⟩
  | ok found =>
      have told := ((mapM_eq_ok_iff (disk.select_eq_ok_iff name) _ found).mp all).1
      refine absurd (fun rest entered => ?_) long
      obtain ⟨there, looked⟩ := told _ ((rooted.mem_directories _).mpr ⟨rest, rfl, entered⟩)
      rw [child_descend, rooted.isThere_descend entered plain] at looked
      split at looked
      case isTrue fits => exact fits
      case isFalse => cases looked

theorem Rooted.search_answers (fits : FitsBelow disk root base name) :
    ∃ found, disk.search root name.1 = .ok found ∧ found.Nodup ∧ found.Pairwise (fun p q => Path.le p q = true) ∧
      ∀ p, p ∈ found ↔ ∃ above node, p = descend root (above ++ [name]) ∧
        disk.node? (base ++ (above ++ [name])) = some node := by
  have looked {above : List Name} (entered : disk.node? (base ++ above) = some .directory) :
      disk.isThere ((descend root above).child name) = .ok (disk.node? (base ++ (above ++ [name]))).isSome := by
    rw [child_descend, rooted.isThere_descend entered plain, if_pos (fits above entered)]
  have all := (mapM_eq_ok_iff (disk.select_eq_ok_iff name) (disk.directories root) _).mpr ⟨fun q among => by
    obtain ⟨above, rfl, entered⟩ := (rooted.mem_directories q).mp among
    exact ⟨_, looked entered⟩, rfl⟩
  rw [search_plain disk root plain, all]
  refine ⟨_, rfl, (List.mergeSort_perm _ _).nodup_iff.mpr (nodup_eraseDups _),
    List.pairwise_mergeSort Path.le_trans Path.le_total _, fun p => ?_⟩
  rw [List.mem_mergeSort, List.mem_eraseDups, List.mem_flatten]
  constructor
  · rintro ⟨part, among, inside⟩
    obtain ⟨q, listed, rfl⟩ := List.mem_map.mp among
    obtain ⟨above, rfl, entered⟩ := (rooted.mem_directories q).mp listed
    split at inside
    case isFalse => cases inside
    case isTrue there =>
      rw [looked entered] at there
      obtain ⟨node, held⟩ := Option.isSome_iff_exists.mp (Except.ok.inj there)
      exact ⟨above, node, by rw [List.mem_singleton.mp inside, child_descend], held⟩
  · rintro ⟨above, node, rfl, held⟩
    have entered : disk.node? (base ++ above) = some .directory := by
      rw [← List.append_assoc] at held
      exact rooted.tree.above held
    refine ⟨_, List.mem_map.mpr ⟨_, (rooted.mem_directories _).mpr ⟨above, rfl, entered⟩, rfl⟩, ?_⟩
    rw [looked entered, held, child_descend, Option.isSome_some, if_pos rfl]
    exact List.mem_singleton.mpr rfl

theorem Rooted.search_finds (fits : FitsBelow disk root base name) :
    ∃ rests : List (List Name), disk.search root name.1 = .ok (rests.map (descend root)) ∧ rests.Nodup ∧
      rests.Pairwise (fun one other => Path.le (descend root one) (descend root other) = true) ∧
      ∀ rest, rest ∈ rests ↔ rest.getLast? = some name ∧ ∃ node, disk.node? (base ++ rest) = some node := by
  obtain ⟨found, answered, once, ordered, members⟩ := rooted.search_answers plain fits
  obtain ⟨rests, rfl⟩ : found ∈ Set.range (List.map (descend root)) := by
    rw [Set.range_list_map]
    intro p inside
    obtain ⟨above, _, rfl, _⟩ := (members p).mp inside
    exact ⟨above ++ [name], rfl⟩
  refine ⟨rests, answered, List.Nodup.of_map _ once, List.pairwise_map.mp ordered, fun rest => ?_⟩
  have same : rest ∈ rests ↔ descend root rest ∈ rests.map (descend root) := by
    rw [List.mem_map_of_injective fun _ _ => descend_injective]
  rw [same, members]
  constructor
  · rintro ⟨above, node, reached, held⟩
    obtain rfl := descend_injective reached
    exact ⟨by simp, node, held⟩
  · rintro ⟨last, node, held⟩
    obtain ⟨above, rfl⟩ := List.getLast?_eq_some_iff.mp last
    exact ⟨above, node, rfl, held⟩

end Search

end LogtalkNavigation.Disk
