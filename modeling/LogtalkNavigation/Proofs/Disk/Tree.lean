import LogtalkNavigation.Proofs.Disk.Moving

/-! Disks that are trees. Every location has its entry once, in a directory, under a name that can be looked up. So
nothing lies below a file, and whatever lies somewhere has directories above it all the way to the root. -/

namespace LogtalkNavigation.Disk

structure IsTree (disk : Disk) : Prop where
  distinct : (disk.nodes.map Prod.fst).Nodup
  rooted : ∀ entry ∈ disk.nodes, disk.node? entry.1.dropLast = some .directory
  named : ∀ entry ∈ disk.nodes, entry.1 ≠ [] ∧ ∀ name ∈ entry.1, name ≠ Name.up ∧ name.size ≤ maxName ∧ '\x00' ∉ name.1

instance (disk : Disk) : Decidable disk.IsTree :=
  decidable_of_iff
    ((disk.nodes.map Prod.fst).Nodup ∧ (∀ entry ∈ disk.nodes, disk.node? entry.1.dropLast = some .directory) ∧
      ∀ entry ∈ disk.nodes, entry.1 ≠ [] ∧ ∀ name ∈ entry.1, name ≠ Name.up ∧ name.size ≤ maxName ∧ '\x00' ∉ name.1)
    ⟨fun ⟨distinct, rooted, named⟩ => ⟨distinct, rooted, named⟩, fun tree => ⟨tree.distinct, tree.rooted, tree.named⟩⟩

theorem mem_of_node? {disk : Disk} {place : Location} {node : Node} (there : disk.node? place = some node)
    (below : place ≠ []) : (place, node) ∈ disk.nodes := by
  rw [node?_below disk place below, List.lookup_eq_some_iff] at there
  obtain ⟨front, back, split, _⟩ := there
  simp [split]

theorem lookup_of_mem {nodes : List (Location × Node)} {place : Location} {node : Node}
    (distinct : (nodes.map Prod.fst).Nodup) (listed : (place, node) ∈ nodes) : nodes.lookup place = some node := by
  induction nodes with
  | nil => cases listed
  | cons entry rest ih =>
      obtain ⟨spot, first⟩ := entry
      rw [List.map_cons, List.nodup_cons] at distinct
      rcases List.mem_cons.mp listed with same | later
      · cases same
        simp
      · have past : place ≠ spot := fun same => distinct.1 (same ▸ List.mem_map.mpr ⟨_, later, rfl⟩)
        rw [lookup_past rest spot place first past]
        exact ih distinct.2 later

section Tree
variable {disk : Disk} (tree : disk.IsTree)
include tree

theorem IsTree.above {place : Location} {name : Name} {node : Node} (there : disk.node? (place ++ [name]) = some node) :
    disk.node? place = some .directory := by
  have directory := tree.rooted _ (mem_of_node? there (by simp))
  rwa [List.dropLast_concat] at directory

-- What is no directory has nothing in it, so that is no directory either, and so on down.
theorem IsTree.alone {place : Location} (plain : disk.node? place ≠ some .directory) (rest : List Name)
    (further : rest ≠ []) : disk.node? (place ++ rest) = none := by
  induction rest generalizing place with
  | nil => exact absurd rfl further
  | cons name more ih =>
      have next : disk.node? (place ++ [name]) = none := by
        cases there : disk.node? (place ++ [name]) with
        | none => rfl
        | some node => exact absurd (tree.above there) plain
      cases more with
      | nil => exact next
      | cons second more =>
          rw [List.append_cons]
          exact ih (by rw [next]; nofun) (by simp)

theorem IsTree.directory_dropLast {place : Location} (entered : disk.node? place = some .directory) :
    disk.node? place.dropLast = some .directory := by
  by_cases top : place = []
  · rw [top]
    rfl
  · exact tree.rooted _ (mem_of_node? entered top)

theorem IsTree.node?_of_mem {place : Location} {node : Node} (listed : (place, node) ∈ disk.nodes) :
    disk.node? place = some node := by
  rw [node?_below disk place (tree.named _ listed).1]
  exact lookup_of_mem tree.distinct listed

-- All that lies above something is a directory.
theorem IsTree.directory_of_below {place : Location} {rest : List Name} {node : Node} (further : rest ≠ [])
    (there : disk.node? (place ++ rest) = some node) : disk.node? place = some .directory := by
  by_cases directory : disk.node? place = some .directory
  · exact directory
  · rw [tree.alone directory rest further] at there
    cases there

theorem IsTree.name_of_mem {place : Location} {node : Node} (there : disk.node? place = some node) {name : Name}
    (inside : name ∈ place) : name ≠ Name.up ∧ name.size ≤ maxName ∧ '\x00' ∉ name.1 :=
  (tree.named _ (mem_of_node? there (List.ne_nil_of_mem inside))).2 name inside

theorem IsTree.walk_down (place : Location) (rest : List Name)
    (entered : disk.node? (place ++ rest) = some .directory) :
    disk.walk place rest = .ok (place ++ rest) := by
  induction rest generalizing place with
  | nil => rw [walk, List.append_nil]
  | cons name more ih =>
      have here := tree.directory_of_below (by simp) entered
      obtain ⟨proper, short, _⟩ := tree.name_of_mem entered (by simp : name ∈ place ++ name :: more)
      rw [List.append_cons] at entered
      rw [walk, here]
      dsimp only
      rw [if_neg (Nat.not_lt.mpr short), if_neg proper, ih _ entered, ← List.append_cons]

end Tree

theorem node?_of_nodes {disk other : Disk} (same : other.nodes = disk.nodes) (place : Location) :
    other.node? place = disk.node? place := by
  simp only [node?, same]

theorem IsTree.of_nodes {disk other : Disk} (tree : disk.IsTree) (same : other.nodes = disk.nodes) : other.IsTree := by
  refine ⟨same ▸ tree.distinct, fun entry listed => ?_, fun entry listed => tree.named entry (same ▸ listed)⟩
  rw [node?_of_nodes same]
  exact tree.rooted entry (same ▸ listed)

def without (disk : Disk) (gone : List Location) : Disk :=
  { disk with nodes := disk.nodes.filter fun (spot, _) => spot ∉ gone }

@[simp] theorem without_nil (disk : Disk) : disk.without [] = disk := by
  rw [without, List.filter_eq_self.mpr (by simp)]

theorem without_append (disk : Disk) (gone more : List Location) :
    (disk.without gone).without more = disk.without (gone ++ more) := by
  simp [without, List.filter_filter, Bool.and_comm]

theorem erase_eq_without (disk : Disk) (place : Location) : disk.erase place = disk.without [place] := by
  simp [erase, without]

section Without
variable {disk : Disk} {gone : List Location} (files : ∀ place ∈ gone, disk.node? place ≠ some .directory)
include files

theorem node?_without (other : Location) :
    (disk.without gone).node? other = if other ∈ gone then none else disk.node? other := by
  induction gone generalizing disk with
  | nil => simp
  | cons place more ih =>
      have below := below_of_no_directory disk place (files place List.mem_cons_self)
      have still : ∀ spot ∈ more, (disk.erase place).node? spot ≠ some .directory := by
        intro spot inside
        rw [node?_erase disk place spot below]
        split
        · nofun
        · exact files spot (List.mem_cons_of_mem place inside)
      rw [← List.singleton_append, ← without_append, ← erase_eq_without, ih still, node?_erase disk place other below]
      by_cases here : other = place <;> by_cases later : other ∈ more <;> simp [here, later]

theorem sameDirectories_without : SameDirectories disk (disk.without gone) := by
  intro other
  rw [node?_without files]
  by_cases taken : other ∈ gone
  · rw [if_pos taken]
    exact iff_of_false (files other taken) nofun
  · rw [if_neg taken]

theorem IsTree.without (tree : disk.IsTree) : (disk.without gone).IsTree := by
  refine ⟨tree.distinct.sublist (List.filter_sublist.map _), fun entry listed => ?_, fun entry listed => ?_⟩
  · exact (sameDirectories_without files _).mp (tree.rooted entry (List.mem_filter.mp listed).1)
  · exact tree.named entry (List.mem_filter.mp listed).1

end Without

end LogtalkNavigation.Disk
