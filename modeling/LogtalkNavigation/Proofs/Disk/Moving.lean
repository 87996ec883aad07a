import LogtalkNavigation.Proofs.Disk.Frame

/-! One file is put, moved or taken away. A disk after that is told apart from the disk before by one
location alone. A rename within a directory fails for no other reason than the length of the new name. -/

namespace LogtalkNavigation.Disk

-- The disk has become another one, which has `node` at the place and all else as before.
structure Becomes (disk after : Disk) (place : Location) (node : Option Node) : Prop where
  faults : after.faults = disk.faults
  home : after.home = disk.home
  nodes : ∀ other, after.node? other = if other = place then node else disk.node? other

theorem Becomes.here {disk after : Disk} {place : Location} {node : Option Node}
    (becomes : Becomes disk after place node) : after.node? place = node := by
  rw [becomes.nodes, if_pos rfl]

theorem Becomes.away {disk after : Disk} {place other : Location} {node : Option Node}
    (becomes : Becomes disk after place node) (apart : other ≠ place) :
    after.node? other = disk.node? other := by
  rw [becomes.nodes, if_neg apart]

theorem Becomes.same (disk : Disk) (place : Location) : Becomes disk disk place (disk.node? place) := by
  refine ⟨rfl, rfl, fun other => ?_⟩
  by_cases here : other = place
  · rw [if_pos here, here]
  · rw [if_neg here]

theorem becomes_set (disk : Disk) (place : Location) (node : Node) (below : place ≠ []) :
    Becomes disk (disk.set place node) place (some node) :=
  ⟨set_faults disk place node, set_home disk place node, fun other => node?_set disk place other node below⟩

theorem becomes_erase (disk : Disk) (place : Location) (below : place ≠ []) :
    Becomes disk (disk.erase place) place none :=
  ⟨rfl, rfl, fun other => node?_erase disk place other below⟩

theorem Becomes.sameDirectories {disk after : Disk} {place : Location} {node : Option Node}
    (becomes : Becomes disk after place node) (plain : disk.node? place ≠ some .directory)
    (file : node ≠ some .directory) : SameDirectories disk after := by
  intro other
  rw [becomes.nodes]
  by_cases here : other = place
  · subst here
    rw [if_pos rfl]
    exact iff_of_false plain file
  · rw [if_neg here]

theorem sameDirectories_symm {disk other : Disk} (same : SameDirectories disk other) : SameDirectories other disk :=
  fun place => (same place).symm

-- Where a file goes, no path leads to anything new.
theorem Becomes.nodeAt?_eq_none {disk after : Disk} {place : Location} (becomes : Becomes disk after place none)
    (plain : disk.node? place ≠ some .directory) {p : Path} (free : disk.nodeAt? p = none) :
    after.nodeAt? p = none := by
  have same := becomes.sameDirectories plain nofun
  cases located : after.locate p with
  | error code => simp only [nodeAt?, located]
  | ok spot =>
      have before := locate_of_sameDirectories (sameDirectories_symm same) becomes.home.symm located
      simp only [nodeAt?, before] at free
      simp only [nodeAt?, located, becomes.nodes, free, ite_self]

def content? (disk : Disk) (place : Location) : Option (List UInt8) :=
  match disk.node? place with
  | some (.file content) => some content
  | _ => none

theorem content?_eq_some_iff {disk : Disk} {place : Location} {content : List UInt8} :
    disk.content? place = some content ↔ disk.node? place = some (.file content) := by
  unfold content?
  cases disk.node? place with
  | none => simp
  | some node => cases node <;> simp

theorem isFile_eq_of_leads {disk : Disk} {p : Path} {place : Location} (leads : disk.Leads p place) :
    disk.isFile p = .ok (disk.content? place).isSome := by
  rw [isFile, stat_of_leads leads]
  unfold content?
  cases disk.node? place with
  | none => rfl
  | some node => cases node <;> rfl

-- Where nothing lies below the source, of the entries only those at the source itself are moved.
theorem lookup_moved (nodes : List (Location × Node)) (source target other : Location)
    (lone : ∀ entry ∈ nodes, source.isPrefixOf entry.1 = true → entry.1 = source)
    (free : ∀ entry ∈ nodes, entry.1 ≠ target) (apart : source ≠ target) :
    (nodes.map fun (place, node) =>
      if source.isPrefixOf place then (target ++ place.drop source.length, node)
      else (place, node)).lookup other =
      if other = target then nodes.lookup source
      else if other = source then none else nodes.lookup other := by
  induction nodes with
  | nil => simp
  | cons entry rest ih =>
      obtain ⟨spot, node⟩ := entry
      have later := ih (fun entry inside => lone entry (List.mem_cons_of_mem _ inside))
        (fun entry inside => free entry (List.mem_cons_of_mem _ inside))
      have elsewhere : spot ≠ target := free (spot, node) List.mem_cons_self
      by_cases moved : source.isPrefixOf spot = true
      · have here : spot = source := lone (spot, node) List.mem_cons_self moved
        subst here
        rw [List.map_cons]
        dsimp only
        rw [if_pos moved, List.drop_length, List.append_nil]
        by_cases arrived : other = target
        · simp [arrived]
        · rw [lookup_past _ target other node arrived, later, if_neg arrived, if_neg arrived]
          by_cases left : other = spot
          · rw [if_pos left, if_pos left]
          · rw [if_neg left, if_neg left, lookup_past rest spot other node left]
      · have past : source ≠ spot := by
          rintro rfl
          exact moved (by simp)
        rw [List.map_cons]
        dsimp only
        rw [if_neg moved, lookup_past rest spot source node past]
        by_cases here : other = spot
        · subst here
          simp [elsewhere, Ne.symm past]
        · rw [lookup_past _ spot other node here, later, lookup_past rest spot other node here]

theorem node?_move (disk : Disk) (source target other : Location) (apart : source ≠ target)
    (top : source ≠ []) (below : target ≠ [])
    (alone : ∀ rest, rest ≠ [] → disk.node? (source ++ rest) = none) :
    (disk.move source target).node? other =
      if other = target then disk.node? source
      else if other = source then none else disk.node? other := by
  have lone : ∀ entry ∈ (disk.erase target).nodes,
      source.isPrefixOf entry.1 = true → entry.1 = source := by
    intro entry inside under
    obtain ⟨rest, extends_⟩ := List.isPrefixOf_iff_prefix.mp under
    cases rest with
    | nil => rw [← extends_, List.append_nil]
    | cons name rest =>
        have empty := alone (name :: rest) (by simp)
        rw [extends_, node?_below _ _ (by simp [← extends_])] at empty
        have listed := (List.mem_filter.mp inside).1
        simpa using List.lookup_eq_none_iff.mp empty entry listed
  have free : ∀ entry ∈ (disk.erase target).nodes, entry.1 ≠ target := by
    intro entry inside
    simpa using (List.mem_filter.mp inside).2
  by_cases root : other = []
  · subst root
    simp [node?, Ne.symm below, Ne.symm top]
  · rw [node?_below _ other root, node?_below _ other root, node?_below _ source top]
    have moved := lookup_moved (disk.erase target).nodes source target other lone free apart
    have kept (place : Location) : (disk.erase target).nodes.lookup place =
        if place = target then none else disk.nodes.lookup place := lookup_kept disk.nodes target place
    rw [kept, kept, if_neg apart] at moved
    refine moved.trans ?_
    by_cases arrived : other = target
    · rw [if_pos arrived, if_pos arrived]
    · rw [if_neg arrived, if_neg arrived, if_neg arrived]

section Spare

variable {disk : Disk} {source target : Location} {content : List UInt8} (top : source ≠ [])
  (file : disk.node? source = some (.file content))
  (alone : ∀ rest, rest ≠ [] → disk.node? (source ++ rest) = none)
  (below : target ≠ []) (free : disk.node? target = none)
include top file alone below free

theorem node?_move_spare (other : Location) : (disk.move source target).node? other =
    if other = target then some (.file content)
    else if other = source then none else disk.node? other := by
  have apart : source ≠ target := by
    rintro rfl
    rw [file] at free
    cases free
  rw [node?_move disk source target other apart top below alone, file]

theorem sameDirectories_move : SameDirectories disk (disk.move source target) := by
  intro other
  rw [node?_move_spare top file alone below free other]
  by_cases arrived : other = target
  · rw [if_pos arrived, arrived, free]
    simp
  · rw [if_neg arrived]
    by_cases left : other = source
    · rw [if_pos left, left, file]
      simp
    · rw [if_neg left]

-- Moved to a place that was free and taken away from there, the file has only gone.
theorem becomes_move_erase : Becomes disk ((disk.move source target).erase target) source none := by
  refine ⟨rfl, rfl, fun other => ?_⟩
  rw [node?_erase _ target other below, node?_move_spare top file alone below free other]
  by_cases arrived : other = target
  · rw [if_pos arrived, arrived, free, ite_self]
  · rw [if_neg arrived, if_neg arrived]

end Spare

theorem rename_of_allowed {disk : Disk} {source target : Path} {place : Location}
    (movable : source.text ∉ disk.faults.renameDenied) (leads : Leads disk source place)
    (clean : '\x00' ∉ target.text) (named : source.name? ≠ some Name.up) (below : place ≠ []) :
    disk.rename source target =
      if (disk.node? place).isNone then .error (disk.failure .notFound [source, target])
      else match disk.locate target with
        | .ok spot => .ok (disk.move place spot)
        | .error code => .error (disk.failure code [source, target]) := by
  have allowed : allow disk.faults.renameDenied [source, target] = .ok () := by simp [allow, movable]
  have both : ∀ q ∈ [source, target], '\x00' ∉ q.text := by simp [leads.clean, clean]
  have found : disk.find source [source, target] = .ok place := by
    rw [disk.find_of_clean source both, leads.located]
    rfl
  have sought := disk.find_of_clean target both
  unfold rename
  simp only [allowed, found, sought, named, below, or_self, ↓reduceIte, bind, Except.bind]
  split
  · rfl
  · cases disk.locate target <;> rfl

theorem rename_of_leads {disk : Disk} {source target : Path} {place : Location} (sound : disk.faults = {})
    (leads : Leads disk source place) (clean : '\x00' ∉ target.text)
    (named : source.name? ≠ some Name.up) (below : place ≠ []) :
    disk.rename source target =
      if (disk.node? place).isNone then .error (disk.failure .notFound [source, target])
      else match disk.locate target with
        | .ok spot => .ok (disk.move place spot)
        | .error code => .error (disk.failure code [source, target]) :=
  rename_of_allowed (by simp [sound]) leads clean named below

theorem rename_denied {disk : Disk} {source : Path} (denied : source.text ∈ disk.faults.renameDenied)
    (target : Path) : disk.rename source target = .error (.os ⟨.denied, [source.text, target.text]⟩) := by
  have refused : allow disk.faults.renameDenied [source, target] =
      .error (.os ⟨.denied, [source.text, target.text]⟩) := by
    simp [allow, denied]
  unfold rename
  simp only [refused]
  rfl

theorem leads_of_rename {disk after : Disk} {source target : Path} (renamed : disk.rename source target = .ok after) :
    ∃ place spot node, Leads disk source place ∧ Leads disk target spot ∧ place ≠ [] ∧
      disk.node? place = some node ∧ after = disk.move place spot := by
  unfold rename at renamed
  dsimp only at renamed
  cases allowed : allow disk.faults.renameDenied [source, target] with
  | error failure => rw [allowed] at renamed; cases renamed
  | ok _ =>
      cases found : disk.find source [source, target] with
      | error failure => rw [allowed, found] at renamed; cases renamed
      | ok place =>
          rw [allowed, found] at renamed
          simp only [bind, Except.bind, pure, Except.pure] at renamed
          obtain ⟨clean, located⟩ := find_eq_ok_iff.mp found
          split at renamed
          case isTrue => cases renamed
          case isFalse calm =>
            split at renamed
            case isTrue => cases renamed
            case isFalse there =>
              cases sought : disk.find target [source, target] with
              | error failure => rw [sought] at renamed; cases renamed
              | ok spot =>
                  rw [sought] at renamed
                  cases held : disk.node? place with
                  | none => exact absurd (by rw [held]; rfl) there
                  | some node =>
                      exact ⟨place, spot, node, ⟨clean source (by simp), located⟩,
                        ⟨clean target (by simp), (find_eq_ok_iff.mp sought).2⟩, fun top => calm (.inr top), held,
                        (Except.ok.inj renamed).symm⟩

theorem walk_append (disk : Disk) (place middle : Location) (front back : List Name)
    (first : disk.walk place front = .ok middle) :
    disk.walk place (front ++ back) = disk.walk middle back := by
  induction front generalizing place with
  | nil =>
      cases first
      rfl
  | cons name rest ih =>
      rw [walk] at first
      rw [List.cons_append, walk]
      split at first
      case h_1 => cases first
      case h_2 => cases first
      case h_3 entered =>
        split at first
        case isTrue => cases first
        case isFalse short =>
          rw [if_neg short]
          exact ih _ first

theorem walk_name (disk : Disk) (place : Location) (name : Name) (entered : disk.node? place = some .directory) :
    disk.walk place [name] =
      if maxName < name.size then .error .nameTooLong
      else .ok (if name = Name.up then place.dropLast else place ++ [name]) := by
  rw [walk, entered]
  rfl

-- The last name is looked up in a directory.
theorem walk_concat {disk : Disk} {place target : Location} {names : List Name} {name : Name}
    (leads : disk.walk place (names ++ [name]) = .ok target) :
    ∃ above, disk.walk place names = .ok above ∧ disk.node? above = some .directory ∧
      target = if name = Name.up then above.dropLast else above ++ [name] := by
  induction names generalizing place with
  | nil =>
      rw [List.nil_append, walk] at leads
      split at leads
      case h_1 => cases leads
      case h_2 => cases leads
      case h_3 entered =>
        split at leads
        case isTrue => cases leads
        case isFalse =>
          cases leads
          exact ⟨place, rfl, entered, rfl⟩
  | cons first rest ih =>
      rw [List.cons_append, walk] at leads
      split at leads
      case h_1 => cases leads
      case h_2 => cases leads
      case h_3 entered =>
        split at leads
        case isTrue => cases leads
        case isFalse short =>
          obtain ⟨above, walked, directory, reached⟩ := ih leads
          refine ⟨above, ?_, directory, reached⟩
          rw [walk, entered]
          simp only [short, ↓reduceIte]
          exact walked

theorem absolute_child (disk : Disk) (root : Path) (name : Name) :
    (disk.absolute (root.child name)).names = (disk.absolute root).names ++ [name] := by
  unfold absolute
  by_cases absolute : root.isAbsolute = true
  · have still : (root.child name).isAbsolute = true := absolute
    rw [if_pos absolute, if_pos still]
    rfl
  · have still : ¬ (root.child name).isAbsolute = true := absolute
    rw [if_neg absolute, if_neg still]
    exact (List.append_assoc _ _ _).symm

theorem walk_of_locate {disk : Disk} {p : Path} {place : Location} (located : disk.locate p = .ok place) :
    disk.walk [] (disk.absolute p).names = .ok place := by
  unfold locate at located
  split at located
  case isTrue => cases located
  case isFalse => exact located

theorem locate_concat {disk : Disk} {root : Path} {name : Name} {place : Location}
    (located : disk.locate (root.child name) = .ok place) :
    ∃ base, disk.walk [] (disk.absolute root).names = .ok base ∧ disk.node? base = some .directory ∧
      place = if name = Name.up then base.dropLast else base ++ [name] := by
  have walked := walk_of_locate located
  rw [absolute_child] at walked
  exact walk_concat walked

theorem Leads.above {disk : Disk} {root : Path} {name : Name} {place : Location}
    (leads : Leads disk (root.child name) place) (plain : name ≠ Name.up) :
    ∃ base, disk.walk [] (disk.absolute root).names = .ok base ∧
      disk.node? base = some .directory ∧ place = base ++ [name] := by
  obtain ⟨base, walked, entered, reached⟩ := locate_concat leads.located
  rw [if_neg plain] at reached
  exact ⟨base, walked, entered, reached⟩

theorem locate_child {disk : Disk} {root : Path} {base : Location} {name : Name}
    (walked : disk.walk [] (disk.absolute root).names = .ok base)
    (entered : disk.node? base = some .directory) (plain : name ≠ Name.up) :
    disk.locate (root.child name) = .ok (base ++ [name]) ∨
      disk.locate (root.child name) = .error .nameTooLong := by
  unfold locate
  split
  case isTrue => exact .inr rfl
  case isFalse =>
    rw [absolute_child, walk_append disk [] base _ _ walked, walk_name disk base name entered, if_neg plain]
    split
    case isTrue => exact .inr rfl
    case isFalse => exact .inl rfl

theorem directory_of_walk {disk : Disk} {place base : Location} {names : List Name}
    (walked : disk.walk place names = .ok base) (entered : disk.node? base = some .directory) :
    disk.node? place = some .directory := by
  cases names with
  | nil =>
      cases walked
      exact entered
  | cons name rest =>
      rw [walk] at walked
      split at walked
      case h_1 => cases walked
      case h_2 => cases walked
      case h_3 here => exact here

-- No directory is missing on the way that a walk takes.
theorem enter_of_walk {disk : Disk} {place base : Location} {names : List Name}
    (walked : disk.walk place names = .ok base) (entered : disk.node? base = some .directory) :
    disk.enter place names = (disk, base) := by
  induction names generalizing place with
  | nil =>
      cases walked
      rfl
  | cons name rest ih =>
      have here := directory_of_walk walked entered
      rw [walk, here] at walked
      dsimp only at walked
      split at walked
      case isTrue => cases walked
      case isFalse =>
        rw [enter]
        by_cases up : name = Name.up
        · rw [if_pos up] at walked
          rw [if_pos up]
          exact ih walked
        · rw [if_neg up] at walked
          have next := directory_of_walk walked entered
          rw [if_neg up]
          simp only [next, Option.isSome_some, ↓reduceIte]
          exact ih walked

theorem put_child {disk : Disk} {root : Path} {name : Name} {place : Location}
    (leads : Leads disk (root.child name) place) (plain : name ≠ Name.up) (content : List UInt8) :
    disk.put (root.child name) content = disk.set place (.file content) := by
  obtain ⟨base, walked, entered, rfl⟩ := leads.above plain
  have last : (disk.absolute (root.child name)).name? = some name := by
    rw [Path.name?, absolute_child, List.getLast?_concat]
  have front : (disk.absolute (root.child name)).parent.names = (disk.absolute root).names := by
    rw [Path.parent, absolute_child, List.dropLast_concat]
  unfold put
  dsimp only
  rw [last, front, enter_of_walk walked entered]

end LogtalkNavigation.Disk
