import LogtalkNavigation.Disk.Access

/-! What the calls on files change and what they leave. A call on a file changes what is at one location
and no directory, so every path leads where it led before. -/

namespace LogtalkNavigation.Disk

theorem lookup_past (nodes : List (Location × Node)) (spot other : Location) (old : Node)
    (past : other ≠ spot) : ((spot, old) :: nodes).lookup other = nodes.lookup other := by
  have away : (other == spot) = false := beq_eq_false_iff_ne.mpr past
  rw [List.lookup_cons, away]

theorem lookup_replaced (nodes : List (Location × Node)) (place other : Location) (node : Node) :
    (nodes.map fun (spot, old) => if spot = place then (spot, node) else (spot, old)).lookup other =
      if other = place then (nodes.lookup other).map fun _ => node else nodes.lookup other := by
  induction nodes with
  | nil => simp
  | cons entry rest ih =>
      obtain ⟨spot, old⟩ := entry
      by_cases here : other = spot
      · subst here
        by_cases same : other = place <;> simp [same]
      · rw [List.map_cons, lookup_past rest spot other old here, ← ih]
        dsimp only
        by_cases replaced : spot = place
        · rw [if_pos replaced]
          exact lookup_past _ spot other node here
        · rw [if_neg replaced]
          exact lookup_past _ spot other old here

theorem lookup_kept (nodes : List (Location × Node)) (place other : Location) :
    (nodes.filter fun (spot, _) => spot ≠ place).lookup other =
      if other = place then none else nodes.lookup other := by
  induction nodes with
  | nil => simp
  | cons entry rest ih =>
      obtain ⟨spot, old⟩ := entry
      by_cases gone : spot = place
      · subst gone
        rw [List.filter_cons_of_neg (by simp), ih]
        by_cases same : other = spot
        · simp [same]
        · rw [lookup_past rest spot other old same]
      · rw [List.filter_cons_of_pos (by simpa using gone)]
        by_cases here : other = spot
        · subst here
          simp [gone]
        · rw [lookup_past _ spot other old here, lookup_past _ spot other old here, ih]

theorem lookup_isSome (nodes : List (Location × Node)) (place : Location) :
    (nodes.lookup place).isSome = nodes.any fun (spot, _) => spot = place := by
  induction nodes with
  | nil => rfl
  | cons entry rest ih =>
      obtain ⟨spot, old⟩ := entry
      by_cases here : place = spot
      · simp [here]
      · rw [lookup_past rest spot place old here, ih]
        simp [Ne.symm here]

theorem node?_below (disk : Disk) (place : Location) (below : place ≠ []) :
    disk.node? place = disk.nodes.lookup place := by
  simp [node?, below]

theorem node?_set (disk : Disk) (place other : Location) (node : Node) (below : place ≠ []) :
    (disk.set place node).node? other = if other = place then some node else disk.node? other := by
  by_cases top : other = []
  · simp [node?, top, Ne.symm below]
  rw [node?_below _ other top, node?_below _ other top]
  have known := lookup_isSome disk.nodes place
  unfold set
  split
  case isTrue there =>
    rw [there] at known
    rw [lookup_replaced]
    by_cases same : other = place
    · subst same
      obtain ⟨old, found⟩ := Option.isSome_iff_exists.mp known
      simp [found]
    · simp [same]
  case isFalse missing =>
    rw [List.lookup_append]
    by_cases same : other = place
    · subst same
      have absent : disk.nodes.lookup other = none := by
        rw [← Option.not_isSome_iff_eq_none, known]
        exact missing
      simp [absent]
    · rw [lookup_past [] place other node same]
      simp [same]

theorem node?_erase (disk : Disk) (place other : Location) (below : place ≠ []) :
    (disk.erase place).node? other = if other = place then none else disk.node? other := by
  by_cases top : other = []
  · simp [node?, top, Ne.symm below]
  · rw [node?_below _ other top, node?_below _ other top]
    exact lookup_kept disk.nodes place other

-- The two disks have their directories at the same locations.
def SameDirectories (disk other : Disk) : Prop :=
  ∀ place, disk.node? place = some .directory ↔ other.node? place = some .directory

theorem below_of_no_directory (disk : Disk) (place : Location)
    (plain : disk.node? place ≠ some .directory) : place ≠ [] := by
  rintro rfl
  exact plain rfl

-- Names are looked up in directories alone.
theorem walk_of_sameDirectories {disk other : Disk} (same : SameDirectories disk other)
    (place target : Location) (names : List Name) (leads : disk.walk place names = .ok target) :
    other.walk place names = .ok target := by
  induction names generalizing place with
  | nil => exact leads
  | cons name rest ih =>
      rw [walk] at leads
      split at leads
      case h_1 => cases leads
      case h_2 => cases leads
      case h_3 entered =>
        split at leads
        case isTrue => cases leads
        case isFalse short =>
          rw [walk, (same place).mp entered]
          simp only [short, ↓reduceIte]
          exact ih _ leads

structure Leads (disk : Disk) (p : Path) (place : Location) : Prop where
  clean : '\x00' ∉ p.text
  located : disk.locate p = .ok place

theorem locate_of_sameDirectories {disk other : Disk} {p : Path} {place : Location}
    (same : SameDirectories disk other) (home : other.home = disk.home) (located : disk.locate p = .ok place) :
    other.locate p = .ok place := by
  have shown : other.shown p = disk.shown p := by simp only [Disk.shown, home]
  have absolute : other.absolute p = disk.absolute p := by simp only [Disk.absolute, home]
  unfold locate at located ⊢
  rw [shown, absolute]
  split at located
  case isTrue => cases located
  case isFalse short =>
    rw [if_neg short]
    exact walk_of_sameDirectories same _ _ _ located

theorem Leads.kept {disk other : Disk} {p : Path} {place : Location} (leads : Leads disk p place)
    (same : SameDirectories disk other) (home : other.home = disk.home) : Leads other p place :=
  ⟨leads.clean, locate_of_sameDirectories same home leads.located⟩

theorem find_of_clean (disk : Disk) (p : Path) {paths : List Path}
    (clean : ∀ q ∈ paths, '\x00' ∉ q.text) :
    disk.find p paths = (disk.locate p).mapError (disk.failure · paths) := by
  have none : (paths.any fun q => q.text.contains '\x00') = false := by simpa using clean
  rw [find, none, if_neg Bool.false_ne_true]

theorem find_of_leads {disk : Disk} {p : Path} {place : Location} (leads : Leads disk p place) :
    disk.find p [p] = .ok place := by
  rw [disk.find_of_clean p (by simpa using leads.clean), leads.located]
  rfl

/-- The disk does not refuse to remove what is at a path. -/
def Willing (disk : Disk) (p : Path) : Prop :=
  p.text ∉ disk.faults.unlinkDenied ∧ p.text ∉ disk.faults.vanished

theorem unlink_of_willing {disk : Disk} {p : Path} {place : Location} (willing : disk.Willing p)
    (leads : Leads disk p place) : disk.unlink p =
      match disk.node? place with
      | none => .error (disk.failure .notFound [p])
      | some .directory => .error (disk.failure .isDirectory [p])
      | some (.file _) => .ok (disk.erase place) := by
  have allowed : allow disk.faults.unlinkDenied [p] = .ok () := by simp [allow, willing.1]
  simp only [unlink, allowed, List.contains_eq_mem, willing.2, find_of_leads leads]
  rfl

theorem read_of_allowed {disk : Disk} {p : Path} {place : Location} (readable : p.text ∉ disk.faults.openDenied)
    (leads : Leads disk p place) : disk.read p =
      match disk.node? place with
      | none => .error (disk.failure .notFound [p])
      | some .directory => .error (disk.failure .isDirectory [p])
      | some (.file content) => .ok content := by
  have allowed : allow disk.faults.openDenied [p] = .ok () := by simp [allow, readable]
  simp only [read, allowed, find_of_leads leads]
  rfl

section Sound

variable {disk : Disk} {p : Path} {place : Location} (sound : disk.faults = {})
  (leads : Leads disk p place)
include sound leads

theorem read_of_leads : disk.read p =
    match disk.node? place with
    | none => .error (disk.failure .notFound [p])
    | some .directory => .error (disk.failure .isDirectory [p])
    | some (.file content) => .ok content :=
  read_of_allowed (by simp [sound]) leads

theorem write_of_leads (content : List UInt8) (plain : disk.node? place ≠ some .directory) :
    disk.write p content = .ok (disk.set place (.file content)) := by
  simp only [write, allow, sound, find_of_leads leads]
  cases found : disk.node? place with
  | none => simp [bind, Except.bind, found]
  | some node =>
      cases node with
      | directory => exact absurd found plain
      | file old => simp [bind, Except.bind, found]

theorem unlink_of_leads : disk.unlink p =
    match disk.node? place with
    | none => .error (disk.failure .notFound [p])
    | some .directory => .error (disk.failure .isDirectory [p])
    | some (.file _) => .ok (disk.erase place) :=
  unlink_of_willing (by simp [Willing, sound]) leads

end Sound

@[simp] theorem set_faults (disk : Disk) (place : Location) (node : Node) :
    (disk.set place node).faults = disk.faults := by
  unfold set
  split <;> rfl

@[simp] theorem set_home (disk : Disk) (place : Location) (node : Node) :
    (disk.set place node).home = disk.home := by
  unfold set
  split <;> rfl

theorem enter_faults (disk : Disk) (place : Location) (names : List Name) :
    (disk.enter place names).1.faults = disk.faults := by
  induction names generalizing disk place with
  | nil => rfl
  | cons name rest ih =>
      rw [enter]
      split
      · exact ih _ _
      · dsimp only
        rw [ih]
        split
        · rfl
        · exact set_faults _ _ _

theorem put_faults (disk : Disk) (p : Path) (content : List UInt8) :
    (disk.put p content).faults = disk.faults := by
  unfold put
  dsimp only
  split
  · rfl
  · rw [set_faults, enter_faults]

theorem puts_faults (files : List (Path × List UInt8)) (disk : Disk) :
    (files.foldl (fun disk (p, content) => disk.put p content) disk).faults = disk.faults := by
  induction files generalizing disk with
  | nil => rfl
  | cons file rest ih => rw [List.foldl_cons, ih, put_faults]

theorem find_eq_ok_iff {disk : Disk} {p : Path} {paths : List Path} {place : Location} :
    disk.find p paths = .ok place ↔ (∀ q ∈ paths, '\x00' ∉ q.text) ∧ disk.locate p = .ok place := by
  by_cases clean : ∀ q ∈ paths, '\x00' ∉ q.text
  · rw [disk.find_of_clean p clean, and_iff_right clean]
    cases disk.locate p with
    | error code => exact ⟨fun found => (by cases found), fun located => (by cases located)⟩
    | ok spot => exact ⟨fun found => (by cases found; rfl), fun located => (by cases located; rfl)⟩
  · have nul : (paths.any fun q => q.text.contains '\x00') = true := by simpa using clean
    rw [find, if_pos nul]
    exact iff_of_false (by simp) fun found => clean found.1

theorem leads_of_find {disk : Disk} {p : Path} {place : Location}
    (found : disk.find p [p] = .ok place) : Leads disk p place := by
  obtain ⟨clean, located⟩ := find_eq_ok_iff.mp found
  exact ⟨clean p List.mem_cons_self, located⟩

theorem leads_of_unlink {disk after : Disk} {p : Path} (removed : disk.unlink p = .ok after) :
    ∃ place content, Leads disk p place ∧ disk.node? place = some (.file content) ∧
      after = disk.erase place := by
  unfold unlink at removed
  cases allowed : allow disk.faults.unlinkDenied [p] with
  | error failure => rw [allowed] at removed; cases removed
  | ok _ =>
      rw [allowed] at removed
      cases gone : disk.faults.vanished.contains p.text with
      | true => rw [gone] at removed; cases removed
      | false =>
          rw [gone] at removed
          cases found : disk.find p [p] with
          | error failure => rw [found] at removed; cases removed
          | ok place =>
              rw [found] at removed
              simp only [bind, Except.bind, Bool.false_eq_true, ↓reduceIte] at removed
              split at removed
              case h_1 => cases removed
              case h_2 => cases removed
              case h_3 content file =>
                cases removed
                exact ⟨place, content, leads_of_find found, file, rfl⟩

theorem leads_of_read {disk : Disk} {p : Path} {content : List UInt8}
    (there : disk.read p = .ok content) :
    ∃ place, Leads disk p place ∧ disk.node? place = some (.file content) := by
  unfold read at there
  cases allowed : allow disk.faults.openDenied [p] with
  | error failure => rw [allowed] at there; cases there
  | ok _ =>
      cases found : disk.find p [p] with
      | error failure => rw [allowed, found] at there; cases there
      | ok place =>
          refine ⟨place, leads_of_find found, ?_⟩
          rw [allowed, found] at there
          simp only [bind, Except.bind] at there
          split at there
          case h_1 => cases there
          case h_2 => cases there
          case h_3 held => cases there; exact held

theorem stat_of_leads {disk : Disk} {p : Path} {place : Location} (leads : disk.Leads p place) :
    disk.stat p = .ok (disk.node? place) := by
  simp only [stat, leads.located, List.contains_eq_mem, leads.clean, decide_false, Bool.false_eq_true,
    ↓reduceIte]

theorem isThere_of_leads {disk : Disk} {p : Path} {place : Location} (leads : disk.Leads p place) :
    disk.isThere p = .ok (disk.node? place).isSome := by
  rw [isThere, stat_of_leads leads]
  rfl

theorem leads_of_stat {disk : Disk} {p : Path} {node : Node} (found : disk.stat p = .ok (some node)) :
    ∃ place, disk.Leads p place ∧ disk.node? place = some node := by
  unfold stat at found
  split at found
  case isTrue => cases found
  case isFalse clean =>
    split at found
    case h_1 place located => exact ⟨place, ⟨by simpa using clean, located⟩, Except.ok.inj found⟩
    all_goals cases found

theorem leads_of_isDirectory {disk : Disk} {p : Path} (there : disk.isDirectory p = .ok true) :
    ∃ place, disk.Leads p place ∧ disk.node? place = some .directory := by
  unfold isDirectory at there
  cases found : disk.stat p with
  | error failure => rw [found] at there; cases there
  | ok node =>
      rw [found] at there
      match node, found, there with
      | some .directory, found, _ => exact leads_of_stat found

theorem isDirectory_of_leads {disk : Disk} {p : Path} {place : Location} (leads : disk.Leads p place)
    (entered : disk.node? place = some .directory) : disk.isDirectory p = .ok true := by
  rw [isDirectory, stat_of_leads leads, entered]
  rfl

/-- Reading the path fails in another way than by the operating system: it has a NUL, and the access is
not refused before that is noticed. -/
def Chokes (disk : Disk) (p : Path) : Prop :=
  '\x00' ∈ p.text ∧ p.text ∉ disk.faults.openDenied

theorem read_cases (disk : Disk) (p : Path) :
    (disk.Chokes p ∧ disk.read p = .error .nulInPath) ∨
      (¬ disk.Chokes p ∧
        ((∃ content, disk.read p = .ok content) ∨
          ∃ error, disk.read p = .error (.os error) ∧ ('\x00' ∈ p.text → error.code = .denied))) := by
  by_cases denied : p.text ∈ disk.faults.openDenied
  · refine .inr ⟨fun chokes => chokes.2 denied, .inr ⟨⟨.denied, [p.text]⟩, ?_, fun _ => rfl⟩⟩
    simp [read, allow, denied, bind, Except.bind]
  · have allowed : allow disk.faults.openDenied [p] = .ok () := by simp [allow, denied]
    by_cases nul : '\x00' ∈ p.text
    · refine .inl ⟨⟨nul, denied⟩, ?_⟩
      simp [read, allowed, find, nul, bind, Except.bind]
    · refine .inr ⟨fun chokes => nul chokes.1, ?_⟩
      have found := @find_of_clean disk p [p] (by simpa using nul)
      cases located : disk.locate p with
      | error code =>
          refine .inr ⟨⟨code, [disk.shown p]⟩, ?_, fun inside => absurd inside nul⟩
          simp only [read, allowed, found, located]
          rfl
      | ok place =>
          rw [located] at found
          have reached : disk.find p [p] = .ok place := found
          simp only [read, allowed, reached, bind, Except.bind]
          cases disk.node? place with
          | none => exact .inr ⟨_, rfl, fun inside => absurd inside nul⟩
          | some node =>
              cases node with
              | directory => exact .inr ⟨_, rfl, fun inside => absurd inside nul⟩
              | file content => exact .inl ⟨content, rfl⟩

theorem find_cases (disk : Disk) (p : Path) (paths : List Path)
    (clean : ∀ q ∈ paths, '\x00' ∉ q.text) :
    (∃ place, disk.find p paths = .ok place) ∨ ∃ error, disk.find p paths = .error (.os error) := by
  rw [disk.find_of_clean p clean]
  cases disk.locate p with
  | ok place => exact .inl ⟨place, rfl⟩
  | error code => exact .inr ⟨_, rfl⟩

theorem unlink_cases (disk : Disk) (p : Path) (clean : '\x00' ∉ p.text) :
    (∃ after, disk.unlink p = .ok after) ∨ ∃ error, disk.unlink p = .error (.os error) := by
  unfold unlink
  by_cases denied : p.text ∈ disk.faults.unlinkDenied
  · exact .inr ⟨⟨.denied, [p.text]⟩, by simp [allow, denied, bind, Except.bind]⟩
  have allowed : allow disk.faults.unlinkDenied [p] = .ok () := by simp [allow, denied]
  rw [allowed]
  by_cases vanished : disk.faults.vanished.contains p.text = true
  · exact .inr ⟨⟨.notFound, [p.text]⟩, by simp only [vanished, ↓reduceIte]; rfl⟩
  · simp only [vanished, Bool.false_eq_true, ↓reduceIte]
    rcases disk.find_cases p [p] (by simpa using clean) with ⟨place, found⟩ | ⟨error, failed⟩
    · simp only [found, bind, Except.bind]
      cases disk.node? place with
      | none => exact .inr ⟨_, rfl⟩
      | some node =>
          cases node with
          | directory => exact .inr ⟨_, rfl⟩
          | file content => exact .inl ⟨_, rfl⟩
    · exact .inr ⟨error, by simp only [failed, bind, Except.bind]⟩

theorem rename_cases (disk : Disk) (source target : Path)
    (alike : '\x00' ∈ target.text ↔ '\x00' ∈ source.text) :
    (('\x00' ∈ source.text ∧ source.text ∉ disk.faults.renameDenied) ∧
        disk.rename source target = .error .nulInPath) ∨
      (('\x00' ∈ source.text → source.text ∈ disk.faults.renameDenied) ∧
        (('\x00' ∉ source.text ∧ ∃ after, disk.rename source target = .ok after) ∨
          ∃ error, disk.rename source target = .error (.os error) ∧
            ('\x00' ∈ source.text → error.code = .denied))) := by
  unfold rename
  by_cases denied : source.text ∈ disk.faults.renameDenied
  · refine .inr ⟨fun _ => denied, .inr ⟨⟨.denied, [source.text, target.text]⟩, ?_, fun _ => rfl⟩⟩
    simp [allow, denied, bind, Except.bind]
  have allowed : allow disk.faults.renameDenied [source, target] = .ok () := by simp [allow, denied]
  dsimp only
  rw [allowed]
  by_cases nul : '\x00' ∈ source.text
  · exact .inl ⟨⟨nul, denied⟩, by simp [find, nul, bind, Except.bind]⟩
  · have clean : ∀ q ∈ [source, target], '\x00' ∉ q.text := by simp [nul, alike]
    refine .inr ⟨fun inside => absurd inside nul, ?_⟩
    have osError (outcome : Except Failure Disk) (error : OsError) (failed : outcome = .error (.os error)) :
        ('\x00' ∉ source.text ∧ ∃ after, outcome = .ok after) ∨
          ∃ error, outcome = .error (.os error) ∧ ('\x00' ∈ source.text → error.code = .denied) :=
      .inr ⟨error, failed, fun inside => absurd inside nul⟩
    rcases disk.find_cases source _ clean with ⟨place, found⟩ | ⟨error, failed⟩
    · simp only [found, bind, Except.bind, pure, Except.pure]
      split
      case isTrue => exact osError _ _ rfl
      case isFalse =>
        split
        case isTrue => exact osError _ _ rfl
        case isFalse =>
          rcases disk.find_cases target _ clean with ⟨other, reached⟩ | ⟨error, failed⟩
          · exact .inl ⟨nul, _, by simp only [reached]; rfl⟩
          · exact osError _ error (by simp only [failed])
    · exact osError _ error (by simp only [failed, bind, Except.bind])

end LogtalkNavigation.Disk
