import LogtalkNavigation.Artifact.Sweep
import LogtalkNavigation.Proofs.Disk.Searching
import LogtalkNavigation.Proofs.Reading

/-! Sweeping a directory. For one name after another, the files below the directory that have it are removed, as far as
the disk lets them go; nothing else is touched. The sweep stops early, and fails, if the path of some directory leaves
no room for a name: what was removed until then is not told. -/

namespace LogtalkNavigation.Artifact

open Act Disk

instance (disk : Disk) (p : Path) : Decidable (disk.Willing p) := inferInstanceAs (Decidable (_ ∧ _))

def Loose (disk : Disk) (p : Path) (place : Location) : Prop :=
  (disk.content? place).isSome ∧ disk.Willing p

instance (disk : Disk) (p : Path) (place : Location) : Decidable (Loose disk p place) :=
  inferInstanceAs (Decidable (_ ∧ _))

theorem unlink_of_unwilling {disk : Disk} {p : Path} (unwilling : ¬ disk.Willing p) :
    ∃ error, disk.unlink p = .error (.os error) := by
  by_cases denied : p.text ∈ disk.faults.unlinkDenied
  · refine ⟨⟨.denied, [p.text]⟩, ?_⟩
    simp [unlink, allow, denied, bind, Except.bind]
  · have vanished : p.text ∈ disk.faults.vanished := by
      by_cases there : p.text ∈ disk.faults.vanished
      · exact there
      · exact absurd ⟨denied, there⟩ unwilling
    refine ⟨⟨.notFound, [p.text]⟩, ?_⟩
    simp [unlink, allow, denied, vanished, bind, Except.bind]

section File
variable {world : World} {p : Path} {place : Location} (leads : world.disk.Leads p place)
include leads

theorem sweepFile_loose (loose : Loose world.disk p place) :
    ∃ log, sweepFile p world = .ok true { world with disk := world.disk.without [place], log } := by
  obtain ⟨filled, willing⟩ := loose
  obtain ⟨content, held⟩ := Option.isSome_iff_exists.mp filled
  have removed := unlink_of_willing willing leads
  rw [content?_eq_some_iff.mp held] at removed
  rw [← erase_eq_without, sweepFile, disk_bind, isFile_eq_of_leads leads, filled]
  simp only [removed]
  exact ⟨_, rfl⟩

theorem sweepFile_fixed (fixed : ¬ Loose world.disk p place) :
    ∃ log, sweepFile p world = .ok false { world with log } := by
  rw [sweepFile, disk_bind, isFile_eq_of_leads leads]
  cases filled : (world.disk.content? place).isSome with
  | false => exact ⟨world.log, rfl⟩
  | true =>
      obtain ⟨error, refused⟩ := unlink_of_unwilling fun willing => fixed ⟨filled, willing⟩
      simp only [refused]
      by_cases missing : error.code = .notFound
      · simp only [missing]
        exact ⟨_, rfl⟩
      · simp only [missing, ne_eq, not_false_eq_true, ↓reduceIte]
        exact ⟨_, rfl⟩

end File

def looseAmong (disk : Disk) (root : Path) (base : Location) (rests : List (List Name)) : List (List Name) :=
  rests.filter fun rest => Loose disk (descend root rest) (base ++ rest)

theorem no_directory_of_loose {disk : Disk} {p : Path} {place : Location} (loose : Loose disk p place) :
    disk.node? place ≠ some .directory := by
  obtain ⟨content, held⟩ := Option.isSome_iff_exists.mp loose.1
  rw [content?_eq_some_iff.mp held]
  nofun

-- What goes elsewhere makes no difference.
theorem looseAmong_without {disk : Disk} {gone : List Location}
    (files : ∀ place ∈ gone, disk.node? place ≠ some .directory) (root : Path) (base : Location)
    {rests : List (List Name)} (apart : ∀ rest ∈ rests, base ++ rest ∉ gone) :
    looseAmong (disk.without gone) root base rests = looseAmong disk root base rests := by
  refine List.filter_congr fun rest inside => decide_eq_decide.mpr ?_
  unfold Loose content?
  rw [node?_without files, if_neg (apart rest inside)]
  rfl

theorem sweepFiles_ends {root : Path} {base : Location} (rests : List (List Name)) (once : rests.Nodup) (world : World)
    (leads : ∀ rest ∈ rests, world.disk.Leads (descend root rest) (base ++ rest)) :
    ∃ log, sweepFiles (rests.map (descend root)) world =
      .ok ((looseAmong world.disk root base rests).map (descend root))
        { world with disk := world.disk.without ((looseAmong world.disk root base rests).map (base ++ ·)), log } := by
  induction rests generalizing world with
  | nil =>
      refine ⟨world.log, ?_⟩
      simp only [looseAmong, List.filter_nil, List.map_nil, without_nil]
      rfl
  | cons rest others ih =>
      obtain ⟨apart, once⟩ := List.nodup_cons.mp once
      obtain ⟨here, there⟩ := List.forall_mem_cons.mp leads
      rw [List.map_cons, sweepFiles]
      by_cases first : Loose world.disk (descend root rest) (base ++ rest)
      · have file : ∀ place ∈ [base ++ rest], world.disk.node? place ≠ some .directory := by
          simpa using no_directory_of_loose first
        have same := sameDirectories_without file
        have elsewhere : ∀ other ∈ others, base ++ other ∉ [base ++ rest] := by
          intro other inside
          simpa using fun equal : other = rest => apart (equal ▸ inside)
        have both : looseAmong world.disk root base (rest :: others) = rest :: looseAmong world.disk root base others :=
          List.filter_cons_of_pos (by simpa using first)
        obtain ⟨log, ran⟩ := sweepFile_loose here first
        obtain ⟨log, swept⟩ := ih once { world with disk := world.disk.without [base ++ rest], log }
          fun other inside => (there other inside).kept same rfl
        rw [looseAmong_without file root base elsewhere, without_append] at swept
        rw [bind_ran ran, bind_ran swept, both]
        exact ⟨log, rfl⟩
      · have skipped : looseAmong world.disk root base (rest :: others) = looseAmong world.disk root base others :=
          List.filter_cons_of_neg (by simpa using first)
        obtain ⟨log, ran⟩ := sweepFile_fixed here first
        obtain ⟨log, swept⟩ := ih once { world with log } there
        rw [bind_ran ran, bind_ran swept, skipped]
        exact ⟨log, rfl⟩

def spelled (name : Name) : String := String.ofList name.1

theorem toList_spelled (name : Name) : (spelled name).toList = name.1 := String.toList_ofList

theorem spelled_injective {one other : Name} (same : spelled one = spelled other) : one = other :=
  Subtype.ext (String.ofList_injective same)

structure Leftover (disk : Disk) (base : Location) (names : List Name) (rest : List Name) : Prop where
  file : ∃ content, disk.node? (base ++ rest) = some (.file content)
  named : ∃ name ∈ names, rest.getLast? = some name

structure InOrder (p q : Path) : Prop where
  names : ∃ one other, p.name? = some one ∧ q.name? = some other ∧ Text.le one.1 other.1 = true
  paths : p.name? = q.name? → Path.le p q = true

structure Swept (disk : Disk) (root : Path) (base : Location) (names : List Name) (rests : List (List Name)) :
    Prop where
  members : ∀ rest, rest ∈ rests ↔ Leftover disk base names rest ∧ disk.Willing (descend root rest)
  once : rests.Nodup
  ordered : rests.Pairwise fun one other => InOrder (descend root one) (descend root other)

theorem leftover_and_willing_iff (disk : Disk) (root : Path) (base : Location) (name : Name) (rest : List Name) :
    Leftover disk base [name] rest ∧ disk.Willing (descend root rest) ↔
      rest.getLast? = some name ∧ Loose disk (descend root rest) (base ++ rest) := by
  constructor
  · rintro ⟨⟨⟨content, held⟩, _, among, last⟩, willing⟩
    rw [List.mem_singleton.mp among] at last
    exact ⟨last, by rw [content?_eq_some_iff.mpr held]; rfl, willing⟩
  · rintro ⟨last, filled, willing⟩
    obtain ⟨content, held⟩ := Option.isSome_iff_exists.mp filled
    exact ⟨⟨⟨content, content?_eq_some_iff.mp held⟩, name, List.mem_singleton.mpr rfl, last⟩, willing⟩

theorem Swept.files {disk : Disk} {root : Path} {base : Location} {names : List Name} {rests : List (List Name)}
    (swept : Swept disk root base names rests) :
    ∀ place ∈ rests.map (base ++ ·), disk.node? place ≠ some .directory := by
  intro place among
  obtain ⟨rest, inside, rfl⟩ := List.mem_map.mp among
  obtain ⟨content, held⟩ := ((swept.members rest).mp inside).1.file
  rw [held]
  nofun

section Name
variable {world : World} {root : Path} {base : Location} (rooted : world.disk.Rooted root base) {name : Name}
  (plain : Plain name)
include rooted plain

theorem sweep_name (fits : world.disk.FitsBelow root base name) :
    ∃ found rests log, world.disk.search root name.1 = .ok found ∧ Swept world.disk root base [name] rests ∧
      sweepFiles found world = .ok (rests.map (descend root))
        { world with disk := world.disk.without (rests.map (base ++ ·)), log } := by
  obtain ⟨rests, answered, once, ordered, members⟩ := rooted.search_finds plain fits
  have leads : ∀ rest ∈ rests, world.disk.Leads (descend root rest) (base ++ rest) := by
    intro rest inside
    obtain ⟨last, node, held⟩ := (members rest).mp inside
    obtain ⟨above, rfl⟩ := List.getLast?_eq_some_iff.mp last
    have entered : world.disk.node? (base ++ above) = some .directory := by
      rw [← List.append_assoc] at held
      exact rooted.tree.above held
    exact rooted.leads_descend entered plain (fits above entered)
  obtain ⟨log, ran⟩ := sweepFiles_ends rests once world leads
  refine ⟨_, looseAmong world.disk root base rests, log, answered, ⟨fun rest => ?_, once.filter _, ?_⟩, ran⟩
  · rw [leftover_and_willing_iff, looseAmong, List.mem_filter, members, decide_eq_true_iff]
    constructor
    · rintro ⟨⟨last, _⟩, loose⟩
      exact ⟨last, loose⟩
    · rintro ⟨last, loose⟩
      obtain ⟨content, held⟩ := Option.isSome_iff_exists.mp loose.1
      exact ⟨⟨last, _, content?_eq_some_iff.mp held⟩, loose⟩
  · refine (ordered.sublist List.filter_sublist).imp_of_mem fun {one other} first second before => ?_
    obtain ⟨last, _⟩ := (members one).mp (List.mem_filter.mp first).1
    obtain ⟨also, _⟩ := (members other).mp (List.mem_filter.mp second).1
    have here := name?_descend root last
    have there := name?_descend root also
    exact ⟨⟨name, name, here, there, Text.le_refl name.1⟩, fun _ => before⟩

end Name

theorem Swept.nil (disk : Disk) (root : Path) (base : Location) : Swept disk root base [] [] := by
  refine ⟨fun rest => iff_of_false (by simp) ?_, .nil, .nil⟩
  rintro ⟨⟨_, _, among, _⟩, _⟩
  cases among

section Append
variable {disk : Disk} {root : Path} {base : Location} {name : Name} {names : List Name}
  {first others : List (List Name)} (one : Swept disk root base [name] first)
include one

theorem Swept.last {rest : List Name} (inside : rest ∈ first) : rest.getLast? = some name :=
  ((leftover_and_willing_iff disk root base name rest).mp ((one.members rest).mp inside)).1

variable (fresh : name ∉ names)
include fresh

-- What is swept away for one name is no leftover for the names that come later.
theorem Swept.leftover_iff (rest : List Name) :
    Leftover (disk.without (first.map (base ++ ·))) base names rest ↔ Leftover disk base names rest := by
  have same (named : ∃ other ∈ names, rest.getLast? = some other) :
      (disk.without (first.map (base ++ ·))).node? (base ++ rest) = disk.node? (base ++ rest) := by
    obtain ⟨other, among, last⟩ := named
    rw [node?_without one.files, if_neg]
    intro taken
    obtain ⟨_, inside, equal⟩ := List.mem_map.mp taken
    obtain rfl := List.append_cancel_left equal
    rw [one.last inside] at last
    exact fresh (Option.some.inj last ▸ among)
  constructor
  · rintro ⟨file, named⟩
    exact ⟨same named ▸ file, named⟩
  · rintro ⟨file, named⟩
    exact ⟨(same named).symm ▸ file, named⟩

theorem Swept.append (before : ∀ other ∈ names, Text.le name.1 other.1 = true)
    (more : Swept (disk.without (first.map (base ++ ·))) root base names others) :
    Swept disk root base (name :: names) (first ++ others) := by
  have later (rest : List Name) : rest ∈ others ↔ Leftover disk base names rest ∧ disk.Willing (descend root rest) := by
    rw [more.members, one.leftover_iff fresh]
    rfl
  refine ⟨fun rest => ?_, List.nodup_append.mpr ⟨one.once, more.once, fun rest inside other also equal => ?_⟩,
    List.pairwise_append.mpr ⟨one.ordered, more.ordered, fun rest inside other also => ?_⟩⟩
  · rw [List.mem_append, one.members, later, ← or_and_right]
    refine and_congr_left fun _ => ⟨?_, ?_⟩
    · rintro (⟨file, second, among, last⟩ | ⟨file, second, among, last⟩)
      · exact ⟨file, second, List.mem_cons.mpr (.inl (List.mem_singleton.mp among)), last⟩
      · exact ⟨file, second, List.mem_cons_of_mem name among, last⟩
    · rintro ⟨file, second, among, last⟩
      rcases List.mem_cons.mp among with rfl | among
      · exact .inl ⟨file, second, List.mem_singleton.mpr rfl, last⟩
      · exact .inr ⟨file, second, among, last⟩
  · obtain ⟨second, among, last⟩ := ((later other).mp also).1.named
    rw [← equal, one.last inside] at last
    exact fresh (Option.some.inj last ▸ among)
  · obtain ⟨second, among, last⟩ := ((later other).mp also).1.named
    have here := name?_descend root (one.last inside)
    have there := name?_descend root last
    refine ⟨⟨name, second, here, there, before second among⟩, fun equal => ?_⟩
    rw [here, there] at equal
    exact absurd (Option.some.inj equal ▸ among) fresh

end Append

/-- How a sweep ends: what it did for the names that it came to, and why it did not come to the others. -/
structure SweepEnds (disk : Disk) (root : Path) (base : Location) (done late : List Name) (rests : List (List Name))
    (outcome : Except Failure (List Path)) : Prop where
  fit : ∀ name ∈ done, disk.FitsBelow root base name
  stopped : ∀ name ∈ late.head?, ¬ disk.FitsBelow root base name
  swept : Swept disk root base done rests
  answered : late = [] → outcome = .ok (rests.map (descend root))
  failed : late ≠ [] → ∃ shown, outcome = .error (.os ⟨.nameTooLong, shown⟩)

theorem SweepEnds.cons {disk : Disk} {root : Path} {base : Location} {name : Name} {done late : List Name}
    {first others : List (List Name)} {outcome : Except Failure (List Path)} (fits : disk.FitsBelow root base name)
    (swept : Swept disk root base [name] first) (fresh : name ∉ done)
    (before : ∀ other ∈ done, Text.le name.1 other.1 = true)
    (ends : SweepEnds (disk.without (first.map (base ++ ·))) root base done late others outcome) :
    SweepEnds disk root base (name :: done) late (first ++ others) (outcome.map (first.map (descend root) ++ ·)) where
  fit := by
    have fit := fitsBelow_of_sameDirectories (sameDirectories_without swept.files) rfl root base
    exact List.forall_mem_cons.mpr ⟨fits, fun other among => (fit other).mp (ends.fit other among)⟩
  stopped := by
    have fit := fitsBelow_of_sameDirectories (sameDirectories_without swept.files) rfl root base
    exact fun other among held => ends.stopped other among ((fit other).mpr held)
  swept := swept.append fresh before ends.swept
  answered := by
    intro all
    rw [ends.answered all, List.map_append]
    rfl
  failed := by
    intro some
    obtain ⟨shown, failed⟩ := ends.failed some
    exact ⟨shown, by rw [failed]; rfl⟩

-- Induction on the names: what one of them removes is a step, and the names after it find the disk that it leaves.
theorem sweepNames_ends {root : Path} {base : Location} (names : List Name) (plain : ∀ name ∈ names, Plain name)
    (distinct : names.Nodup) (sorted : names.Pairwise fun one other => Text.le one.1 other.1 = true) (world : World)
    (rooted : world.disk.Rooted root base) :
    ∃ done late rests outcome log, names = done ++ late ∧ SweepEnds world.disk root base done late rests outcome ∧
      sweepNames root (names.map spelled) world =
        answered { world with disk := world.disk.without (rests.map (base ++ ·)), log } outcome := by
  induction names generalizing world with
  | nil =>
      refine ⟨[], [], [], .ok [], world.log, rfl,
        ⟨by simp, by simp, .nil world.disk root base, fun _ => rfl, by simp⟩, ?_⟩
      simp only [List.map_nil, without_nil]
      rfl
  | cons name names ih =>
      obtain ⟨first, plain⟩ := List.forall_mem_cons.mp plain
      obtain ⟨fresh, distinct⟩ := List.nodup_cons.mp distinct
      obtain ⟨before, sorted⟩ := List.pairwise_cons.mp sorted
      rw [List.map_cons, sweepNames, disk_bind, toList_spelled]
      by_cases fits : world.disk.FitsBelow root base name
      · obtain ⟨found, rests, log, searched, swept, ran⟩ := sweep_name rooted first fits
        have same := sameDirectories_without swept.files
        obtain ⟨done, late, others, outcome, log, rfl, ends, went⟩ := ih plain distinct sorted
          { world with disk := world.disk.without (rests.map (base ++ ·)), log }
          (rooted.kept (rooted.tree.without swept.files) same rfl)
        refine ⟨name :: done, late, rests ++ others, _, log, rfl, .cons fits swept
          (fun among => fresh (List.mem_append_left late among))
          (fun other among => before other (List.mem_append_left late among)) ends, ?_⟩
        have next : ofExcept (.ok found) world = .ok found world := rfl
        rw [without_append, ← List.map_append] at went
        rw [searched, bind_ran next, bind_ran ran]
        cases outcome with
        | ok removed => rw [bind_ran went]; rfl
        | error failure => rw [bind_failed went]; rfl
      · obtain ⟨shown, failed⟩ := rooted.search_fails first fits
        rw [failed]
        refine ⟨[], name :: names, [], .error _, world.log, rfl,
          ⟨by simp, by simpa using fits, .nil world.disk root base, by simp, fun _ => ⟨shown, rfl⟩⟩, ?_⟩
        simp only [List.map_nil, without_nil]
        rfl

structure Sorted (texts : List String) (names : List Name) : Prop where
  members : ∀ text, text ∈ texts ↔ ∃ name ∈ names, spelled name = text
  once : names.Nodup
  ordered : names.Pairwise fun one other => Text.le one.1 other.1 = true

theorem Sorted.mem_iff {texts : List String} {names : List Name} (sorted : Sorted texts names) (name : Name) :
    name ∈ names ↔ spelled name ∈ texts := by
  rw [sorted.members]
  constructor
  · exact fun among => ⟨name, among, rfl⟩
  · rintro ⟨other, among, same⟩
    rwa [← spelled_injective same]

theorem exists_sorted (texts : List String) (named : ∀ text ∈ texts, ∃ name, spelled name = text) :
    ∃ names, (texts.eraseDups.mergeSort fun one other => Text.le one.toList other.toList) = names.map spelled ∧
      Sorted texts names := by
  have alike (text : String) :
      text ∈ (texts.eraseDups.mergeSort fun one other => Text.le one.toList other.toList) ↔ text ∈ texts := by
    rw [List.mem_mergeSort, List.mem_eraseDups]
  have once : (texts.eraseDups.mergeSort fun one other => Text.le one.toList other.toList).Nodup :=
    (List.mergeSort_perm _ _).nodup_iff.mpr (nodup_eraseDups texts)
  have ordered := List.pairwise_mergeSort
    (fun one two three : String => Text.le_trans one.toList two.toList three.toList)
    (fun one two : String => by simpa using Text.le_total one.toList two.toList) texts.eraseDups
  generalize (texts.eraseDups.mergeSort fun one other => Text.le one.toList other.toList) = order at *
  obtain ⟨names, rfl⟩ : order ∈ Set.range (List.map spelled) := by
    rw [Set.range_list_map]
    exact fun text inside => named text ((alike text).mp inside)
  refine ⟨names, rfl, fun text => by rw [← alike, List.mem_map], .of_map _ once, ?_⟩
  simpa only [List.pairwise_map, toList_spelled] using ordered

theorem leftovers_plain : ∀ text ∈ leftoverNames, ∃ name, spelled name = text ∧ Plain name := by
  have checked : ∀ text ∈ leftoverNames, ∃ name ∈ Name.ofText? text.toList, Plain name := by decide +kernel
  intro text inside
  obtain ⟨name, made, plain⟩ := checked text inside
  refine ⟨name, ?_, plain⟩
  unfold Name.ofText? at made
  split at made
  case isFalse => cases made
  case isTrue =>
    cases made
    exact String.ofList_toList

theorem exists_leftovers :
    ∃ names, (leftoverNames.eraseDups.mergeSort fun one other => Text.le one.toList other.toList) = names.map spelled ∧
      Sorted leftoverNames names ∧ ∀ name ∈ names, Plain name := by
  obtain ⟨names, order, sorted⟩ := exists_sorted leftoverNames fun text inside => by
    obtain ⟨name, same, _⟩ := leftovers_plain text inside
    exact ⟨name, same⟩
  refine ⟨names, order, sorted, fun name among => ?_⟩
  obtain ⟨other, same, plain⟩ := leftovers_plain _ ((sorted.mem_iff name).mp among)
  rwa [← spelled_injective same]

-- The results that are shown again and again are no leftovers.
theorem kept_results (kind : Kind) (shared : kind.isOnce = false) : kind.result ∉ leftoverNames := by
  cases kind with
  | tests => decide
  | metrics => decide
  | _ => cases shared

section Sweep
variable {texts : List String} {names : List Name}
  (order : (texts.eraseDups.mergeSort fun one other => Text.le one.toList other.toList) = names.map spelled)
  (sorted : Sorted texts names) (plain : ∀ name ∈ names, Plain name) {root : Path} {base : Location}
include order sorted plain

theorem sweep_ends {world : World} (rooted : world.disk.Rooted root base) :
    ∃ done late rests outcome log, names = done ++ late ∧ SweepEnds world.disk root base done late rests outcome ∧
      sweep (some root) texts world =
        answered { world with disk := world.disk.without (rests.map (base ++ ·)), log } outcome := by
  obtain ⟨done, late, rests, outcome, log, parts, ends, ran⟩ :=
    sweepNames_ends names plain sorted.once sorted.ordered world rooted
  refine ⟨done, late, rests, outcome, log, parts, ends, ?_⟩
  rw [← ran, ← order]
  dsimp only [sweep]
  rw [disk_bind, isDirectory_of_leads rooted.leads rooted.entered]
  rfl

-- The sweep of a disk that another sweep has left, if that one came to an end and removed all that it found.
theorem sweep_again {disk : Disk} (rooted : disk.Rooted root base) {rests : List (List Name)}
    {outcome : Except Failure (List Path)} (ends : SweepEnds disk root base names [] rests outcome)
    (willing : ∀ rest, Leftover disk base names rest → disk.Willing (descend root rest)) (world : World)
    (nodes : world.disk.nodes = (disk.without (rests.map (base ++ ·))).nodes) (home : world.disk.home = disk.home) :
    (sweep (some root) texts).outcome world = .ok [] := by
  have held (place : Location) :
      world.disk.node? place = if place ∈ rests.map (base ++ ·) then none else disk.node? place := by
    rw [node?_of_nodes nodes, node?_without ends.swept.files]
  have same : SameDirectories disk world.disk := by
    intro place
    rw [node?_of_nodes nodes]
    exact sameDirectories_without ends.swept.files place
  have tree := (rooted.tree.without ends.swept.files).of_nodes nodes
  obtain ⟨done, late, others, outcome, log, rfl, again, ran⟩ :=
    sweep_ends order sorted plain (rooted.kept tree same home)
  have complete : late = [] := by
    cases late with
    | nil => rfl
    | cons name more =>
        have fits := ends.fit name (by simp)
        exact absurd ((fitsBelow_of_sameDirectories same home root base name).mpr fits) (again.stopped name rfl)
  have nothing : others = [] := by
    refine List.eq_nil_iff_forall_not_mem.mpr fun rest inside => ?_
    obtain ⟨⟨⟨content, file⟩, name, among, last⟩, _⟩ := (again.swept.members rest).mp inside
    rw [held] at file
    split at file
    case isTrue => cases file
    case isFalse kept =>
      have left : Leftover disk base (done ++ late) rest :=
        ⟨⟨content, file⟩, name, List.mem_append_left late among, last⟩
      exact kept (List.mem_map.mpr ⟨rest, (ends.swept.members rest).mpr ⟨left, willing rest left⟩, rfl⟩)
  rw [Act.outcome, ran, again.answered complete, nothing]
  rfl

end Sweep

/-- A sweep removes the leftovers below the root that the disk lets go and nothing else, by name and then by path, until
it comes to a name that cannot be looked up everywhere. If there is none it tells what it removed, and finds nothing the
next time; otherwise it fails. -/
theorem leftovers_swept (world : World) (root : Path) (tree : world.disk.IsTree)
    (there : world.disk.isDirectory root = .ok true) :
    ∃ base done late rests outcome log,
      world.disk.locate root = .ok base ∧ Sorted leftoverNames (done ++ late) ∧
      SweepEnds world.disk root base done late rests outcome ∧
      sweep (some root) leftoverNames world =
        answered { world with disk := world.disk.without (rests.map (base ++ ·)), log } outcome ∧
      (late = [] → (∀ rest, Leftover world.disk base done rest → world.disk.Willing (descend root rest)) →
        ∀ again : World, again.disk.nodes = (world.disk.without (rests.map (base ++ ·))).nodes →
          again.disk.home = world.disk.home → (sweep (some root) leftoverNames).outcome again = .ok []) ∧
      ∀ kind : Kind, kind.isOnce = false → kind.result ∉ leftoverNames := by
  obtain ⟨base, leads, entered⟩ := leads_of_isDirectory there
  have rooted : world.disk.Rooted root base := ⟨tree, leads, entered⟩
  obtain ⟨names, order, sorted, plain⟩ := exists_leftovers
  obtain ⟨done, late, rests, outcome, log, rfl, ends, ran⟩ := sweep_ends order sorted plain rooted
  refine ⟨base, done, late, rests, outcome, log, rooted.leads.located, sorted, ends, ran, ?_, kept_results⟩
  rintro rfl willing again nodes home
  rw [List.append_nil] at order sorted plain
  exact sweep_again order sorted plain rooted ends willing again nodes home

namespace Cluttered

def root : Path := .ofString "/w"

def callers : Name := ⟨".vscode_callers".toList, by decide⟩

def place (text : String) : Location := (Path.ofString text).names

-- A leftover, one in a hidden directory that the disk keeps, and things that only look like leftovers.
def world : World :=
  ⟨⟨[(place "/w", .directory), (place "/w/.vscode_callers", .file [1]), (place "/w/.git", .directory),
      (place "/w/.git/.vscode_callers_done", .file []), (place "/w/.vscode_callees", .directory),
      (place "/w/.vscode_test_results", .file [2]), (place "/.vscode_callers", .file [3])],
    place "/", { unlinkDenied := ["/w/.git/.vscode_callers_done".toList] }⟩, ⟨.off, []⟩, {}⟩

end Cluttered

open Cluttered in
theorem cluttered_directory_swept :
    world.disk.IsTree ∧ world.disk.isDirectory root = .ok true ∧
      ∃ removed after, sweep (some root) leftoverNames world = .ok removed after ∧
        .ofString "/w/.vscode_callers" ∈ removed ∧ after.disk.node? (place "/w/.vscode_callers") = none ∧
        ∀ kept ∈ [place "/w/.git/.vscode_callers_done", place "/w/.vscode_callees", place "/w/.vscode_test_results",
          place "/.vscode_callers"], after.disk.node? kept = world.disk.node? kept := by
  have tree : world.disk.IsTree := by decide +kernel
  have there : world.disk.isDirectory root = .ok true := rfl
  refine ⟨tree, there, ?_⟩
  obtain ⟨base, done, late, rests, outcome, log, located, sorted, ends, ran, _⟩ := leftovers_swept world root tree there
  obtain rfl : place "/w" = base := Except.ok.inj located
  have rooted : world.disk.Rooted root (place "/w") := ⟨tree, ⟨by decide, rfl⟩, rfl⟩
  have short : ∀ text ∈ leftoverNames, ∀ q ∈ world.disk.directories root,
      ∀ name ∈ Name.ofText? text.toList, world.disk.Fits (q.child name) := by decide +kernel
  have whole : late = [] := by
    cases late with
    | nil => rfl
    | cons name more =>
        refine absurd ((rooted.fitsBelow_iff name).mpr fun q among => ?_) (ends.stopped name rfl)
        refine short _ ((sorted.mem_iff name).mp (by simp)) q among name ?_
        rw [toList_spelled, Name.ofText?, dif_pos name.2]
        rfl
  subst whole
  rw [List.append_nil] at sorted
  rw [ends.answered rfl] at ran
  have loosened : [callers] ∈ rests := by
    refine (ends.swept.members _).mpr ⟨⟨⟨[1], by decide +kernel⟩, callers, ?_, rfl⟩, by decide⟩
    exact (sorted.mem_iff callers).mpr (by decide +kernel)
  refine ⟨_, _, ran, List.mem_map.mpr ⟨_, loosened, by decide⟩, ?_, fun kept among => ?_⟩
  · rw [node?_without ends.swept.files, if_pos (List.mem_map.mpr ⟨_, loosened, by decide⟩)]
  · rw [node?_without ends.swept.files, if_neg]
    intro taken
    obtain ⟨rest, inside, rfl⟩ := List.mem_map.mp taken
    obtain ⟨⟨⟨content, file⟩, name, listed, last⟩, willing⟩ := (ends.swept.members rest).mp inside
    have below : (place "/w" ++ rest).drop 1 = rest := rfl
    simp only [List.mem_cons, List.not_mem_nil, or_false] at among
    rcases among with refused | directory | shared | outside
    · rw [refused] at below
      subst below
      exact absurd willing (by decide)
    · have held : world.disk.node? (place "/w/.vscode_callees") = some .directory := by decide +kernel
      rw [directory, held] at file
      cases file
    · have other : ∀ name ∈ ((place "/w/.vscode_test_results").drop 1).getLast?, spelled name ∉ leftoverNames := by
        decide +kernel
      rw [← below, shared] at last
      exact other name last ((sorted.mem_iff name).mp listed)
    · have apart : ¬ place "/w" <+: place "/.vscode_callers" := by decide
      exact apart ⟨rest, outside⟩

namespace Winding

def wide : Name := ⟨List.replicate 63 '𝄞', by decide⟩

def callers : Name := ⟨".vscode_callers".toList, by decide⟩

def world : World := ⟨⟨[([wide], .directory), ([callers], .file [1])], [], {}⟩, ⟨.off, []⟩, {}⟩

-- This leads into the directory and back, so often that the path fits but leaves no room for two more names.
def root : Path := ⟨.root, (List.replicate 15 [wide, Name.up]).flatten⟩

end Winding

open Winding in
theorem winding_root_stops_sweep :
    world.disk.IsTree ∧ world.disk.isDirectory root = .ok true ∧
      ∃ shown, (sweep (some root) leftoverNames).outcome world = .error (.os ⟨.nameTooLong, shown⟩) := by
  have tree : world.disk.IsTree := by decide +kernel
  have leads : world.disk.Leads root [] := ⟨by decide +kernel, by decide +kernel⟩
  have rooted : world.disk.Rooted root [] := ⟨tree, leads, rfl⟩
  refine ⟨tree, isDirectory_of_leads leads rfl, ?_⟩
  obtain ⟨names, order, sorted, plain⟩ := exists_leftovers
  obtain ⟨done, late, rests, outcome, log, rfl, ends, ran⟩ := sweep_ends order sorted plain rooted
  have stopped : late ≠ [] := by
    rintro rfl
    have among : callers ∈ done ++ [] := (sorted.mem_iff callers).mpr (by decide +kernel)
    have long : ¬ world.disk.Fits (descend root [wide, callers]) := by decide +kernel
    rw [List.append_nil] at among
    exact long (ends.fit callers among [wide] (by decide +kernel))
  obtain ⟨shown, failed⟩ := ends.failed stopped
  exact ⟨shown, by rw [Act.outcome, ran, failed]; rfl⟩

end LogtalkNavigation.Artifact
