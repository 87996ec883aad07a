import LogtalkNavigation.Proofs.Artifact.Taking
import LogtalkNavigation.Proofs.Disk.Tree

/-! Taking a file from a disk that refuses some accesses. Whatever is refused, there are three ways for it to end:
nothing is taken and nothing changes; the content is taken and the file has gone; or the content is taken and the file
stays, since it can neither be renamed nor removed. -/

namespace LogtalkNavigation.Artifact

open Act

theorem private_of_named {p : Path} (disk : Disk) (named : p.name? ≠ none) : ∃ own, privatePath disk p = .ok own := by
  obtain ⟨name, last⟩ := Option.ne_none_iff_exists'.mp named
  rw [privatePath, last]
  exact ⟨_, rfl⟩

section Private
variable {disk : Disk} {p own : Path} (chosen : privatePath disk p = .ok own)
include chosen

theorem private_named :
    ∃ (root : Path) (name : Name) (token : Nat), p = root.child name ∧ own = root.child (privateName name token) := by
  unfold privatePath at chosen
  cases last : p.name? with
  | none => rw [last] at chosen; cases chosen
  | some name =>
      rw [last] at chosen
      exact ⟨p.parent, name, _, (Path.child_parent last).symm, (Except.ok.inj chosen).symm⟩

theorem private_free : disk.nodeAt? own = none := by
  obtain ⟨root, name, token, rfl, rfl⟩ := private_named chosen
  cases located : disk.locate (root.child (privateName name token)) with
  | error code => simp only [Disk.nodeAt?, located]
  | ok place =>
      obtain ⟨base, walked, entered, _⟩ := Disk.locate_concat located
      obtain ⟨other, same, free⟩ := privatePath_free name walked entered
      rw [chosen] at same
      rw [Except.ok.inj same]
      exact free

theorem private_clean (clean : '\x00' ∉ p.text) : '\x00' ∉ own.text := by
  obtain ⟨root, name, token, rfl, rfl⟩ := private_named chosen
  have alike := nul_mem_private (root.child name) name (Path.name?_child root name) token
  rw [Path.parent_child] at alike
  exact fun nul => clean (alike.mp nul)

end Private

/-- How taking the path from a disk may end, by the answer and the disk that it leaves. -/
inductive TakeEnds (p : Path) (disk : Disk) : Except Failure (Option (List UInt8)) → Disk → Prop where
  | untaken (outcome : Except Failure (Option (List UInt8))) (nothing : ∀ bytes, outcome ≠ .ok (some bytes))
      (refused : ∀ place content, disk.Leads p place → disk.node? place = some (.file content) →
        p.name? ≠ none → p.text ∈ disk.faults.openDenied) : TakeEnds p disk outcome disk
  | taken {place : Location} {content : List UInt8} {after : Disk} (leads : disk.Leads p place)
      (file : disk.node? place = some (.file content)) (gone : disk.Becomes after place none) :
      TakeEnds p disk (.ok (some content)) after
  | copied {own : Path} {place : Location} {content : List UInt8} {unmoved unremoved : Failure}
      (leads : disk.Leads p place) (file : disk.node? place = some (.file content))
      (chosen : privatePath disk p = .ok own) (stays : disk.rename p own = .error unmoved)
      (kept : disk.unlink p = .error unremoved) : TakeEnds p disk (.ok (some content)) disk

section Ends
variable {p : Path} {disk after : Disk} {outcome : Except Failure (Option (List UInt8))}

section Untaken
variable (refused : ∀ place content, disk.Leads p place → disk.node? place = some (.file content) →
  p.name? ≠ none → p.text ∈ disk.faults.openDenied)
include refused

theorem TakeEnds.missing : TakeEnds p disk (.ok none) disk :=
  .untaken (.ok none) (by simp) refused

theorem TakeEnds.failed (failure : Failure) : TakeEnds p disk (.error failure) disk :=
  .untaken (.error failure) (by simp) refused

end Untaken

theorem nodeAt?_of_leads {place : Location} (leads : disk.Leads p place) : disk.nodeAt? p = disk.node? place := by
  simp only [Disk.nodeAt?, leads.located]

theorem leads_of_nodeAt? {node : Node} (clean : '\x00' ∉ p.text) (held : disk.nodeAt? p = some node) :
    ∃ place, disk.Leads p place ∧ disk.node? place = some node := by
  unfold Disk.nodeAt? at held
  split at held
  case h_1 place located => exact ⟨place, ⟨clean, located⟩, held⟩
  case h_2 => cases held

theorem TakeEnds.content {bytes : List UInt8} (ends : TakeEnds p disk (.ok (some bytes)) after) :
    disk.nodeAt? p = some (.file bytes) := by
  cases ends with
  | untaken _ nothing _ => exact absurd rfl (nothing bytes)
  | taken leads file gone => exact (nodeAt?_of_leads leads).trans file
  | copied leads file chosen stays kept => exact (nodeAt?_of_leads leads).trans file

theorem TakeEnds.gone_or_kept {bytes : List UInt8} (ends : TakeEnds p disk (.ok (some bytes)) after) :
    after.nodeAt? p = none ∨ after = disk ∧ ∃ own unmoved unremoved, privatePath disk p = .ok own ∧
      disk.rename p own = .error unmoved ∧ disk.unlink p = .error unremoved := by
  cases ends with
  | untaken _ nothing _ => exact absurd rfl (nothing bytes)
  | taken leads file gone =>
      have same := gone.sameDirectories (by simp [file]) nofun
      exact .inl ((nodeAt?_of_leads (leads.kept same gone.home)).trans gone.here)
  | copied leads file chosen stays kept => exact .inr ⟨rfl, _, _, _, chosen, stays, kept⟩

theorem TakeEnds.unchanged (ends : TakeEnds p disk outcome after) (nothing : ∀ bytes, outcome ≠ .ok (some bytes)) :
    after = disk := by
  cases ends with
  | untaken => rfl
  | taken => exact absurd rfl (nothing _)
  | copied => rfl

theorem TakeEnds.private_free (ends : TakeEnds p disk outcome after) {own : Path}
    (chosen : privatePath disk p = .ok own) : after.nodeAt? own = none := by
  have free := Artifact.private_free chosen
  cases ends with
  | untaken => exact free
  | taken leads file gone => exact gone.nodeAt?_eq_none (by simp [file]) free
  | copied => exact free

theorem TakeEnds.elsewhere (ends : TakeEnds p disk outcome after) :
    after.home = disk.home ∧ after.faults = disk.faults ∧
      ∀ spot, disk.locate p ≠ .ok spot → after.node? spot = disk.node? spot := by
  cases ends with
  | untaken => exact ⟨rfl, rfl, fun _ _ => rfl⟩
  | taken leads file gone =>
      refine ⟨gone.home, gone.faults, fun spot apart => gone.away ?_⟩
      rintro rfl
      exact apart leads.located
  | copied => exact ⟨rfl, rfl, fun _ _ => rfl⟩

theorem TakeEnds.of_file (ends : TakeEnds p disk outcome after) {bytes : List UInt8}
    (held : disk.nodeAt? p = some (.file bytes)) (named : p.name? ≠ none) (clean : '\x00' ∉ p.text)
    (readable : p.text ∉ disk.faults.openDenied) : outcome = .ok (some bytes) := by
  obtain ⟨place, leads, file⟩ := leads_of_nodeAt? clean held
  have same {spot : Location} {content : List UInt8} (also : disk.Leads p spot)
      (there : disk.node? spot = some (.file content)) : some (Node.file content) = some (.file bytes) := by
    rw [← there, ← nodeAt?_of_leads also, held]
  cases ends with
  | untaken _ _ refused => exact absurd (refused place bytes leads file named) readable
  | taken also there _ => cases same also there; rfl
  | copied also there _ _ _ => cases same also there; rfl

end Ends

theorem discard_of_unlink {p : Path} {world : World} {disk : Disk} (removed : world.disk.unlink p = .ok disk) :
    discard p world = .ok () { world with disk } := by
  rw [discard, disk_bind, removed]
  rfl

theorem discard_cases (p : Path) (world : World) (clean : '\x00' ∉ p.text) :
    (∃ place content, world.disk.Leads p place ∧ world.disk.node? place = some (.file content) ∧
      discard p world = .ok () { world with disk := world.disk.erase place }) ∨
    (∃ failure log, world.disk.unlink p = .error failure ∧ discard p world = .ok () { world with log }) := by
  rcases world.disk.unlink_cases p clean with ⟨disk, removed⟩ | ⟨error, failed⟩
  · obtain ⟨place, content, leads, file, rfl⟩ := Disk.leads_of_unlink removed
    exact .inl ⟨place, content, leads, file, discard_of_unlink removed⟩
  · rw [discard, disk_bind, failed]
    dsimp only
    split
    · exact .inr ⟨_, _, rfl, rfl⟩
    · exact .inr ⟨_, world.log, rfl, rfl⟩

section Refused
variable {p own : Path} {world : World} (chosen : privatePath world.disk p = .ok own)
include chosen

theorem readInPlace_ways {failure : Failure} (stays : world.disk.rename p own = .error failure) (log : Log) :
    TakeEnds p world.disk ((readInPlace p).outcome { world with log })
      ((readInPlace p).left { world with log }).disk := by
  unfold Act.outcome Act.left
  rw [readInPlace, disk_bind]
  cases there : world.disk.read p with
  | ok content =>
      obtain ⟨place, leads, file⟩ := Disk.leads_of_read there
      dsimp only
      rcases discard_cases p { world with log } leads.clean with ⟨spot, _, also, _, removed⟩ | ⟨_, later, kept, ended⟩
      · obtain rfl : place = spot := Except.ok.inj (leads.located.symm.trans also.located)
        rw [bind_ran removed]
        exact .taken leads file
          (Disk.becomes_erase _ place (Disk.below_of_no_directory world.disk place (by simp [file])))
      · rw [bind_ran ended]
        exact .copied leads file chosen stays kept
  | error failure =>
      have refused (place : Location) (content : List UInt8) (leads : world.disk.Leads p place)
          (file : world.disk.node? place = some (.file content)) (_ : p.name? ≠ none) :
          p.text ∈ world.disk.faults.openDenied := by
        by_contra readable
        rw [Disk.read_of_allowed readable leads, file] at there
        cases there
      cases failure with
      | os error =>
          dsimp only
          by_cases missing : error.code = .notFound
          · rw [if_pos missing]
            exact .missing refused
          · rw [if_neg missing]
            exact .failed refused _
      | _ => exact .failed refused _

variable (tree : world.disk.IsTree)
include tree

-- Of a file that is there no rename says that it is missing.
theorem rename_of_file {place : Location} {content : List UInt8} (leads : world.disk.Leads p place)
    (file : world.disk.node? place = some (.file content)) :
    (∃ moved, world.disk.rename p own = .ok moved) ∨
      ∃ error, world.disk.rename p own = .error (.os error) ∧ error.code ≠ .notFound := by
  by_cases denied : p.text ∈ world.disk.faults.renameDenied
  · exact .inr ⟨_, Disk.rename_denied denied own, by simp⟩
  have plain : world.disk.node? place ≠ some .directory := by simp [file]
  obtain ⟨root, name, token, rfl, rfl⟩ := private_named chosen
  have proper : name ≠ Name.up := by
    rintro rfl
    obtain ⟨base, _, entered, reached⟩ := Disk.locate_concat leads.located
    rw [if_pos rfl] at reached
    exact plain (reached ▸ tree.directory_dropLast entered)
  have named : (root.child name).name? ≠ some Name.up := by
    rw [Path.name?_child]
    exact fun same => proper (Option.some.inj same)
  obtain ⟨base, walked, entered, _⟩ := leads.above proper
  rw [Disk.rename_of_allowed denied leads (private_clean chosen leads.clean) named
    (Disk.below_of_no_directory _ place plain), file, if_neg (by simp)]
  rcases Disk.locate_child walked entered (privateName_ne_up name token) with located | long
  · rw [located]
    exact .inl ⟨_, rfl⟩
  · rw [long]
    exact .inr ⟨_, rfl, by simp⟩

variable (plain : world.disk.nodeAt? p ≠ some .directory) (readable : own.text ∉ world.disk.faults.openDenied)
  (willing : world.disk.Willing own)
include plain readable willing

-- What has been renamed is read and removed under its private name.
theorem claimed_taken {moved : Disk} (renamed : world.disk.rename p own = .ok moved) :
    ∃ place content, world.disk.Leads p place ∧ world.disk.node? place = some (.file content) ∧
      ∃ disk, world.disk.Becomes disk place none ∧
        (readClaimed own { world with disk := moved }) = .ok content { world with disk } := by
  obtain ⟨place, spot, node, leads, claims, top, held, rfl⟩ := Disk.leads_of_rename renamed
  cases node with
  | directory =>
      refine absurd ?_ plain
      simp only [Disk.nodeAt?, leads.located, held]
  | file content =>
      have free : world.disk.node? spot = none := by
        simpa only [Disk.nodeAt?, claims.located] using private_free chosen
      have below : spot ≠ [] := by
        rintro rfl
        cases free
      have solid : world.disk.node? place ≠ some .directory := by simp [held]
      have alone := tree.alone solid
      have lies := Disk.node?_move_spare top held alone below free spot
      rw [if_pos rfl] at lies
      have leadsOwn := claims.kept (Disk.sameDirectories_move top held alone below free) rfl
      have allowed : own.text ∉ (world.disk.move place spot).faults.openDenied := readable
      have removable : (world.disk.move place spot).Willing own := willing
      have read : (world.disk.move place spot).read own = .ok content := by
        rw [Disk.read_of_allowed allowed leadsOwn, lies]
      have removed : (world.disk.move place spot).unlink own = .ok ((world.disk.move place spot).erase spot) := by
        rw [Disk.unlink_of_willing removable leadsOwn, lies]
      refine ⟨place, content, leads, held, _, Disk.becomes_move_erase top held alone below free, ?_⟩
      rw [readClaimed, disk_bind, read, bind_ran (discard_of_unlink removed)]
      rfl

theorem take_ways_claiming : TakeEnds p world.disk ((take p).outcome world) ((take p).left world).disk := by
  have ran : Act.ofExcept (privatePath world.disk p) world = .ok own world := by
    rw [chosen]
    rfl
  unfold Act.outcome Act.left
  rw [take, disk_bind, bind_ran ran]
  cases renamed : world.disk.rename p own with
  | ok moved =>
      obtain ⟨place, content, leads, file, disk, gone, read⟩ :=
        claimed_taken chosen tree plain readable willing renamed
      dsimp only
      rw [bind_ran (setDisk_ran moved world), bind_ran read]
      exact .taken leads file gone
  | error failure =>
      -- A failure other than a refusal shows that there is no file.
      have absent (other : ∀ error, failure = .os error → error.code = .notFound) (place : Location)
          (content : List UInt8) (leads : world.disk.Leads p place)
          (file : world.disk.node? place = some (.file content)) (_ : p.name? ≠ none) :
          p.text ∈ world.disk.faults.openDenied := by
        rcases rename_of_file chosen tree leads file with ⟨moved, done⟩ | ⟨error, failed, code⟩
        · rw [renamed] at done; cases done
        · rw [renamed] at failed
          exact absurd (other error (Except.error.inj failed)) code
      cases failure with
      | os error =>
          dsimp only
          by_cases missing : error.code = .notFound
          · rw [if_pos missing]
            exact .missing (absent (by rintro _ ⟨⟩; exact missing))
          · rw [if_neg missing, bind_ran (note_ran _ _ _)]
            exact readInPlace_ways chosen renamed _
      | _ => exact .failed (absent (by simp)) _

end Refused

section Take
variable {p : Path} {world : World} (tree : world.disk.IsTree)
include tree

theorem take_ways (plain : world.disk.nodeAt? p ≠ some .directory)
    (spared : ∀ own, privatePath world.disk p = .ok own →
      own.text ∉ world.disk.faults.openDenied ∧ world.disk.Willing own) :
    TakeEnds p world.disk ((take p).outcome world) ((take p).left world).disk := by
  cases chosen : privatePath world.disk p with
  | ok own => exact take_ways_claiming chosen tree plain (spared own chosen).1 (spared own chosen).2
  | error failure =>
      have nameless : p.name? = none := by
        by_contra named
        obtain ⟨own, other⟩ := private_of_named world.disk named
        rw [chosen] at other
        cases other
      have failed : Act.ofExcept (privatePath world.disk p) world = .error failure world := by
        rw [chosen]
        rfl
      unfold Act.outcome Act.left
      rw [take, disk_bind, bind_failed failed]
      exact .failed (fun _ _ _ _ named => absurd nameless named) failure

-- A path whose directory is there leads somewhere, if only its length admits that it is looked up.
theorem leads_of_housed (clean : '\x00' ∉ p.text) (short : ∀ name, p.name? = some name → name.size ≤ Disk.maxName)
    (fits : (Utf8.encode (world.disk.shown p)).length ≤ Disk.maxPath) (absent : world.disk.nodeAt? p = none)
    (housed : world.disk.nodeAt? p.parent = some .directory) :
    ∃ place, world.disk.Leads p place ∧ world.disk.node? place = none ∧ p.name? ≠ none ∧ p.name? ≠ some Name.up := by
  cases last : p.name? with
  | none =>
      have top : p.parent = p := by
        obtain ⟨anchor, names⟩ := p
        obtain rfl := List.getLast?_eq_none_iff.mp last
        rfl
      rw [top, absent] at housed
      cases housed
  | some name =>
      obtain ⟨base, above, entered⟩ : ∃ base, world.disk.locate p.parent = .ok base ∧
          world.disk.node? base = some .directory := by
        unfold Disk.nodeAt? at housed
        split at housed
        case h_1 base located => exact ⟨base, located, housed⟩
        case h_2 => cases housed
      have located : world.disk.locate p = .ok (if name = Name.up then base.dropLast else base ++ [name]) := by
        rw [Disk.locate, if_neg (Nat.not_lt.mpr fits), ← Path.child_parent last, Disk.absolute_child,
          Disk.walk_append _ _ _ _ _ (Disk.walk_of_locate above), Disk.walk_name _ _ _ entered,
          if_neg (Nat.not_lt.mpr (short name last))]
      simp only [Disk.nodeAt?, located] at absent
      refine ⟨_, ⟨clean, located⟩, absent, by simp, ?_⟩
      rintro ⟨⟩
      rw [if_pos rfl, tree.directory_dropLast entered] at absent
      cases absent

theorem take_absent (clean : '\x00' ∉ p.text) (short : ∀ name, p.name? = some name → name.size ≤ Disk.maxName)
    (fits : (Utf8.encode (world.disk.shown p)).length ≤ Disk.maxPath) (absent : world.disk.nodeAt? p = none)
    (housed : world.disk.nodeAt? p.parent = some .directory)
    (possible : ¬ (p.text ∈ world.disk.faults.renameDenied ∧ p.text ∈ world.disk.faults.openDenied)) :
    (take p).outcome world = .ok none := by
  obtain ⟨place, leads, free, named, proper⟩ := leads_of_housed tree clean short fits absent housed
  obtain ⟨own, chosen⟩ := private_of_named world.disk named
  have ran : Act.ofExcept (privatePath world.disk p) world = .ok own world := by
    rw [chosen]
    rfl
  rw [Act.outcome, take, disk_bind, bind_ran ran]
  by_cases denied : p.text ∈ world.disk.faults.renameDenied
  · have readable : p.text ∉ world.disk.faults.openDenied := fun refused => possible ⟨denied, refused⟩
    rw [Disk.rename_denied denied own]
    dsimp only
    rw [if_neg (by simp), bind_ran (note_ran _ _ _), readInPlace, disk_bind, Disk.read_of_allowed readable leads, free]
    rfl
  · have below : place ≠ [] := by
      rintro rfl
      cases free
    rw [Disk.rename_of_allowed denied leads (private_clean chosen leads.clean) proper below, free]
    rfl

end Take

/-- Whatever the disk refuses, a file is taken whole or left as it is, and nothing else changes. -/
theorem taken_whole_or_left (p : Path) (world : World) (tree : world.disk.IsTree)
    (plain : world.disk.nodeAt? p ≠ some .directory)
    (spared : ∀ own, privatePath world.disk p = .ok own →
      own.text ∉ world.disk.faults.openDenied ∧ world.disk.Willing own) :
    let disk := world.disk
    let outcome := (take p).outcome world
    let after := ((take p).left world).disk
    (∀ bytes, outcome = .ok (some bytes) → disk.nodeAt? p = some (.file bytes) ∧
      (after.nodeAt? p = none ∨ after = disk ∧ ∃ own unmoved unremoved, privatePath disk p = .ok own ∧
        disk.rename p own = .error unmoved ∧ disk.unlink p = .error unremoved)) ∧
    ((∀ bytes, outcome ≠ .ok (some bytes)) → after = disk) ∧
    (∀ own, privatePath disk p = .ok own → after.nodeAt? own = none) ∧
    (after.home = disk.home ∧ after.faults = disk.faults ∧
      ∀ spot, disk.locate p ≠ .ok spot → after.node? spot = disk.node? spot) ∧
    (∀ bytes, disk.nodeAt? p = some (.file bytes) → p.name? ≠ none → '\x00' ∉ p.text →
      p.text ∉ disk.faults.openDenied → outcome = .ok (some bytes)) ∧
    (disk.nodeAt? p = none → disk.nodeAt? p.parent = some .directory → '\x00' ∉ p.text →
      (∀ name, p.name? = some name → name.size ≤ Disk.maxName) →
      (Utf8.encode (disk.shown p)).length ≤ Disk.maxPath →
      ¬ (p.text ∈ disk.faults.renameDenied ∧ p.text ∈ disk.faults.openDenied) → outcome = .ok none) := by
  have ends := take_ways tree plain spared
  refine ⟨fun bytes taken => ?_, ends.unchanged, fun own => ends.private_free, ends.elsewhere,
    fun bytes => ends.of_file, fun absent housed clean short fits =>
      take_absent tree clean short fits absent housed⟩
  rw [taken] at ends
  exact ⟨ends.content, ends.gone_or_kept⟩

-- A file that can be read, but neither renamed nor removed.
namespace Stubborn

def file : Path := .ofString "/a"

def world : World where
  disk := {
    nodes := [([⟨['a'], by decide⟩], .file [104, 105])], home := [],
    faults := { renameDenied := [file.text], unlinkDenied := [file.text] } }
  log := ⟨.info, []⟩

theorem spared (own : Path) (chosen : privatePath world.disk file = .ok own) :
    own.text ∉ world.disk.faults.openDenied ∧ world.disk.Willing own := by
  obtain rfl : _ = own := Except.ok.inj chosen
  exact ⟨nofun, by decide +kernel, nofun⟩

end Stubborn

theorem stubborn_file_taken :
    Stubborn.world.disk.IsTree ∧ Stubborn.world.disk.nodeAt? Stubborn.file ≠ some .directory ∧
      (take Stubborn.file).outcome Stubborn.world = .ok (some [104, 105]) ∧
      (((take Stubborn.file).left Stubborn.world).disk.nodeAt? Stubborn.file = none ∨
        ((take Stubborn.file).left Stubborn.world).disk = Stubborn.world.disk) := by
  have tree : Stubborn.world.disk.IsTree := by decide +kernel
  have held : Stubborn.world.disk.nodeAt? Stubborn.file = some (.file [104, 105]) := by decide +kernel
  have plain : Stubborn.world.disk.nodeAt? Stubborn.file ≠ some .directory := by simp [held]
  obtain ⟨whole, _, _, _, present, _⟩ := taken_whole_or_left Stubborn.file Stubborn.world tree plain Stubborn.spared
  have taken := present [104, 105] held (by decide +kernel) (by decide +kernel) nofun
  refine ⟨tree, plain, taken, ?_⟩
  rcases (whole _ taken).2 with gone | ⟨same, _⟩
  · exact .inl gone
  · exact .inr same

-- A name of one byte too many.
def overlong : Path := ⟨.root, [⟨List.replicate (Disk.maxName + 1) 'a', by decide +kernel⟩]⟩

/-- A path that is too long to be looked up is not found missing, though nothing is there. -/
theorem overlong_name_not_found_missing :
    let world : World := { disk := { nodes := [], home := [], faults := {} }, log := ⟨.info, []⟩ }
    world.disk.IsTree ∧ world.disk.nodeAt? overlong = none ∧ world.disk.nodeAt? overlong.parent = some .directory ∧
      ∃ shown, (take overlong).outcome world = .error (.os ⟨.nameTooLong, shown⟩) := by
  exact ⟨by decide +kernel, by decide +kernel, by decide +kernel, [overlong.text], by decide +kernel⟩

end LogtalkNavigation.Artifact
