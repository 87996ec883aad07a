import LogtalkNavigation.Hierarchy
import LogtalkNavigation.Proofs.Path.Uri

/-! What the URI of a path names. That of an absolute path names the path itself; that of a relative path names
the path that it is resolved to, which is the location that it leads to on the disk. -/

namespace LogtalkNavigation

namespace Path

theorem climb_append (base front back : List Name) :
    climb base (front ++ back) = climb (climb base front) back := by
  induction front generalizing base with
  | nil => rfl
  | cons name rest ih =>
      rw [List.cons_append, climb, climb]
      exact ih _

theorem climb_of_straight (base names : List Name) (straight : Name.up ∉ names) :
    climb base names = base ++ names := by
  induction names generalizing base with
  | nil => exact (List.append_nil base).symm
  | cons name rest ih =>
      have other : name ≠ Name.up := fun same => straight (same ▸ List.mem_cons_self)
      rw [climb, if_neg other, ih _ fun inside => straight (List.mem_cons_of_mem _ inside),
        List.append_assoc, List.singleton_append]

theorem up_notMem_climb (base names : List Name) (straight : Name.up ∉ base) :
    Name.up ∉ climb base names := by
  induction names generalizing base with
  | nil => exact straight
  | cons name rest ih =>
      rw [climb]
      apply ih
      by_cases same : name = Name.up
      · rw [if_pos same]
        intro inside
        exact straight (List.dropLast_subset base inside)
      · rw [if_neg same]
        intro inside
        rcases List.mem_append.mp inside with early | last
        · exact straight early
        · exact same (List.mem_singleton.mp last).symm

theorem isAbsolute_resolve (p : Path) (home : List Name) : (p.resolve home).isAbsolute = true := by
  unfold resolve
  split
  case isTrue absolute => exact absolute
  case isFalse => rfl

end Path

namespace Disk

-- Following names on the disk and following them on paper end at the same location.
theorem walk_eq_climb {disk : Disk} {place target : Location} {names : List Name}
    (leads : disk.walk place names = .ok target) : target = Path.climb place names := by
  induction names generalizing place with
  | nil =>
      cases leads
      rfl
  | cons name rest ih =>
      rw [walk] at leads
      split at leads
      case h_1 => cases leads
      case h_2 => cases leads
      case h_3 =>
        split at leads
        case isTrue => cases leads
        case isFalse => exact ih leads

theorem resolve_of_locate {disk : Disk} {p : Path} {place : Location} (straight : Name.up ∉ disk.home)
    (relative : p.isAbsolute = false) (leads : disk.locate p = .ok place) :
    p.resolve disk.home = ⟨.root, place⟩ := by
  have apart : ¬ p.isAbsolute = true := by simp [relative]
  unfold locate at leads
  split at leads
  case isTrue => cases leads
  case isFalse =>
    have ends := walk_eq_climb leads
    rw [absolute, if_neg apart, Path.climb_append, Path.climb_of_straight [] disk.home straight,
      List.nil_append] at ends
    rw [Path.resolve, if_neg apart, ends]

theorem uriOf_absolute (disk : Disk) {p : Path} (absolute : p.isAbsolute = true) :
    disk.uriOf p = .ok p.uri := by
  rw [uriOf, if_pos absolute]

theorem uriOf_relative (disk : Disk) {p : Path} (relative : p.isAbsolute = false) (clean : '\x00' ∉ p.text) :
    disk.uriOf p = .ok (p.resolve disk.home).uri := by
  rw [uriOf, if_neg (by simp [relative]), if_neg (by simpa using clean)]

end Disk

/-- Every absolute path is read back from its URI, whatever characters it has, so that no two of them share one.
The URI of a relative path is read back as the absolute path that it is resolved to: in a current directory
without two dots there are none in that path either, and it consists of the names of the location that the path
leads to, if it leads anywhere. -/
theorem uri_names_path (disk : Disk) (p : Path) :
    (p.isAbsolute = true → ∃ uri, disk.uriOf p = .ok uri ∧ Uri.toPath uri = .ok p) ∧
    (p.isAbsolute = false → '\x00' ∉ p.text →
      ∃ uri, disk.uriOf p = .ok uri ∧ Uri.toPath uri = .ok (p.resolve disk.home) ∧
        (p.resolve disk.home).isAbsolute = true ∧
        (Name.up ∉ disk.home → Name.up ∉ (p.resolve disk.home).names ∧
          ∀ place, disk.locate p = .ok place → p.resolve disk.home = ⟨.root, place⟩)) ∧
    ∀ other, p.isAbsolute = true → other.isAbsolute = true → disk.uriOf p = disk.uriOf other → p = other := by
  refine ⟨?_, ?_, ?_⟩
  · intro absolute
    exact ⟨p.uri, disk.uriOf_absolute absolute, Uri.toPath_uri p absolute⟩
  · intro relative clean
    have absolute := p.isAbsolute_resolve disk.home
    refine ⟨(p.resolve disk.home).uri, disk.uriOf_relative relative clean, Uri.toPath_uri _ absolute, absolute, ?_⟩
    intro straight
    constructor
    · rw [Path.resolve, if_neg (by simp [relative])]
      exact Path.up_notMem_climb disk.home p.names straight
    · intro place leads
      exact Disk.resolve_of_locate straight relative leads
  · intro other absolute absolute' same
    rw [disk.uriOf_absolute absolute, disk.uriOf_absolute absolute'] at same
    have alike : p.uri = other.uri := Except.ok.inj same
    have read := Uri.toPath_uri p absolute
    rw [alike, Uri.toPath_uri other absolute'] at read
    exact (Except.ok.inj read).symm

-- Names with what a URI is divided at, below two slashes, and a path that leads up from the current directory.
namespace Strange

def disk : Disk := ⟨[([⟨['w'], by decide⟩], .directory)], [⟨['w'], by decide⟩], {}⟩

def absolute : Path := Path.ofString "//w s/%41?é#;[:\\\n"

def relative : Path := Path.ofString "../a?b"

end Strange

theorem strange_uris_name_paths :
    (∃ uri, Strange.disk.uriOf Strange.absolute = .ok uri ∧ Uri.toPath uri = .ok Strange.absolute) ∧
    (∃ uri, Strange.disk.uriOf Strange.relative = .ok uri ∧ Uri.toPath uri = .ok (Path.ofString "/a?b")) ∧
    Strange.disk.uriOf Strange.absolute ≠ Strange.disk.uriOf (Path.ofString "/w s/%41?é#;[:\\\n") := by
  obtain ⟨named, _, apart⟩ := uri_names_path Strange.disk Strange.absolute
  obtain ⟨_, resolved, _⟩ := uri_names_path Strange.disk Strange.relative
  obtain ⟨uri, written, read, _, leads⟩ := resolved (by decide +kernel) (by decide +kernel)
  obtain ⟨_, located⟩ := leads (by decide +kernel)
  have spot : Strange.relative.resolve Strange.disk.home = Path.ofString "/a?b" :=
    located [⟨"a?b".toList, by decide⟩] (by decide +kernel)
  refine ⟨named (by decide +kernel), ⟨uri, written, by rw [read, spot]⟩, ?_⟩
  intro same
  exact absurd (apart _ (by decide +kernel) (by decide +kernel) same) (by decide +kernel)

end LogtalkNavigation
