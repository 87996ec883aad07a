import LogtalkNavigation.Proofs.Results
import LogtalkNavigation.Service.Folders

/-! Which folder a path belongs to. The names of a folder that encloses a path are a beginning of the names of the path,
and of two beginnings of one list the shorter is a beginning of the longer. So the folders that enclose a path lie in
each other, and the one with the most parts lies in all of them, whatever the order in which they are listed. -/

namespace LogtalkNavigation

namespace Path

def Within (p root : Path) : Prop := root.anchor = p.anchor ∧ root.names <+: p.names

theorem mem_parents_iff (p root : Path) : root ∈ p.parents ↔ p.Within root ∧ root ≠ p := by
  obtain ⟨anchor, names⟩ := p
  obtain ⟨start, front⟩ := root
  simp only [parents, List.mem_reverse, List.mem_map, List.mem_range, Within, mk.injEq, ne_eq, not_and]
  constructor
  · rintro ⟨count, short, rfl, rfl⟩
    refine ⟨⟨rfl, List.take_prefix count names⟩, fun _ whole => ?_⟩
    have size := congrArg List.length whole
    rw [List.length_take] at size
    omega
  · rintro ⟨⟨rfl, starts⟩, other⟩
    have short : front.length < names.length := by
      refine Nat.lt_of_le_of_ne starts.length_le fun size => other rfl ?_
      exact starts.eq_of_length size
    exact ⟨front.length, short, rfl, (List.prefix_iff_eq_take.mp starts).symm⟩

theorem within_self (p : Path) : p.Within p := ⟨rfl, List.prefix_refl _⟩

theorem within_iff (p root : Path) : p.Within root ↔ p = root ∨ root ∈ p.parents := by
  rw [mem_parents_iff]
  constructor
  · intro within
    by_cases same : p = root
    · exact .inl same
    · exact .inr ⟨within, Ne.symm same⟩
  · rintro (rfl | ⟨within, _⟩)
    · exact within_self p
    · exact within

theorem Within.antisymm {one other : Path} (inner : one.Within other) (outer : other.Within one) : one = other := by
  obtain ⟨anchor, names⟩ := one
  obtain ⟨rfl, starts⟩ := inner
  exact congrArg (Path.mk _) (outer.2.eq_of_length_le starts.length_le)

-- The number of parts alone decides which of two folders of a path lies in the other.
theorem Within.chain {p one other : Path} (inOne : p.Within one) (inOther : p.Within other)
    (deeper : other.depth ≤ one.depth) : one.Within other := by
  have anchors : other.anchor = one.anchor := inOther.1.trans inOne.1.symm
  refine ⟨anchors, List.prefix_of_prefix_length_le inOther.2 inOne.2 ?_⟩
  rw [depth, depth, isAbsolute, isAbsolute, anchors] at deeper
  exact Nat.le_of_add_le_add_left deeper

end Path

namespace Folders

theorem encloses_iff (p root : Path) : encloses p root = true ↔ p.Within root := by
  rw [encloses, Bool.or_eq_true, decide_eq_true_iff, List.contains_iff_mem, Path.within_iff]

theorem deepest?_of_ne_nil {roots : List Path} (filled : roots ≠ []) :
    ∃ root ∈ roots, deepest? roots = some root ∧ ∀ other ∈ roots, other.depth ≤ root.depth := by
  induction roots with
  | nil => exact absurd rfl filled
  | cons root rest ih =>
      cases rest with
      | nil => exact ⟨root, List.mem_cons_self, rfl, by simp⟩
      | cons next rest =>
          obtain ⟨best, inside, found, most⟩ := ih (List.cons_ne_nil next rest)
          rw [deepest?, found]
          by_cases less : root.depth < best.depth
          · refine ⟨best, List.mem_cons_of_mem root inside, congrArg some (if_pos less), ?_⟩
            exact List.forall_mem_cons.mpr ⟨Nat.le_of_lt less, most⟩
          · refine ⟨root, List.mem_cons_self, congrArg some (if_neg less), ?_⟩
            refine List.forall_mem_cons.mpr ⟨Nat.le_refl _, fun other among => ?_⟩
            exact Nat.le_trans (most other among) (Nat.not_lt.mp less)

/-- The folder among some that encloses a path and lies in all others that do. -/
structure Innermost (roots : List Path) (p root : Path) : Prop where
  listed : root ∈ roots
  encloses : p.Within root
  inside : ∀ other ∈ roots, p.Within other → root.Within other

theorem Innermost.unique {roots : List Path} {p one other : Path} (first : Innermost roots p one)
    (second : Innermost roots p other) : one = other :=
  (first.inside other second.listed second.encloses).antisymm (second.inside one first.listed first.encloses)

theorem ownerAmong_of_enclosed {roots : List Path} {p : Path} (enclosed : ∃ root ∈ roots, p.Within root) :
    ∃ root, Innermost roots p root ∧ ownerAmong roots (some p) = some root := by
  have owners (root : Path) : root ∈ roots.filter (encloses p) ↔ root ∈ roots ∧ p.Within root := by
    rw [List.mem_filter, encloses_iff]
  obtain ⟨first, listed, within⟩ := enclosed
  have filled : roots.filter (encloses p) ≠ [] := List.ne_nil_of_mem ((owners first).mpr ⟨listed, within⟩)
  obtain ⟨root, chosen, found, deepest⟩ := deepest?_of_ne_nil filled
  obtain ⟨listed, within⟩ := (owners root).mp chosen
  refine ⟨root, ⟨listed, within, fun other among also => ?_⟩, by rw [ownerAmong, found]; rfl⟩
  exact within.chain also (deepest other ((owners other).mpr ⟨among, also⟩))

theorem ownerAmong_of_innermost {roots : List Path} {p root : Path} (innermost : Innermost roots p root) :
    ownerAmong roots (some p) = some root := by
  obtain ⟨owner, also, found⟩ := ownerAmong_of_enclosed ⟨root, innermost.listed, innermost.encloses⟩
  rw [found, innermost.unique also]

theorem ownerAmong_of_apart {roots : List Path} {asked : Option Path}
    (apart : ∀ p ∈ asked, ∀ root ∈ roots, ¬ p.Within root) : ownerAmong roots asked = roots.head? := by
  cases asked with
  | none => rfl
  | some p =>
      have nobody : roots.filter (encloses p) = [] := by
        refine List.filter_eq_nil_iff.mpr fun root listed => ?_
        rw [encloses_iff]
        exact apart p rfl root listed
      rw [ownerAmong, nobody]
      rfl

def Accepted (folders : Folders) : Prop := ∀ uri ∈ folders.uris, ∃ p, pathOfUri uri = .ok p

def Lists (folders : Folders) (root : Path) : Prop := ∃ uri ∈ folders.uris, pathOfUri uri = .ok root

theorem mem_of_named {uris : List Text} {paths : List Path} (named : uris.mapM pathOfUri = .ok paths) (p : Path) :
    p ∈ paths ↔ ∃ uri ∈ uris, pathOfUri uri = .ok p := by
  induction (mapM_eq_ok_iff_forall₂ pathOfUri uris paths).mp named with
  | nil => simp
  | cons one others ih =>
      have rest := ih ((mapM_eq_ok_iff_forall₂ _ _ _).mpr others)
      simp [rest, one, eq_comm]

theorem Accepted.named {folders : Folders} (accepted : folders.Accepted) :
    ∃ paths, folders.uris.mapM pathOfUri = .ok paths ∧ ∀ p, p ∈ paths ↔ folders.Lists p := by
  cases named : folders.uris.mapM pathOfUri with
  | ok paths => exact ⟨paths, rfl, mem_of_named named⟩
  | error failure =>
      obtain ⟨uri, listed, failed⟩ := error_of_mapM named
      obtain ⟨p, fine⟩ := accepted uri listed
      rw [fine] at failed
      cases failed

theorem roots_of_named {folders : Folders} {paths : List Path} (named : folders.uris.mapM pathOfUri = .ok paths)
    (filled : paths ≠ []) : folders.roots = .ok paths := by
  obtain ⟨first, rest, rfl⟩ := List.exists_cons_of_ne_nil filled
  rw [roots, named]
  rfl

theorem owner_of_roots {folders : Folders} {roots : List Path} (found : folders.roots = .ok roots)
    (asked : Option Path) : folders.owner asked = .ok (ownerAmong roots asked) := by
  rw [owner, found]
  rfl

-- A root path is no folder, but it is taken for the only one if there is none.
theorem ownerAmong_single (root : Path) (asked : Option Path) : ownerAmong [root] asked = some root := by
  cases asked with
  | none => rfl
  | some p => by_cases enclosing : encloses p root = true <;> simp [ownerAmong, enclosing, deepest?]

theorem owner_of_innermost {folders : Folders} (accepted : folders.Accepted) {p root : Path}
    (listed : folders.Lists root) (within : p.Within root)
    (inside : ∀ other, folders.Lists other → p.Within other → root.Within other) :
    folders.owner (some p) = .ok (some root) := by
  obtain ⟨paths, named, members⟩ := accepted.named
  have among : root ∈ paths := (members root).mpr listed
  have innermost : Innermost paths p root :=
    ⟨among, within, fun other known => inside other ((members other).mp known)⟩
  rw [owner_of_roots (roots_of_named named (List.ne_nil_of_mem among)), ownerAmong_of_innermost innermost]

/-- A path belongs to the folder that encloses it and lies in all other folders that do, in whatever order the folders
are listed. A path that no folder encloses belongs to the first one; if there are no folders, the root path takes their
place, and without one of either there is no owner. -/
theorem owner_is_innermost_folder (folders : Folders) (accepted : folders.Accepted) :
    (∀ p, (∃ root, folders.Lists root ∧ p.Within root) →
      ∃ root, folders.Lists root ∧ p.Within root ∧
        (∀ other, folders.Lists other → p.Within other → root.Within other) ∧
        ∀ (order : List Text) (rootPath : Option Text), order.Perm folders.uris →
          owner ⟨order, rootPath⟩ (some p) = .ok (some root)) ∧
    ∀ asked : Option Path, (∀ p ∈ asked, ∀ root, folders.Lists root → ¬ p.Within root) →
      (∀ uri others, folders.uris = uri :: others →
        ∃ first, pathOfUri uri = .ok first ∧ folders.owner asked = .ok (some first)) ∧
      (folders.uris = [] →
        (∀ c rest, folders.rootPath = some (c :: rest) →
          folders.owner asked = .ok (some (Path.ofText (c :: rest)))) ∧
        (folders.rootPath = none ∨ folders.rootPath = some [] → folders.owner asked = .ok none)) := by
  obtain ⟨paths, named, members⟩ := accepted.named
  refine ⟨?_, fun asked apart => ⟨?_, ?_⟩⟩
  · rintro p ⟨enclosing, listed, within⟩
    obtain ⟨root, innermost, _⟩ := ownerAmong_of_enclosed ⟨enclosing, (members enclosing).mpr listed, within⟩
    have known := (members root).mp innermost.listed
    have inside (other : Path) (also : folders.Lists other) : p.Within other → root.Within other :=
      innermost.inside other ((members other).mpr also)
    refine ⟨root, known, innermost.encloses, inside, fun order rootPath same => ?_⟩
    -- The same folders are listed in any order, and that is all that the owner depends on.
    have lists (other : Path) : Lists ⟨order, rootPath⟩ other ↔ folders.Lists other := by
      simp only [Lists, same.mem_iff]
    refine owner_of_innermost (fun uri among => accepted uri (same.mem_iff.mp among)) ((lists root).mpr known)
      innermost.encloses fun other also => inside other ((lists other).mp also)
  · intro uri others listed
    have divided := (mapM_eq_ok_iff_forall₂ pathOfUri folders.uris paths).mp named
    rw [listed, List.forall₂_cons_left_iff] at divided
    obtain ⟨first, rest, one, _, rfl⟩ := divided
    refine ⟨first, one, ?_⟩
    rw [owner_of_roots (roots_of_named named (List.cons_ne_nil first rest)), ownerAmong_of_apart]
    · rfl
    · intro p known root among
      exact apart p known root ((members root).mp among)
  · intro empty
    constructor
    · intro c rest given
      have found : folders.roots = .ok [Path.ofText (c :: rest)] := by
        rw [roots, empty, given]
        rfl
      rw [owner_of_roots found, ownerAmong_single]
    · intro missing
      have found : folders.roots = .ok [] := by
        rw [roots, empty]
        rcases missing with none | blank
        · rw [none]
          rfl
        · rw [blank]
          rfl
      rw [owner_of_roots found]
      cases asked <;> rfl

-- Folders that lie in each other, one of them twice and one in other writing. Two slashes in front start
-- another path.
namespace Nested

def folders : Folders where
  uris := ["file:///w/a".toList, "file:////w/a/b/c".toList, "file:///w//a/./b/".toList, "/w/a/b".toList,
    "file:///w/a/b/d".toList, "x".toList]

theorem accepted : folders.Accepted := by
  intro uri listed
  simp only [folders, List.mem_cons, List.not_mem_nil, or_false] at listed
  rcases listed with rfl | rfl | rfl | rfl | rfl | rfl <;> exact ⟨_, rfl⟩

def document : Path := Path.ofString "/w/a/b/e.lgt"

def owner : Path := Path.ofString "/w/a/b"

end Nested

theorem nested_folder_owns :
    Nested.folders.Accepted ∧ Nested.document.Within Nested.owner ∧
      (∀ order : List Text, order.Perm Nested.folders.uris →
        owner ⟨order, none⟩ (some Nested.document) = .ok (some Nested.owner)) ∧
      Nested.folders.owner none = .ok (some (Path.ofString "/w/a")) := by
  have within : Nested.document.Within Nested.owner := (encloses_iff _ _).mp (by decide)
  obtain ⟨enclosed, apart⟩ := owner_is_innermost_folder Nested.folders Nested.accepted
  obtain ⟨root, _, _, _, owns⟩ := enclosed Nested.document ⟨Nested.owner, ⟨"/w/a/b".toList, by decide, rfl⟩, within⟩
  have found : Nested.folders.owner (some Nested.document) = .ok (some Nested.owner) := by decide +kernel
  have same : root = Nested.owner := by
    have also := (owns Nested.folders.uris none (List.Perm.refl _)).symm.trans found
    exact Option.some.inj (Except.ok.inj also)
  obtain ⟨first, named, owned⟩ := (apart none (by simp)).1 "file:///w/a".toList _ rfl
  have path : pathOfUri "file:///w/a".toList = .ok (Path.ofString "/w/a") := by decide +kernel
  cases named.symm.trans path
  exact ⟨Nested.accepted, within, fun order perm => same ▸ owns order none perm, owned⟩

end Folders

end LogtalkNavigation
