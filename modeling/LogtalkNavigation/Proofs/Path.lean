import LogtalkNavigation.Artifact.Kind
import LogtalkNavigation.Artifact.Private

/-! Texts and names of paths. The text of a path has the characters of its names, and slashes; a name that
is read as a path is that name alone. -/

namespace LogtalkNavigation

namespace Text

theorem mem_join_slash (c : Char) (parts : List Text) (other : c ≠ '/') :
    c ∈ join ['/'] parts ↔ ∃ part ∈ parts, c ∈ part := by
  induction parts with
  | nil => simp [join, List.intercalate]
  | cons part rest ih =>
      cases rest with
      | nil => simp [join, List.intercalate]
      | cons next rest =>
          have divided : join ['/'] (part :: next :: rest) = part ++ '/' :: join ['/'] (next :: rest) := by
            simp [join, List.intercalate]
          rw [divided, List.mem_append, List.mem_cons, ih]
          simp [other]

theorem splitOn_whole (separator : Char) (text : Text) (whole : separator ∉ text) :
    splitOn separator text = [text] := by
  induction text with
  | nil => rfl
  | cons c text ih =>
      have other : c ≠ separator := fun same => whole (same ▸ List.mem_cons_self)
      rw [splitOn, if_neg other, ih fun inside => whole (List.mem_cons_of_mem _ inside)]
      rfl

end Text

namespace Path

theorem ofText_name (name : Name) : ofText name.1 = ⟨.relative, [name]⟩ := by
  obtain ⟨text, valid⟩ := name
  have starts : text.takeWhile (· = '/') = [] := by
    cases text with
    | nil => rfl
    | cons c rest =>
        have other : c ≠ '/' := fun same => valid.2.2 (same ▸ List.mem_cons_self)
        simp [other]
  simp only [ofText, starts, Text.splitOn_whole '/' text valid.2.2]
  simp [Anchor.ofSlashes, Name.ofText?, valid]

theorem join_name (root : Path) (name : Name) : root / ofText name.1 = root.child name := by
  rw [ofText_name]
  rfl

theorem name?_child (p : Path) (name : Name) : (p.child name).name? = some name := by
  simp [name?, child]

theorem parent_child (p : Path) (name : Name) : (p.child name).parent = p := by
  simp [parent, child]

theorem child_parent {p : Path} {name : Name} (last : p.name? = some name) : p.parent.child name = p := by
  obtain ⟨anchor, names⟩ := p
  obtain ⟨front, rfl⟩ := List.getLast?_eq_some_iff.mp last
  simp [parent, child]

theorem mem_text_iff (p : Path) (c : Char) (noSlash : c ≠ '/') (noDot : c ≠ '.') :
    c ∈ p.text ↔ ∃ name ∈ p.names, c ∈ name.1 := by
  unfold text
  split
  · simp [noDot]
  · rename_i anchor names _
    have front : c ∉ anchor.text := by
      cases anchor <;> simp [Anchor.text, noSlash]
    rw [List.mem_append, Text.mem_join_slash c _ noSlash]
    simp [front]

theorem nul_mem_text_iff (p : Path) : '\x00' ∈ p.text ↔ ∃ name ∈ p.names, '\x00' ∈ name.1 :=
  mem_text_iff p '\x00' (by decide) (by decide)

end Path

namespace Artifact

def Kind.resultName (kind : Kind) : Name := ⟨kind.result.toList, by cases kind <;> decide⟩

def Kind.sentinelName (kind : Kind) : Name := ⟨kind.sentinel.toList, by cases kind <;> decide⟩

theorem nul_notMem_paddedDigits (width number : Nat) : '\x00' ∉ paddedDigits width number := by
  intro nul
  rcases List.mem_append.mp nul with inZeros | inDigits
  · exact absurd (List.eq_of_mem_replicate inZeros) (by decide)
  · exact absurd (Nat.isDigit_of_mem_toDigits (by decide) (by decide) inDigits) (by decide)

theorem nul_notMem_claimMark (token : Nat) : '\x00' ∉ claimMark token := by
  simp [claimMark, claimWord, nul_notMem_paddedDigits]

theorem nul_mem_privateName (name : Name) (token : Nat) :
    '\x00' ∈ (privateName name token).1 ↔ '\x00' ∈ name.1 := by
  simp [privateName, Name.append, nul_notMem_claimMark]

theorem nul_mem_private (p : Path) (name : Name) (last : p.name? = some name) (token : Nat) :
    '\x00' ∈ (p.parent.child (privateName name token)).text ↔ '\x00' ∈ p.text := by
  obtain ⟨front, names⟩ := List.getLast?_eq_some_iff.mp last
  rw [Path.nul_mem_text_iff, Path.nul_mem_text_iff]
  simp only [Path.child, Path.parent, names, List.dropLast_concat]
  simp [or_and_right, exists_or, nul_mem_privateName]

end Artifact

end LogtalkNavigation
