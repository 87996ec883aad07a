import LogtalkNavigation.Path.Uri
import LogtalkNavigation.Proofs.Path
import LogtalkNavigation.Proofs.Text.Stored
import Mathlib.Data.List.TakeWhile

/-! Paths written as text and as URIs. Both are read back as the path that was written, whatever characters its
names have: a path as text always, and the URI of a path if the path is absolute. -/

namespace LogtalkNavigation

namespace Text

theorem splitOn_append (separator : Char) (part rest : Text) (whole : separator ∉ part) :
    splitOn separator (part ++ separator :: rest) = part :: splitOn separator rest := by
  induction part with
  | nil => rw [List.nil_append, splitOn, if_pos rfl]
  | cons c part ih =>
      have other : c ≠ separator := fun same => whole (same ▸ List.mem_cons_self)
      rw [List.cons_append, splitOn, if_neg other, ih fun inside => whole (List.mem_cons_of_mem _ inside)]
      rfl

theorem join_cons_cons (separator part next : Text) (rest : List Text) :
    join separator (part :: next :: rest) = part ++ (separator ++ join separator (next :: rest)) := by
  simp [join, List.intercalate]

theorem splitOn_join (separator : Char) (parts : List Text) (some : parts ≠ [])
    (whole : ∀ part ∈ parts, separator ∉ part) : splitOn separator (join [separator] parts) = parts := by
  induction parts with
  | nil => exact absurd rfl some
  | cons part rest ih =>
      have first := whole part List.mem_cons_self
      cases rest with
      | nil =>
          have single : join [separator] [part] = part := by simp [join, List.intercalate]
          rw [single, splitOn_whole separator part first]
      | cons next rest =>
          rw [join_cons_cons, List.singleton_append, splitOn_append separator part _ first,
            ih (List.cons_ne_nil _ _) fun other inside => whole other (List.mem_cons_of_mem _ inside)]

end Text

namespace Path

theorem ofText?_name (name : Name) : Name.ofText? name.1 = some name := by
  rw [Name.ofText?, dif_pos name.2]

theorem names_of_split (names : List Name) : (names.map (·.1)).filterMap Name.ofText? = names := by
  induction names with
  | nil => rfl
  | cons name rest ih => rw [List.map_cons, List.filterMap_cons, ofText?_name, ih]

theorem names_of_join (names : List Name) :
    (Text.splitOn '/' (Text.join ['/'] (names.map (·.1)))).filterMap Name.ofText? = names := by
  cases names with
  | nil => rfl
  | cons name rest =>
      rw [Text.splitOn_join '/' _ (by simp), names_of_split]
      intro part inside
      obtain ⟨other, _, rfl⟩ := List.mem_map.mp inside
      exact other.2.2.2

-- Between an anchor and its names there is no slash that could be counted to the anchor.
theorem slashes_join (names : List Name) : (Text.join ['/'] (names.map (·.1))).takeWhile (· = '/') = [] := by
  have starts : ∀ name : Name, ∀ rest : Text, (name.1 ++ rest).takeWhile (· = '/') = [] := by
    rintro ⟨text, nonempty, _, slashless⟩ rest
    cases text with
    | nil => exact absurd rfl nonempty
    | cons c text =>
        have other : c ≠ '/' := fun same => slashless (same ▸ List.mem_cons_self)
        simp [other]
  cases names with
  | nil => rfl
  | cons name rest =>
      cases rest with
      | nil => simpa [Text.join, List.intercalate] using starts name []
      | cons next rest =>
          rw [List.map_cons, List.map_cons, Text.join_cons_cons]
          exact starts name _

theorem names_slash (rest : Text) : (Text.splitOn '/' ('/' :: rest)).filterMap Name.ofText? =
    (Text.splitOn '/' rest).filterMap Name.ofText? := by
  rw [Text.splitOn, if_pos rfl]
  rfl

theorem slashes_slash (rest : Text) :
    ('/' :: rest).takeWhile (· = '/') = '/' :: rest.takeWhile (· = '/') := rfl

theorem text_absolute (anchor : Anchor) (names : List Name) (absolute : anchor ≠ .relative) :
    text ⟨anchor, names⟩ = anchor.text ++ Text.join ['/'] (names.map (·.1)) := by
  rw [text]
  rintro rfl
  exact absurd rfl absolute

theorem ofText_text (p : Path) : ofText p.text = p := by
  obtain ⟨anchor, names⟩ := p
  cases anchor with
  | relative =>
      cases names with
      | nil => rfl
      | cons name rest =>
          have written : text ⟨.relative, name :: rest⟩ = Text.join ['/'] ((name :: rest).map (·.1)) := rfl
          rw [written, ofText, names_of_join, slashes_join]
          rfl
  | root =>
      rw [text_absolute .root names (by decide), Anchor.text, List.singleton_append, ofText, names_slash, slashes_slash,
        names_of_join, slashes_join]
      rfl
  | doubleRoot =>
      rw [text_absolute .doubleRoot names (by decide), Anchor.text, List.cons_append, List.singleton_append, ofText,
        names_slash, names_slash, slashes_slash, slashes_slash, names_of_join, slashes_join]
      rfl

theorem starts_of_absolute (p : Path) (absolute : p.isAbsolute = true) : ∃ rest, p.text = '/' :: rest := by
  obtain ⟨anchor, names⟩ := p
  cases anchor with
  | relative => cases absolute
  | root => exact ⟨_, rfl⟩
  | doubleRoot => exact ⟨_, rfl⟩

end Path

namespace Percent

def IsSafe (c : Char) : Prop :=
  c.toNat < 0x80 ∧ c ≠ '#' ∧ c ≠ '?' ∧ c ≠ '\t' ∧ c ≠ '\r' ∧ c ≠ '\n'

instance (c : Char) : Decidable (IsSafe c) := inferInstanceAs (Decidable (_ ∧ _))

theorem value?_digit (value : Nat) (small : value < 16) : value? (digit value) = some value := by
  have all : ∀ value < 16, value? (digit value) = some value := by decide
  exact all value small

theorem isSafe_digit (value : Nat) (small : value < 16) : IsSafe (digit value) := by
  have all : ∀ value < 16, IsSafe (digit value) := by decide
  exact all value small

-- What a plain byte is written as: none of the characters that a URI is divided at, nor the one of codes.
theorem plain_char (byte : UInt8) (plain : isPlain byte = true) :
    (Char.ofNat byte.toNat).toNat = byte.toNat ∧ IsSafe (Char.ofNat byte.toNat) ∧
      Char.ofNat byte.toNat ≠ '%' := by
  obtain ⟨ascii, listed⟩ := Bool.and_eq_true_iff.mp plain
  have small : byte.toNat < 0x80 := UInt8.lt_iff_toNat_lt.mp (of_decide_eq_true ascii)
  have same : (Char.ofNat byte.toNat).toNat = byte.toNat := by
    have valid : byte.toNat.isValidChar := .inl (by omega)
    have made : Char.ofNat byte.toNat = Char.ofNatAux byte.toNat valid := dif_pos valid
    rw [made]
    rfl
  refine ⟨same, ⟨same.trans_lt small, ?_, ?_, ?_, ?_, ?_⟩, ?_⟩
  all_goals
    intro reserved
    rw [reserved] at listed
    revert listed
    decide

theorem isSafe_of_mem_encodeByte (byte : UInt8) : ∀ c ∈ encodeByte byte, IsSafe c := by
  have small : byte.toNat < 256 := byte.toNat_lt
  intro c inside
  unfold encodeByte at inside
  split at inside
  case isTrue plain =>
    rw [List.mem_singleton.mp inside]
    exact (plain_char byte plain).2.1
  case isFalse =>
    simp only [List.mem_cons, List.not_mem_nil, or_false] at inside
    rcases inside with rfl | rfl | rfl
    · decide
    · exact isSafe_digit _ (by omega)
    · exact isSafe_digit _ (by omega)

theorem isSafe_of_mem_encode (text : Text) : ∀ c ∈ encode text, IsSafe c := by
  intro c inside
  obtain ⟨byte, _, written⟩ := List.mem_flatMap.mp inside
  exact isSafe_of_mem_encodeByte byte c written

theorem bytes_cons (c : Char) (rest : Text) (other : c ≠ '%') :
    bytes (c :: rest) = UInt8.ofNat c.toNat :: bytes rest := by
  rw [bytes]
  rintro a b text rfl
  exact absurd rfl other

theorem bytes_encodeByte (byte : UInt8) (rest : Text) : bytes (encodeByte byte ++ rest) = byte :: bytes rest := by
  unfold encodeByte
  split
  case isTrue plain =>
    obtain ⟨same, _, other⟩ := plain_char byte plain
    rw [List.singleton_append, bytes_cons _ rest other, same, UInt8.ofNat_toNat]
  case isFalse =>
    have small : byte.toNat < 256 := byte.toNat_lt
    have whole : byte.toNat / 16 * 16 + byte.toNat % 16 = byte.toNat := Nat.div_add_mod' _ _
    simp only [List.cons_append, List.nil_append, bytes, value?_digit (byte.toNat / 16) (by omega),
      value?_digit (byte.toNat % 16) (by omega), whole, UInt8.ofNat_toNat]

theorem bytes_encode (text : Text) : bytes (encode text) = Utf8.encode text := by
  have each : ∀ list : List UInt8, bytes (list.flatMap encodeByte) = list := by
    intro list
    induction list with
    | nil => rfl
    | cons byte rest ih => rw [List.flatMap_cons, bytes_encodeByte, ih]
  exact each _

theorem encode_slash (rest : Text) : encode ('/' :: rest) = '/' :: encode rest := by
  have slash : (String.utf8EncodeChar '/').flatMap encodeByte = ['/'] := by decide
  rw [encode, Utf8.encode, List.flatMap_cons, List.flatMap_append, slash]
  rfl

theorem decodeFrom_ascii (run text : Text) (ascii : ∀ c ∈ text, c.toNat < 0x80) :
    decodeFrom run text = Utf8.decode (bytes (run.reverse ++ text)) := by
  induction text generalizing run with
  | nil => rw [decodeFrom, List.append_nil]
  | cons c rest ih =>
      rw [decodeFrom, if_pos (ascii c List.mem_cons_self),
        ih _ fun d inside => ascii d (List.mem_cons_of_mem _ inside), List.reverse_cons, List.append_assoc,
        List.singleton_append]

theorem decode_encode (text : Text) : decode (encode text) = text := by
  rw [decode, decodeFrom_ascii [] _ fun c inside => (isSafe_of_mem_encode text c inside).1,
    List.reverse_nil, List.nil_append, bytes_encode, Utf8.decode_encode]

end Percent

namespace Uri

theorem splitScheme_file (rest : Text) : splitScheme ("file:".toList ++ rest) = ("file".toList, rest) := rfl

theorem splitHost_none (rest : Text) : splitHost ('/' :: '/' :: '/' :: rest) = ([], '/' :: rest) := rfl

theorem ofText_file (rest : Text) (safe : ∀ c ∈ '/' :: rest, Percent.IsSafe c) :
    ofText ("file://".toList ++ '/' :: rest) = .ok ⟨"file".toList, [], '/' :: rest⟩ := by
  have started : ("file://".toList ++ '/' :: rest).dropWhile (fun c => c.toNat ≤ 0x20) =
    "file://".toList ++ '/' :: rest := rfl
  have clean : ('/' :: rest).filter (fun c => c ≠ '\t' && c ≠ '\r' && c ≠ '\n') = '/' :: rest := by
    rw [List.filter_eq_self]
    intro c inside
    obtain ⟨_, _, _, noTab, noReturn, noNewline⟩ := safe c inside
    simp [noTab, noReturn, noNewline]
  have whole : ("file://".toList ++ '/' :: rest).filter (fun c => c ≠ '\t' && c ≠ '\r' && c ≠ '\n') =
      "file:".toList ++ '/' :: '/' :: '/' :: rest := by
    rw [List.filter_append, clean]
    rfl
  have noFragment : ('/' :: rest).takeWhile (· ≠ '#') = '/' :: rest :=
    List.takeWhile_eq_self_iff.mpr fun c inside => by simpa using (safe c inside).2.1
  have noQuery : ('/' :: rest).takeWhile (· ≠ '?') = '/' :: rest :=
    List.takeWhile_eq_self_iff.mpr fun c inside => by simpa using (safe c inside).2.2.1
  have hostless : checkHost [] = .ok () := rfl
  have plain : schemesWithParameters.contains (String.ofList "file".toList) = false := by decide
  simp only [ofText, started, whole, splitScheme_file, splitHost_none, hostless, noFragment, noQuery, plain]
  rfl

theorem toPath_uri (p : Path) (absolute : p.isAbsolute = true) : toPath p.uri = .ok p := by
  obtain ⟨rest, starts⟩ := p.starts_of_absolute absolute
  have encoded : Percent.encode p.text = '/' :: Percent.encode rest := by
    rw [starts, Percent.encode_slash]
  have written : p.uri = "file://".toList ++ '/' :: Percent.encode rest :=
    congrArg ("file://".toList ++ ·) encoded
  have read : ofText p.uri = .ok ⟨"file".toList, [], Percent.encode p.text⟩ := by
    have safe := Percent.isSafe_of_mem_encode p.text
    rw [encoded] at safe ⊢
    exact (congrArg ofText written).trans (ofText_file _ safe)
  simp only [toPath, read, bind, Except.bind, pure, Except.pure, if_true, Percent.decode_encode, Path.ofText_text]

end Uri

end LogtalkNavigation
