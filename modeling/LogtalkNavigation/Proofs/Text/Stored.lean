import LogtalkNavigation.Source

/-! Texts as files hold them. A text that is written is read back as it was, and the lines of an artifact
are the same whether its line ends are unified or not, so an artifact that is written line by line has
just these lines. -/

namespace LogtalkNavigation.Utf8

theorem byte_toNat (value : Nat) (small : value < 256) : (UInt8.ofNat value).toNat = value := by
  rw [UInt8.toNat_ofNat']
  exact Nat.mod_eq_of_lt small

theorem pieces_last (low high bits read value : Nat) (rest : List UInt8) (small : value < 256)
    (above : low ≤ value) (below : value ≤ high) :
    pieces (.inside 1 low high bits read) (UInt8.ofNat value :: rest) =
      .char (Char.ofNat (bits * 64 + (value - 0x80))) :: pieces .idle rest := by
  simp [pieces, step, byte_toNat value small, above, below]

theorem pieces_more (missing low high bits read value : Nat) (rest : List UInt8)
    (small : value < 256) (above : low ≤ value) (below : value ≤ high) :
    pieces (.inside (missing + 2) low high bits read) (UInt8.ofNat value :: rest) =
      pieces (.inside (missing + 1) 0x80 0xBF (bits * 64 + (value - 0x80)) (read + 1)) rest := by
  simp [pieces, step, byte_toNat value small, above, below]

theorem pieces_lead (value missing low high bits : Nat) (rest : List UInt8) (small : value < 256)
    (leads : first value = (.inside missing low high bits 1, [])) :
    pieces .idle (UInt8.ofNat value :: rest) = pieces (.inside missing low high bits 1) rest := by
  simp [pieces, step, byte_toNat value small, leads]

theorem two_bytes_lead (value : Nat) (above : 0x7F < value) (below : value ≤ 0x7FF) :
    first (value / 64 % 32 + 192) = (.inside 1 0x80 0xBF (value / 64) 1, []) := by
  have lead : value / 64 % 32 = value / 64 := Nat.mod_eq_of_lt (by omega)
  have least : 2 ≤ value / 64 := by omega
  have most : value / 64 < 32 := by omega
  simp only [first, lead]
  rw [if_neg (by omega), if_neg (by omega), if_pos (by omega)]
  simp

-- The second of three bytes is restricted after the first lead, where the character would have a
-- shorter form, and after the lead of the surrogates.
theorem three_bytes_lead (value : Nat) (above : 0x7FF < value) (below : value ≤ 0xFFFF)
    (valid : value < 0xD800 ∨ 0xDFFF < value) :
    ∃ low high, first (value / 4096 % 16 + 224) = (.inside 2 low high (value / 4096) 1, []) ∧
      low ≤ value / 64 % 64 + 128 ∧ value / 64 % 64 + 128 ≤ high := by
  have lead : value / 4096 % 16 = value / 4096 := Nat.mod_eq_of_lt (by omega)
  simp only [first, lead]
  rw [if_neg (by omega), if_neg (by omega), if_neg (by omega)]
  by_cases least : value / 4096 = 0
  · exact ⟨0xA0, 0xBF, by simp [least], by omega, by omega⟩
  by_cases surrogate : value / 4096 = 0xD
  · exact ⟨0x80, 0x9F, by simp [surrogate], by omega, by omega⟩
  · refine ⟨0x80, 0xBF, ?_, by omega, by omega⟩
    rw [if_neg (by omega), if_neg (by omega), if_pos (by omega)]
    simp

theorem four_bytes_lead (value : Nat) (above : 0xFFFF < value) (below : value < 0x110000) :
    ∃ low high, first (value / 262144 % 8 + 240) = (.inside 3 low high (value / 262144) 1, []) ∧
      low ≤ value / 4096 % 64 + 128 ∧ value / 4096 % 64 + 128 ≤ high := by
  have lead : value / 262144 % 8 = value / 262144 := Nat.mod_eq_of_lt (by omega)
  simp only [first, lead]
  rw [if_neg (by omega), if_neg (by omega), if_neg (by omega), if_neg (by omega),
    if_neg (by omega), if_neg (by omega)]
  by_cases least : value / 262144 = 0
  · exact ⟨0x90, 0xBF, by simp [least], by omega, by omega⟩
  by_cases most : value / 262144 = 4
  · exact ⟨0x80, 0x8F, by simp [most], by omega, by omega⟩
  · refine ⟨0x80, 0xBF, ?_, by omega, by omega⟩
    rw [if_neg (by omega), if_pos (by omega)]
    simp

theorem pieces_encoded (c : Char) (rest : List UInt8) :
    pieces .idle (String.utf8EncodeChar c ++ rest) = .char c :: pieces .idle rest := by
  have valid : c.val.toNat < 0xD800 ∨ 0xDFFF < c.val.toNat ∧ c.val.toNat < 0x110000 := c.valid
  have self : Char.ofNat c.val.toNat = c := Char.ofNat_toNat c
  simp only [String.utf8EncodeChar]
  generalize c.val.toNat = value at valid self
  split
  · have one : value < 0x80 := by omega
    simp [pieces, step, byte_toNat value (by omega), first, one, self]
  split
  · simp only [List.cons_append, List.nil_append]
    rw [pieces_lead _ _ _ _ _ _ (by omega) (two_bytes_lead value (by omega) (by omega)),
      pieces_last _ _ _ _ _ _ (by omega) (by omega) (by omega)]
    have whole : value / 64 * 64 + (value % 64 + 128 - 0x80) = value := by omega
    rw [whole, self]
  split
  · obtain ⟨low, high, leads, least, most⟩ :=
      three_bytes_lead value (by omega) (by omega) (by omega)
    simp only [List.cons_append, List.nil_append]
    rw [pieces_lead _ _ _ _ _ _ (by omega) leads,
      pieces_more 0 _ _ _ _ _ _ (by omega) least most,
      pieces_last _ _ _ _ _ _ (by omega) (by omega) (by omega)]
    have whole : (value / 4096 * 64 + (value / 64 % 64 + 128 - 0x80)) * 64 +
        (value % 64 + 128 - 0x80) = value := by omega
    rw [whole, self]
  · obtain ⟨low, high, leads, least, most⟩ := four_bytes_lead value (by omega) (by omega)
    simp only [List.cons_append, List.nil_append]
    rw [pieces_lead _ _ _ _ _ _ (by omega) leads,
      pieces_more 1 _ _ _ _ _ _ (by omega) least most,
      pieces_more 0 _ _ _ _ _ _ (by omega) (by omega) (by omega),
      pieces_last _ _ _ _ _ _ (by omega) (by omega) (by omega)]
    have whole : ((value / 262144 * 64 + (value / 4096 % 64 + 128 - 0x80)) * 64 +
        (value / 64 % 64 + 128 - 0x80)) * 64 + (value % 64 + 128 - 0x80) = value := by omega
    rw [whole, self]

theorem decode_encode (text : Text) : decode (encode text) = text := by
  induction text with
  | nil => rfl
  | cons c rest ih =>
      have read : decode (String.utf8EncodeChar c ++ encode rest) = c :: decode (encode rest) := by
        simp only [decode, pieces_encoded, List.map_cons, Piece.shown]
      rw [ih] at read
      exact read

end LogtalkNavigation.Utf8

namespace LogtalkNavigation.Text

-- A line of an artifact holds no character that ends lines.
def Unbroken (line : Text) : Prop := ∀ c ∈ line, isLineBreak c = false

theorem unbroken_cons (c : Char) (line : Text) (plain : isLineBreak c = false)
    (unbroken : Unbroken line) : Unbroken (c :: line) := by
  intro d inside
  rcases List.mem_cons.mp inside with same | later
  · rw [same]
    exact plain
  · exact unbroken d later

theorem unbroken_of_mem_consFirst (c : Char) (parts : List Text) (plain : isLineBreak c = false)
    (unbroken : ∀ line ∈ parts, Unbroken line) : ∀ line ∈ consFirst c parts, Unbroken line := by
  have short : Unbroken [] := fun _ inside => absurd inside List.not_mem_nil
  intro line inside
  cases parts with
  | nil =>
      rw [List.mem_singleton.mp inside]
      exact unbroken_cons c [] plain short
  | cons first rest =>
      rcases List.mem_cons.mp inside with same | later
      · rw [same]
        exact unbroken_cons c first plain (unbroken first List.mem_cons_self)
      · exact unbroken line (List.mem_cons_of_mem _ later)

theorem unbroken_of_mem_lines (text : Text) : ∀ line ∈ lines text, Unbroken line := by
  have short : Unbroken [] := fun _ inside => absurd inside List.not_mem_nil
  fun_induction lines text with
  | case1 => exact fun _ inside => absurd inside List.not_mem_nil
  | case2 rest ih =>
      rintro line (_ | ⟨_, later⟩)
      · exact short
      · exact ih line later
  | case3 c rest _ breaks ih =>
      rintro line (_ | ⟨_, later⟩)
      · exact short
      · exact ih line later
  | case4 c rest _ plain ih =>
      exact unbroken_of_mem_consFirst c _ (Bool.not_eq_true _ ▸ plain) ih

-- A character that does not start a line end of two characters.
theorem lines_alone (c : Char) (text : Text) (alone : ∀ rest, c = '\r' → text = '\n' :: rest → False) :
    lines (c :: text) = if isLineBreak c then [] :: lines text else consFirst c (lines text) := by
  rw [lines.eq_def]
  split
  · rename_i empty
    cases empty
  · rename_i rest same
    cases same
    exact absurd rfl (alone rest rfl)
  · rename_i same
    cases same
    rfl

theorem lines_newline (text : Text) : lines ('\n' :: text) = [] :: lines text := rfl

theorem lines_append_newline (line rest : Text) (unbroken : Unbroken line) :
    lines (line ++ '\n' :: rest) = line :: lines rest := by
  induction line with
  | nil => exact lines_newline rest
  | cons c line ih =>
      have plain : isLineBreak c = false := unbroken c List.mem_cons_self
      have later : Unbroken line := fun d inside => unbroken d (List.mem_cons_of_mem _ inside)
      have other : c ≠ '\r' := by
        rintro rfl
        exact absurd plain (by decide)
      rw [List.cons_append, lines_alone c _ fun _ first => absurd first other, ih later, plain]
      rfl

theorem lines_joined (parts : List Text) (some : parts ≠ [])
    (unbroken : ∀ line ∈ parts, Unbroken line) : lines (join ['\n'] parts ++ ['\n']) = parts := by
  induction parts with
  | nil => exact absurd rfl some
  | cons line rest ih =>
      have plain : Unbroken line := unbroken line List.mem_cons_self
      cases rest with
      | nil =>
          have single : join ['\n'] [line] = line := by simp [join, List.intercalate]
          rw [single]
          exact lines_append_newline line [] plain
      | cons next rest =>
          have divided : join ['\n'] (line :: next :: rest) ++ ['\n'] =
              line ++ '\n' :: (join ['\n'] (next :: rest) ++ ['\n']) := by
            simp [join, List.intercalate]
          rw [divided, lines_append_newline line _ plain,
            ih (List.cons_ne_nil _ _) fun other inside => unbroken other (List.mem_cons_of_mem _ inside)]

theorem lines_unifyBreaks (text : Text) : lines (unifyBreaks text) = lines text := by
  fun_induction unifyBreaks text with
  | case1 => rfl
  | case2 rest ih => exact congrArg (List.cons []) ih
  | case3 c rest alone ih =>
      by_cases turn : c = '\r'
      · subst turn
        rw [if_pos rfl, lines_newline, ih, lines_alone '\r' rest fun later _ => alone later rfl]
        rfl
      · rw [if_neg turn, lines_alone c _ fun _ first => absurd first turn,
          lines_alone c _ fun _ first => absurd first turn, ih]

end LogtalkNavigation.Text
