import LogtalkNavigation.Text.Blank
import LogtalkNavigation.Text.Digit
import Mathlib.Data.List.TakeDrop

/-! Numbers written out and read back. A spelled number consists of ASCII digits, spells itself, and ends
where a character follows that is no digit: a blank, a semicolon, or nothing. -/

namespace LogtalkNavigation.Text

theorem isDigit_iff (c : Char) :
    isDigit c = true ↔ ∃ start ∈ digitZeros, start ≤ c.toNat ∧ c.toNat < start + 10 := by
  simp [isDigit, digitValue?, List.find?_isSome]

theorem isBlank_iff (c : Char) :
    isBlank c = true ↔
      ∃ interval ∈ blankIntervals, interval.1 ≤ c.toNat ∧ c.toNat ≤ interval.2 := by
  simp [isBlank, inIntervals]

/-- No script has its digits among the blanks. -/
theorem digit_not_blank (c : Char) (digit : isDigit c = true) : isBlank c = false := by
  have apart : ∀ interval ∈ blankIntervals, ∀ start ∈ digitZeros,
      interval.2 < start ∨ start + 10 ≤ interval.1 := by decide +kernel
  obtain ⟨start, listed, low, high⟩ := (isDigit_iff c).mp digit
  cases blank : isBlank c with
  | false => rfl
  | true =>
      obtain ⟨interval, among, above, below⟩ := (isBlank_iff c).mp blank
      have := apart interval among start listed
      omega

theorem digitValue_of_ascii (c : Char) (ascii : c.isDigit = true) :
    digitValue? c = some (c.toNat - 48) := by
  have bounds : 48 ≤ c.toNat ∧ c.toNat ≤ 57 := by
    simp only [Char.isDigit, ge_iff_le, Bool.and_eq_true, decide_eq_true_eq,
      UInt32.le_iff_toNat_le] at ascii
    exact ascii
  have first : (0x30 ≤ c.toNat && c.toNat < 0x30 + 10) = true := by
    simp only [Bool.and_eq_true, decide_eq_true_eq]
    omega
  simp [digitValue?, digitZeros, first]

theorem isDigit_of_ascii (c : Char) (ascii : c.isDigit = true) : isDigit c = true := by
  simp [isDigit, digitValue_of_ascii c ascii]

theorem ascii_of_mem_ofNat (number : Nat) (c : Char) (member : c ∈ ofNat number) :
    c.isDigit = true :=
  Nat.isDigit_of_mem_toDigits (by decide) (by decide) member

theorem isDigit_of_mem_ofNat (number : Nat) (c : Char) (member : c ∈ ofNat number) :
    isDigit c = true :=
  isDigit_of_ascii c (ascii_of_mem_ofNat number c member)

theorem ofNat_ne_nil (number : Nat) : ofNat number ≠ [] := Nat.toDigits_ne_nil

theorem semicolon_notMem_ofNat (number : Nat) : ';' ∉ ofNat number := fun member =>
  absurd (ascii_of_mem_ofNat number ';' member) (by decide)

/-- A number spells itself. -/
theorem numeral_ofNat (number : Nat) : numeral (ofNat number) = number := by
  have sameFold : ∀ (digits : Text) (start : Nat), (∀ c ∈ digits, c.isDigit = true) →
      digits.foldl (fun sum c => 10 * sum + (digitValue? c).getD 0) start =
        Nat.ofDigitChars 10 digits start := by
    intro digits
    induction digits with
    | nil => intro start _; simp
    | cons c digits ih =>
        intro start ascii
        have head := digitValue_of_ascii c (ascii c (by simp))
        have tail := ih (10 * start + (c.toNat - 48)) (fun d member => ascii d (by simp [member]))
        rw [List.foldl_cons, Nat.ofDigitChars_cons, head]
        exact tail
  calc numeral (ofNat number)
      = Nat.ofDigitChars 10 (Nat.toDigits 10 number) 0 :=
        sameFold (ofNat number) 0 (ascii_of_mem_ofNat number)
    _ = number := Nat.ofDigitChars_ten_toDigits

/-- A run of digits is cut off where the first other character stands. -/
theorem span_digits (digits rest : Text) (allDigits : ∀ c ∈ digits, isDigit c = true)
    (stops : ∀ c, rest.head? = some c → isDigit c = false) :
    (digits ++ rest).span isDigit = (digits, rest) := by
  rw [List.span_eq_takeWhile_dropWhile, List.takeWhile_append_of_pos allDigits,
    List.dropWhile_append_of_pos allDigits]
  cases rest with
  | nil => simp
  | cons c rest => simp [stops c rfl]

theorem span_digits_iff (text digits rest : Text) :
    text.span isDigit = (digits, rest) ↔
      text = digits ++ rest ∧ (∀ c ∈ digits, isDigit c = true) ∧ ∀ c, rest.head? = some c → isDigit c = false := by
  constructor
  · intro cut
    rw [List.span_eq_takeWhile_dropWhile] at cut
    cases cut
    refine ⟨List.takeWhile_append_dropWhile.symm, List.all_eq_true.mp List.all_takeWhile, fun c next => ?_⟩
    simpa [next] using List.head?_dropWhile_not isDigit text
  · rintro ⟨rfl, allDigits, stops⟩
    exact span_digits digits rest allDigits stops

end LogtalkNavigation.Text
