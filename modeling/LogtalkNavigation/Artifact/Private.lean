import LogtalkNavigation.Path.Basic

/-! Private names. What is taken gets a name that nobody else has: its own name with a mark behind it,
which is the number of the process, a token of 32 digits and a word, each with a dot in front. -/

namespace LogtalkNavigation.Artifact

def processNumber : Nat := 10000

def tokenWidth : Nat := 32

def paddedDigits (width number : Nat) : Text :=
  let digits := Nat.toDigits 10 number
  List.replicate (width - digits.length) '0' ++ digits

def claimWord : Text := ['.', 'c', 'l', 'a', 'i', 'm', 'e', 'd']

def claimMark (token : Nat) : Text :=
  '.' :: paddedDigits 0 processNumber ++ '.' :: paddedDigits tokenWidth token ++ claimWord

theorem slash_notMem_paddedDigits (width number : Nat) : '/' ∉ paddedDigits width number := by
  intro slash
  rcases List.mem_append.mp slash with inZeros | inDigits
  · exact absurd (List.eq_of_mem_replicate inZeros) (by decide)
  · exact absurd (Nat.isDigit_of_mem_toDigits (by decide) (by decide) inDigits) (by decide)

theorem slash_notMem_claimMark (token : Nat) : '/' ∉ claimMark token := by
  simp [claimMark, claimWord, slash_notMem_paddedDigits]

def privateName (name : Name) (token : Nat) : Name :=
  name.append (claimMark token) (by simp [claimMark]) (slash_notMem_claimMark token)

end LogtalkNavigation.Artifact
