import LogtalkNavigation.Text.Basic

namespace LogtalkNavigation.Text

def inIntervals (intervals : List (Nat × Nat)) (c : Char) : Bool :=
  intervals.any fun (first, last) => first ≤ c.toNat && c.toNat ≤ last

def inStride (first last stride code : Nat) : Bool :=
  first ≤ code && code ≤ last && (code - first) % stride == 0

def inStrides (strides : List (Nat × Nat × Nat)) (c : Char) : Bool :=
  strides.any fun (first, last, stride) => inStride first last stride c.toNat

end LogtalkNavigation.Text
