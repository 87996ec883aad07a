import LogtalkNavigation.Text.Utf8

namespace LogtalkNavigation

def IsName (text : Text) : Prop := text ≠ [] ∧ text ≠ ['.'] ∧ '/' ∉ text

instance (text : Text) : Decidable (IsName text) := inferInstanceAs (Decidable (_ ∧ _ ∧ _))

abbrev Name := { text : Text // IsName text }

/-- Where a path starts: anywhere, at the root, or at the root written with two slashes, which is
kept apart. -/
inductive Anchor where
  | relative
  | root
  | doubleRoot
deriving DecidableEq, Repr

structure Path where
  anchor : Anchor
  names : List Name
deriving DecidableEq

namespace Name

def ofText? (text : Text) : Option Name := if valid : IsName text then some ⟨text, valid⟩ else none

def up : Name := ⟨['.', '.'], by decide⟩

def append (name : Name) (suffix : Text) (filled : suffix ≠ []) (clean : '/' ∉ suffix) : Name :=
  ⟨name.1 ++ suffix, by
    obtain ⟨text, nonempty, notDot, slashless⟩ := name
    refine ⟨by simp [nonempty], ?_, by simp [slashless, clean]⟩
    intro same
    cases text with
    | nil => exact nonempty rfl
    | cons c rest =>
      cases rest with
      | nil => cases suffix with
        | nil => exact filled rfl
        | cons d more => simp at same
      | cons d more => simp at same⟩

def size (name : Name) : Nat := (Utf8.encode name.1).length

/-- The column of the dot in front of the suffix: the last one, unless it is first or last. -/
def suffixDot? (name : Name) : Option Nat :=
  let behind := name.1.reverse.takeWhile (· ≠ '.')
  let dot := name.1.length - behind.length - 1
  if behind.length < name.1.length ∧ behind ≠ [] ∧ 0 < dot then some dot else none

def stem (name : Name) : Text :=
  match name.suffixDot? with
  | some dot => name.1.take dot
  | none => name.1

def suffix (name : Name) : Text :=
  match name.suffixDot? with
  | some dot => name.1.drop dot
  | none => []

end Name

namespace Anchor

def text : Anchor → Text
  | .relative => []
  | .root => ['/']
  | .doubleRoot => ['/', '/']

def ofSlashes : Nat → Anchor
  | 0 => .relative
  | 2 => .doubleRoot
  | _ => .root

end Anchor

namespace Path

def here : Path := ⟨.relative, []⟩

def ofText (text : Text) : Path :=
  ⟨Anchor.ofSlashes (text.takeWhile (· = '/')).length,
    (Text.splitOn '/' text).filterMap Name.ofText?⟩

def ofString (text : String) : Path := ofText text.toList

def text (p : Path) : Text :=
  match p with
  | ⟨.relative, []⟩ => ['.']
  | ⟨anchor, names⟩ => anchor.text ++ Text.join ['/'] (names.map (·.1))

instance : ToString Path := ⟨fun p => String.ofList p.text⟩

def isAbsolute (p : Path) : Bool := p.anchor ≠ .relative

def join (base p : Path) : Path := if p.isAbsolute then p else ⟨base.anchor, base.names ++ p.names⟩

instance : HDiv Path Path Path := ⟨join⟩

def child (p : Path) (name : Name) : Path := ⟨p.anchor, p.names ++ [name]⟩

def name? (p : Path) : Option Name := p.names.getLast?

def parent (p : Path) : Path := ⟨p.anchor, p.names.dropLast⟩

def parents (p : Path) : List Path :=
  ((List.range p.names.length).map fun count => ⟨p.anchor, p.names.take count⟩).reverse

def stem (p : Path) : Text := (p.name?.map Name.stem).getD []

def suffix (p : Path) : Text := (p.name?.map Name.suffix).getD []

def depth (p : Path) : Nat := (if p.isAbsolute then 1 else 0) + p.names.length

-- Follows names from a list of names, where two dots lead up and stay at the root.
def climb (base : List Name) : List Name → List Name
  | [] => base
  | name :: rest => climb (if name = Name.up then base.dropLast else base ++ [name]) rest

def resolve (p : Path) (home : List Name) : Path :=
  if p.isAbsolute then p else ⟨.root, climb home p.names⟩

def namesLe : List Name → List Name → Bool
  | [], _ => true
  | _ :: _, [] => false
  | a :: left, b :: right =>
    if a = b then namesLe left right else Text.le a.1 b.1

def le (p q : Path) : Bool :=
  if p.anchor = q.anchor then namesLe p.names q.names else Text.le p.anchor.text q.anchor.text

end Path

end LogtalkNavigation
