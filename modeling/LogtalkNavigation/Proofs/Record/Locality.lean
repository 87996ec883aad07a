import LogtalkNavigation.Proofs.Record.Sequence
import LogtalkNavigation.Proofs.Text.Stored
import Mathlib.Data.List.Basic

/-! Reading an artifact is local to its lines. A line feed between two pieces of bytes ends whatever character
was not there in full, and whatever line was, so neither piece can tell what the other one holds. -/

namespace LogtalkNavigation

namespace Utf8

def newline : UInt8 := 0x0A

-- What the machine waits for inside a character is no ASCII.
def State.Proper : State → Prop
  | .idle => True
  | .inside _ low _ _ _ => 0x80 ≤ low

theorem proper_first (byte : Nat) : (first byte).1.Proper := by
  unfold first
  repeat' split
  all_goals simp [State.Proper]

theorem proper_step {state : State} (byte : UInt8) (proper : state.Proper) : (step state byte).1.Proper := by
  cases state with
  | idle => exact proper_first byte.toNat
  | inside missing low high bits read =>
      unfold step
      dsimp only
      split
      · split
        · exact trivial
        · exact Nat.le_refl _
      · exact proper_first byte.toNat

-- At a line feed a character that is not there in full ends as it does at the end of the bytes.
theorem step_newline {state : State} (proper : state.Proper) :
    (step state newline).1 = .idle ∧
      (step state newline).2.map Piece.shown = (finish state).map Piece.shown ++ ['\n'] := by
  cases state with
  | idle => exact ⟨rfl, rfl⟩
  | inside missing low high bits read =>
      have above : ¬ (low ≤ newline.toNat ∧ newline.toNat ≤ high) := by
        rintro ⟨within, _⟩
        exact absurd (Nat.le_trans proper within) (by decide)
      unfold step
      dsimp only
      rw [if_neg above]
      exact ⟨rfl, rfl⟩

theorem shown_pieces_newline (state : State) (proper : state.Proper) (before after : List UInt8) :
    (pieces state (before ++ newline :: after)).map Piece.shown =
      (pieces state before).map Piece.shown ++ '\n' :: decode after := by
  induction before generalizing state with
  | nil =>
      obtain ⟨idle, ended⟩ := step_newline proper
      rw [List.nil_append, pieces, pieces, List.map_append, ended, idle, List.append_assoc]
      rfl
  | cons byte before ih =>
      rw [List.cons_append, pieces, pieces, List.map_append, ih _ (proper_step byte proper),
        List.map_append, List.append_assoc]

theorem decode_newline (before after : List UInt8) :
    decode (before ++ newline :: after) = decode before ++ '\n' :: decode after :=
  shown_pieces_newline .idle trivial before after

end Utf8

namespace Text

theorem consFirst_ne_nil (c : Char) (parts : List Text) : consFirst c parts ≠ [] := by
  cases parts <;> exact List.cons_ne_nil _ _

theorem lines_ne_nil (c : Char) (text : Text) : lines (c :: text) ≠ [] := by
  rw [lines.eq_def]
  split
  case h_1 none => cases none
  case h_2 => exact List.cons_ne_nil _ _
  case h_3 =>
    split
    · exact List.cons_ne_nil _ _
    · exact consFirst_ne_nil _ _

theorem consFirst_append {parts : List Text} (c : Char) (rest : List Text) (some : parts ≠ []) :
    consFirst c (parts ++ rest) = consFirst c parts ++ rest := by
  cases parts with
  | nil => exact absurd rfl some
  | cons first others => rfl

-- The line feed ends the last line of the text before it, or follows the end of that line; then it ends an
-- empty line, unless it belongs to that end. What follows has no part in this.
theorem lines_append_break (before : Text) :
    ∃ gap, (gap = [] ∨ gap = [[]]) ∧
      ∀ after, lines (before ++ '\n' :: after) = lines before ++ (gap ++ lines after) := by
  fun_induction lines before with
  | case1 => exact ⟨[[]], .inr rfl, fun _ => rfl⟩
  | case2 rest ih =>
      obtain ⟨gap, small, divided⟩ := ih
      exact ⟨gap, small, fun after => congrArg (List.cons []) (divided after)⟩
  | case3 c rest alone breaks ih =>
      by_cases pair : c = '\r' ∧ rest = []
      · obtain ⟨rfl, rfl⟩ := pair
        exact ⟨[], .inl rfl, fun _ => rfl⟩
      · obtain ⟨gap, small, divided⟩ := ih
        refine ⟨gap, small, fun after => ?_⟩
        rw [List.cons_append, lines_alone c _ ?_, if_pos breaks, divided]
        · rfl
        · intro others turn joined
          cases rest with
          | nil => exact pair ⟨turn, rfl⟩
          | cons d rest =>
              cases joined
              exact alone rest turn rfl
  | case4 c rest alone plain ih =>
      have other : c ≠ '\r' := by
        rintro rfl
        exact plain (by decide)
      have joins (after : Text) : lines (c :: rest ++ '\n' :: after) = consFirst c (lines (rest ++ '\n' :: after)) := by
        rw [List.cons_append, lines_alone c _ fun _ turn => absurd turn other, if_neg plain]
      cases rest with
      | nil => exact ⟨[], .inl rfl, joins⟩
      | cons d rest =>
          obtain ⟨gap, small, divided⟩ := ih
          refine ⟨gap, small, fun after => ?_⟩
          rw [joins, divided, consFirst_append c _ (lines_ne_nil d rest)]

end Text

namespace Record

open Act

theorem stop?_append (kind : Artifact.Kind) (before after : List Text) :
    stop? kind (before ++ after) = (stop? kind before).or (stop? kind after) := by
  induction before with
  | nil => rfl
  | cons line rest ih =>
      rw [List.cons_append, stop?, stop?]
      cases said kind line with
      | error failure => rfl
      | ok found => exact ih

theorem recorded_append (kind : Artifact.Kind) (before after : List Text) :
    recorded kind (before ++ after) = recorded kind before ++ recorded kind after :=
  List.filterMap_append

-- Empty lines neither stop the reading nor give a record.
theorem said_empty (kind : Artifact.Kind) : said kind [] = .ok none := rfl

def reading (kind : Artifact.Kind) (lines : List Text) : Except Failure (List Record) :=
  match stop? kind lines with
  | some failure => .error failure
  | none => .ok (recorded kind lines)

theorem outcome_ofBytes (kind : Artifact.Kind) (bytes : List UInt8) (world : World) :
    (ofBytes kind bytes).outcome world = reading kind (Text.lines (Utf8.decode bytes)) :=
  outcome_of_looks (looks_ofText kind (Utf8.decode bytes)) world

-- The first failure in the order of the lines is the one that ends the reading.
theorem reading_append (kind : Artifact.Kind) (before after : List Text) :
    reading kind (before ++ after) = do
      let first ← reading kind before
      let second ← reading kind after
      return first ++ second := by
  unfold reading
  rw [stop?_append, recorded_append]
  cases stop? kind before with
  | some failure => rfl
  | none =>
      cases stop? kind after with
      | some failure => rfl
      | none => rfl

theorem reading_silent (kind : Artifact.Kind) (lines : List Text)
    (silent : ∀ line ∈ lines, said kind line = .ok none) : reading kind lines = .ok [] := by
  have unstopped : stop? kind lines = none := by
    refine (stop?_eq_none_iff kind lines).mpr fun line inside failure failed => ?_
    cases (silent line inside).symm.trans failed
  have nothing : recorded kind lines = [] := by
    refine List.filterMap_eq_nil_iff.mpr fun line inside => ?_
    rw [silent line inside]
    rfl
  rw [reading, unstopped, nothing]

theorem outcome_joined (kind : Artifact.Kind) (first second : List UInt8) (world : World) :
    (ofBytes kind (first ++ Utf8.newline :: second)).outcome world = do
      let before ← (ofBytes kind first).outcome world
      let after ← (ofBytes kind second).outcome world
      return before ++ after := by
  obtain ⟨gap, small, divided⟩ := Text.lines_append_break (Utf8.decode first)
  have silent : reading kind gap = .ok [] := by
    refine reading_silent kind gap fun line inside => ?_
    rcases small with rfl | rfl
    · cases inside
    · rw [List.mem_singleton.mp inside]
      exact said_empty kind
  have after : reading kind (gap ++ Text.lines (Utf8.decode second)) =
      reading kind (Text.lines (Utf8.decode second)) := by
    rw [reading_append, silent]
    cases reading kind (Text.lines (Utf8.decode second)) <;> rfl
  rw [outcome_ofBytes, outcome_ofBytes, outcome_ofBytes, Utf8.decode_newline, divided, reading_append, after]

def Idle (kind : Artifact.Kind) (line : Text) : Prop :=
  Text.allBlank line = true ∨ ofLine kind line = .error (malformed kind line)

instance (kind : Artifact.Kind) (line : Text) : Decidable (Idle kind line) :=
  inferInstanceAs (Decidable (_ ∨ _))

theorem said_of_idle {kind : Artifact.Kind} {line : Text} (idle : Idle kind line) :
    said kind line = .ok none := by
  unfold said
  rcases idle with blank | odd
  · rw [if_pos blank]
  · rw [odd]
    split <;> rfl

theorem outcome_idle {kind : Artifact.Kind} {bytes : List UInt8} (world : World)
    (idle : ∀ line ∈ Text.lines (Utf8.decode bytes), Idle kind line) :
    (ofBytes kind bytes).outcome world = .ok [] := by
  rw [outcome_ofBytes]
  exact reading_silent kind _ fun line inside => said_of_idle (idle line inside)

-- Two records with a line between them that is no text.
namespace Damaged

def world : World := { disk := ⟨[], [], {}⟩, log := ⟨.debug, []⟩ }

def first : List UInt8 := Utf8.encode "File:/a.lgt;Line:1".toList

-- The second byte begins a character that the line feed cuts off.
def line : List UInt8 := [0xFF, 0xE2]

def second : List UInt8 := Utf8.encode "File:/b.lgt;Line:2".toList

def bytes : List UInt8 := first ++ Utf8.newline :: (line ++ Utf8.newline :: second)

end Damaged

/-- Bytes on both sides of a line feed are read apart, whatever they are: the records are those of the first
part and then those of the second, and reading fails if and only if it fails on one of them. So lines that are
blank or malformed change nothing about the others, wherever they stand. -/
theorem parsing_local_to_lines (kind : Artifact.Kind) (first second : List UInt8) (world : World) :
    (∀ before after, (ofBytes kind first).outcome world = .ok before →
      (ofBytes kind second).outcome world = .ok after →
        (ofBytes kind (first ++ Utf8.newline :: second)).outcome world = .ok (before ++ after)) ∧
    ((∃ failure, (ofBytes kind (first ++ Utf8.newline :: second)).outcome world = .error failure) ↔
      (∃ failure, (ofBytes kind first).outcome world = .error failure) ∨
        ∃ failure, (ofBytes kind second).outcome world = .error failure) ∧
    ∀ idle, (∀ line ∈ Text.lines (Utf8.decode idle), Idle kind line) →
      (ofBytes kind (idle ++ Utf8.newline :: second)).outcome world = (ofBytes kind second).outcome world ∧
      (ofBytes kind (first ++ Utf8.newline :: idle)).outcome world = (ofBytes kind first).outcome world ∧
      (ofBytes kind (first ++ Utf8.newline :: (idle ++ Utf8.newline :: second))).outcome world =
        (ofBytes kind (first ++ Utf8.newline :: second)).outcome world := by
  have joined := outcome_joined kind first second world
  refine ⟨fun before after read reads => ?_, ?_, fun idle silent => ?_⟩
  · rw [joined, read, reads]
    rfl
  · rw [joined]
    cases (ofBytes kind first).outcome world with
    | error failure => exact ⟨fun _ => .inl ⟨failure, rfl⟩, fun _ => ⟨failure, rfl⟩⟩
    | ok before =>
        cases (ofBytes kind second).outcome world with
        | error failure => exact ⟨fun _ => .inr ⟨failure, rfl⟩, fun _ => ⟨failure, rfl⟩⟩
        | ok after =>
            constructor
            · rintro ⟨_, failed⟩
              cases failed
            · rintro (⟨_, failed⟩ | ⟨_, failed⟩) <;> cases failed
  · have nothing := outcome_idle world silent
    have left : (ofBytes kind (idle ++ Utf8.newline :: second)).outcome world =
        (ofBytes kind second).outcome world := by
      rw [outcome_joined, nothing]
      cases (ofBytes kind second).outcome world <;> rfl
    refine ⟨left, ?_, ?_⟩
    · rw [outcome_joined, nothing]
      cases (ofBytes kind first).outcome world with
      | error failure => rfl
      | ok before => exact congrArg Except.ok (List.append_nil before)
    · rw [outcome_joined, left, ← joined]

theorem damaged_line_between_records :
    (ofBytes .references Damaged.bytes).outcome Damaged.world =
      .ok [.location ⟨"/a.lgt".toList, 1⟩, .location ⟨"/b.lgt".toList, 2⟩] := by
  obtain ⟨joins, _, ignores⟩ :=
    parsing_local_to_lines .references Damaged.first Damaged.second Damaged.world
  have idle : ∀ line ∈ Text.lines (Utf8.decode Damaged.line), Idle .references line := by decide +kernel
  rw [Damaged.bytes, (ignores Damaged.line idle).2.2]
  exact joins [.location ⟨"/a.lgt".toList, 1⟩] [.location ⟨"/b.lgt".toList, 2⟩] (by decide +kernel)
    (by decide +kernel)

end Record

end LogtalkNavigation
