import LogtalkNavigation.Engine.Wait
import LogtalkNavigation.Proofs.Double

/-! What ends a wait. The file and the clock are looked at in turn, so what comes of a wait is told by two
sequences: whether the file is there as each turn starts, and what the clock reads. A wait is followed for any
number of turns. It may go on for ever, but not if the clock ever reads the deadline or more. -/

namespace LogtalkNavigation.Wait

def InRange (ms : Int) : Prop := ms.natAbs < Double.limit * 1000

instance (ms : Int) : Decidable (InRange ms) := inferInstanceAs (Decidable (_ < _))

theorem seconds_inRange {ms : Int} (inRange : InRange ms) : ∃ length, seconds ms = .ok length := by
  have bounded := Double.ofRatio_infinite_iff (decide (ms < 0)) ms.natAbs (show 0 < 1000 by decide)
  unfold seconds
  split
  next sign infinite => exact absurd (bounded.mp ⟨sign, infinite⟩) (Nat.not_le.mpr inRange)
  next => exact ⟨_, rfl⟩

theorem seconds_outOfRange {ms : Int} (outOfRange : ¬ InRange ms) : seconds ms = .error .overflow := by
  obtain ⟨sign, infinite⟩ :=
    (Double.ofRatio_infinite_iff (decide (ms < 0)) ms.natAbs (by decide)).mpr (Nat.not_lt.mp outOfRange)
  rw [seconds, infinite]

/-- A file and a clock, as a wait meets them: whether the file is there as each turn starts, and what the clock
reads, once for the deadline and then in each turn. A file that has appeared stays. -/
structure Watch where
  there : Nat → Bool
  clock : Nat → Double
  stays : ∀ turn, there turn = true → there (turn + 1) = true

namespace Watch

def glimpse (watch : Watch) (turn : Nat) : Glimpse := ⟨.ok (watch.there turn), .ok (watch.clock (turn + 1))⟩

def late (watch : Watch) (length : Double) (turn : Nat) : Bool :=
  ((watch.clock 0).add length).le (watch.clock (turn + 1))

def after (watch : Watch) (p : Path) (timeout interval : Int) (turns : Nat) : Progress :=
  progress p timeout interval (.ok (watch.clock 0)) ((List.range turns).map watch.glimpse)

section Turns

variable {watch : Watch} {p : Path} {timeout interval : Int} {length nap : Double}
  (limited : seconds timeout = .ok length) (rested : seconds interval = .ok nap)

theorem there_of_le {earlier turn : Nat} (ordered : earlier ≤ turn) (there : watch.there earlier = true) :
    watch.there turn = true := by
  induction ordered with
  | refl => exact there
  | step _ ih => exact watch.stays _ ih

theorem turn_glimpse (length : Double) (number : Nat) :
    turn p timeout interval ((watch.clock 0).add length) (watch.glimpse number) =
      if watch.there number then .ok none
      else if watch.late length number then .error (.engineTimeout p.text timeout)
      else (seconds interval).map some := by
  change (if watch.there number = true then .ok none
    else if watch.late length number = true then .error (.engineTimeout p.text timeout)
    else seconds interval >>= fun nap => .ok (some nap)) = _
  cases seconds interval <;> rfl

section Limited

include limited

theorem after_zero : watch.after p timeout interval 0 = ⟨none, []⟩ := by
  rw [after, progress, deadlineFrom, limited]
  rfl

theorem after_succ (turns : Nat) : watch.after p timeout interval (turns + 1) =
    advance p timeout interval ((watch.clock 0).add length) (watch.after p timeout interval turns)
      (watch.glimpse turns) := by
  have due : deadlineFrom (.ok (watch.clock 0)) timeout = .ok ((watch.clock 0).add length) := by
    rw [deadlineFrom, limited]
    rfl
  rw [after, after, progress, progress, due, List.range_succ, List.map_append]
  exact List.foldl_append

theorem after_succ_of_ended {turns : Nat} {result : Except Failure Unit}
    (ended : (watch.after p timeout interval turns).ended = some result) :
    watch.after p timeout interval (turns + 1) = watch.after p timeout interval turns := by
  rw [after_succ limited, advance, ended]

-- Without a sleep there is only one turn.
theorem after_restless {failure : Failure} (restless : seconds interval = .error failure) (turns : Nat) :
    watch.after p timeout interval (turns + 1) =
      ⟨some (if watch.there 0 then .ok ()
        else if watch.late length 0 then .error (.engineTimeout p.text timeout)
        else .error failure), []⟩ := by
  induction turns with
  | zero =>
      rw [after_succ limited, after_zero limited, advance, turn_glimpse, restless]
      cases watch.there 0 <;> cases watch.late length 0 <;> rfl
  | succ turns ih => rw [after_succ_of_ended limited (congrArg Progress.ended ih), ih]

end Limited

section Rested

variable {turns : Nat} (ongoing : (watch.after p timeout interval turns).ended = none)

include limited rested

section Ongoing

include ongoing

theorem ended_succ : (watch.after p timeout interval (turns + 1)).ended =
    if watch.there turns then some (.ok ())
    else if watch.late length turns then some (.error (.engineTimeout p.text timeout))
    else none := by
  rw [after_succ limited, advance, ongoing, turn_glimpse, rested]
  cases watch.there turns <;> cases watch.late length turns <;> rfl

theorem sleeps_succ : (watch.after p timeout interval (turns + 1)).sleeps =
    (watch.after p timeout interval turns).sleeps ++
      if watch.there turns || watch.late length turns then [] else [nap] := by
  rw [after_succ limited, advance, ongoing, turn_glimpse, rested]
  cases watch.there turns with
  | true => exact (List.append_nil _).symm
  | false =>
      cases watch.late length turns with
      | true => exact (List.append_nil _).symm
      | false => rfl

end Ongoing

-- The induction is on the turns; a wait that has ended stays ended.
theorem ongoing_iff (turns : Nat) : (watch.after p timeout interval turns).ended = none ↔
    ∀ turn < turns, watch.there turn = false ∧ watch.late length turn = false := by
  induction turns with
  | zero => simp [after_zero limited]
  | succ turns ih =>
      rw [Nat.forall_lt_succ_right]
      cases before : (watch.after p timeout interval turns).ended with
      | some result =>
          rw [after_succ_of_ended limited before, before]
          rw [before] at ih
          exact iff_of_false (Option.some_ne_none result) fun clear => Option.some_ne_none result (ih.mpr clear.1)
      | none =>
          rw [ended_succ limited rested before, and_iff_right (ih.mp before)]
          cases watch.there turns <;> cases watch.late length turns <;> simp

theorem ended_by_iff (turns : Nat) : (watch.after p timeout interval turns).ended ≠ none ↔
    ∃ turn < turns, watch.there turn = true ∨ watch.late length turn = true := by
  rw [ne_eq, ongoing_iff limited rested, Classical.not_forall]
  refine exists_congr fun turn => ?_
  rw [Classical.not_imp, ← Bool.or_eq_false_iff, Bool.not_eq_false, Bool.or_eq_true]

-- A wait that has ended did so in one of its turns.
theorem ended_iff (result : Except Failure Unit) :
    (∃ turns, (watch.after p timeout interval turns).ended = some result) ↔
      ∃ turn, (∀ earlier < turn, watch.there earlier = false ∧ watch.late length earlier = false) ∧
        (if watch.there turn then some (.ok ())
          else if watch.late length turn then some (.error (.engineTimeout p.text timeout))
          else none) = some result := by
  constructor
  · rintro ⟨turns, ended⟩
    induction turns with
    | zero =>
        rw [after_zero limited] at ended
        cases ended
    | succ turns ih =>
        cases before : (watch.after p timeout interval turns).ended with
        | none =>
            rw [ended_succ limited rested before] at ended
            exact ⟨turns, (ongoing_iff limited rested turns).mp before, ended⟩
        | some other =>
            rw [after_succ_of_ended limited before] at ended
            exact ih ended
  · rintro ⟨turn, clear, ended⟩
    have ongoing : (watch.after p timeout interval turn).ended = none :=
      (ongoing_iff limited rested turn).mpr clear
    exact ⟨turn + 1, (ended_succ limited rested ongoing).trans ended⟩

theorem found_iff : (∃ turns, (watch.after p timeout interval turns).ended = some (.ok ())) ↔
    ∃ turn, watch.there turn = true ∧ ∀ earlier < turn, watch.late length earlier = false := by
  rw [ended_iff limited rested]
  constructor
  · rintro ⟨turn, clear, ended⟩
    refine ⟨turn, ?_, fun earlier before => (clear earlier before).2⟩
    cases there : watch.there turn with
    | true => rfl
    | false => simp [there] at ended
  · rintro ⟨turn, there, early⟩
    -- The file may have been there at earlier turns too; the first of them finds it.
    induction turn using Nat.strongRecOn with
    | ind turn ih =>
        by_cases sooner : ∃ earlier < turn, watch.there earlier = true
        · obtain ⟨earlier, before, there⟩ := sooner
          exact ih earlier before there fun first less => early first (Nat.lt_trans less before)
        · refine ⟨turn, fun earlier before => ⟨?_, early earlier before⟩, if_pos there⟩
          exact eq_false_of_ne_true fun there => sooner ⟨earlier, before, there⟩

theorem timesOut_iff :
    (∃ turns, (watch.after p timeout interval turns).ended = some (.error (.engineTimeout p.text timeout))) ↔
      ∃ turn, watch.there turn = false ∧ watch.late length turn = true ∧
        ∀ earlier < turn, watch.late length earlier = false := by
  rw [ended_iff limited rested]
  constructor
  · rintro ⟨turn, clear, ended⟩
    have early := fun earlier before => (clear earlier before).2
    cases there : watch.there turn with
    | true => simp [there] at ended
    | false =>
        cases late : watch.late length turn with
        | true => exact ⟨turn, there, late, early⟩
        | false => simp [there, late] at ended
  · rintro ⟨turn, absent, late, early⟩
    refine ⟨turn, fun earlier before => ⟨?_, early earlier before⟩, by simp [absent, late]⟩
    refine eq_false_of_ne_true fun there => ?_
    cases absent.symm.trans (there_of_le (Nat.le_of_lt before) there)

end Rested

end Turns

/-- How a wait goes by the file and the clock, told by how far it has come after each number of turns. -/
structure Heeds (watch : Watch) (length nap : Double) (timedOut : Failure) (after : Nat → Progress) :
    Prop where
  starts : after 0 = ⟨none, []⟩
  -- The file is found, however late, exactly if it is there as some turn starts and no earlier turn has read
  -- the deadline or more.
  found : (∃ turns, (after turns).ended = some (.ok ())) ↔
    ∃ turn, watch.there turn = true ∧ ∀ earlier < turn, watch.late length earlier = false
  -- Time is up exactly if the first reading of the deadline or more belongs to a turn that started without the
  -- file.
  timesOut : (∃ turns, (after turns).ended = some (.error timedOut)) ↔
    ∃ turn, watch.there turn = false ∧ watch.late length turn = true ∧
      ∀ earlier < turn, watch.late length earlier = false
  -- Each turn sleeps once that neither finds the file nor reads the deadline or more.
  sleeps : ∀ turn, (after turn).ended = none →
    (after (turn + 1)).sleeps =
      (after turn).sleeps ++ if watch.there turn || watch.late length turn then [] else [nap]
  -- The wait is over as soon as a turn has found the file or read the deadline or more.
  ends : ∀ turns, (after turns).ended ≠ none ↔
    ∃ turn < turns, watch.there turn = true ∨ watch.late length turn = true
  lasts : ∀ turn, (after turn).ended ≠ none → after (turn + 1) = after turn

end Watch

-- A file that appears in the first sleep, after which the clock has passed the deadline.
namespace Tardy

def watch : Watch where
  there turn := 0 < turn
  clock turn := Double.ofRatio false (if turn = 0 then 0 else if turn = 1 then 100 else 500) 1000
  stays turn _ := decide_eq_true (Nat.succ_pos turn)

def sentinel : Path := Path.ofString "/done"

def length : Double := .finite false 7205759403792794 (-55)

theorem limited : seconds 200 = .ok length := by
  have near : Double.ofRatio (decide ((200 : Int) < 0)) (200 : Int).natAbs 1000 = length := by decide +kernel
  rw [seconds, near]
  rfl

theorem early : watch.late length 0 = false := by decide +kernel

end Tardy

open Watch

/-- Let a file stay once it has appeared, and let the clock read anything. A timeout that no double is near to
fails before the first turn. An interval that no double is near to fails the first turn, unless that finds the
file or reads the deadline or more. Every other wait heeds the file and the clock. -/
theorem ended_by_file_or_clock (watch : Watch) (p : Path) (timeout interval : Int) :
    (¬ InRange timeout → ∀ turns, watch.after p timeout interval turns = ⟨some (.error .overflow), []⟩) ∧
    (InRange timeout → ∃ length, seconds timeout = .ok length ∧
      (¬ InRange interval → ∀ turns, watch.after p timeout interval (turns + 1) =
        ⟨some (if watch.there 0 then .ok ()
          else if watch.late length 0 then .error (.engineTimeout p.text timeout)
          else .error .overflow), []⟩) ∧
      (InRange interval → ∃ nap, seconds interval = .ok nap ∧
        watch.Heeds length nap (.engineTimeout p.text timeout)
          (watch.after p timeout interval))) := by
  constructor
  · intro outOfRange turns
    rw [after, progress, deadlineFrom, seconds_outOfRange outOfRange]
    rfl
  · intro inRange
    obtain ⟨length, limited⟩ := seconds_inRange inRange
    refine ⟨length, limited, fun outOfRange => after_restless limited (seconds_outOfRange outOfRange), ?_⟩
    intro sleepable
    obtain ⟨nap, rested⟩ := seconds_inRange sleepable
    refine ⟨nap, rested, ?_⟩
    exact {
      starts := after_zero limited
      found := found_iff limited rested
      timesOut := timesOut_iff limited rested
      sleeps := fun turn => sleeps_succ limited rested
      ends := ended_by_iff limited rested
      lasts := by
        intro turn finished
        obtain ⟨result, ended⟩ := Option.ne_none_iff_exists'.mp finished
        exact after_succ_of_ended limited ended }

theorem file_found_past_deadline :
    InRange 200 ∧ InRange 100 ∧ ∃ length nap, seconds 200 = .ok length ∧ seconds 100 = .ok nap ∧
      Tardy.watch.late length 1 = true ∧
      (∃ turns, (Tardy.watch.after Tardy.sentinel 200 100 turns).ended = some (.ok ())) ∧
      (Tardy.watch.after Tardy.sentinel 200 100 2).sleeps = [nap] := by
  have limits : InRange 200 := by decide +kernel
  have rests : InRange 100 := by decide +kernel
  obtain ⟨length, limited, _, goes⟩ := (ended_by_file_or_clock Tardy.watch Tardy.sentinel 200 100).2 limits
  obtain ⟨nap, rested, heeds⟩ := goes rests
  cases limited.symm.trans Tardy.limited
  have late : Tardy.watch.late Tardy.length 1 = true := by decide +kernel
  have going : (Tardy.watch.after Tardy.sentinel 200 100 1).ended = none := by
    refine Classical.byContradiction fun finished => ?_
    obtain ⟨turn, first, stop⟩ := (heeds.ends 1).mp finished
    obtain rfl : turn = 0 := by omega
    rcases stop with there | late
    · exact absurd there (by decide)
    · exact Bool.false_ne_true (Tardy.early.symm.trans late)
  refine ⟨limits, rests, Tardy.length, nap, limited, rested, late, heeds.found.mpr ⟨1, by decide, ?_⟩, ?_⟩
  · intro earlier before
    obtain rfl : earlier = 0 := by omega
    exact Tardy.early
  · have slept := heeds.sleeps 0 (congrArg Progress.ended heeds.starts)
    have woken := heeds.sleeps 1 going
    rw [heeds.starts, Tardy.early] at slept
    rw [slept] at woken
    exact woken

/-- No double is near to the interval. The first turn neither finds the file nor reads the deadline or more, and yet
it does not sleep, so the file that would be there for a second turn is not found. -/
theorem unsleepable_interval_fails :
    Tardy.watch.there 0 = false ∧ Tardy.watch.there 1 = true ∧
      ∃ length, seconds 200 = .ok length ∧ Tardy.watch.late length 0 = false ∧
        ∀ turns, Tardy.watch.after Tardy.sentinel 200 (Double.tenTo 400) (turns + 1) =
          ⟨some (.error .overflow), []⟩ := by
  have outOfRange : ¬ InRange (Double.tenTo 400) := by decide +kernel
  refine ⟨rfl, rfl, Tardy.length, Tardy.limited, Tardy.early, fun turns => ?_⟩
  rw [after_restless Tardy.limited (seconds_outOfRange outOfRange), Tardy.early]
  rfl

end LogtalkNavigation.Wait
