import LogtalkNavigation.Engine.Run
import LogtalkNavigation.Proofs.Artifact.Taking
import LogtalkNavigation.Proofs.Engine.Processes

/-! Looking for a sentinel. On a disk that refuses nothing, a run that waits for nothing but its sentinel
finds it, and then removes it; or it falls asleep without having changed anything; or it gives up, and then
the process that the session held cannot act any more. Times that no double is near to are set apart. -/

namespace LogtalkNavigation

open Act Engine Machine

namespace Wait

theorem seconds_fails {ms : Int} {failure : Failure} (failed : seconds ms = .error failure) :
    failure = .overflow := by
  unfold seconds at failed
  split at failed
  · cases failed
    rfl
  · cases failed

theorem deadline_fails {first timeout : Int} {failure : Failure}
    (failed : deadline first timeout = .error failure) : failure = .overflow := by
  unfold deadline deadlineFrom at failed
  cases begun : seconds first with
  | error other =>
      rw [begun] at failed
      cases failed
      exact seconds_fails begun
  | ok start =>
      cases lasting : seconds timeout with
      | error other =>
          rw [begun, lasting] at failed
          cases failed
          exact seconds_fails lasting
      | ok length =>
          rw [begun, lasting] at failed
          cases failed

theorem nap_fails {interval : Int} {failure : Failure} (failed : nap interval = .error failure) :
    failure = .overflow ∨ failure = .infinite := by
  unfold nap at failed
  cases lasting : seconds interval with
  | error other =>
      rw [lasting] at failed
      cases failed
      exact .inl (seconds_fails lasting)
  | ok length =>
      rw [lasting] at failed
      simp only [bind, Except.bind, milliseconds] at failed
      split at failed
      · cases failed
      · cases failed
        exact .inr rfl

end Wait

namespace Run

-- The result is a failure to tell the time.
def Untimely {α : Type} (result : EStateM.Result Failure World α) : Prop :=
  ∃ failure after, result = .error failure after ∧ (failure = .overflow ∨ failure = .infinite)

-- The result is a failure of the engine, after which what the session held cannot act.
def GivesUp {α : Type} (session : Session) (world : World) (result : EStateM.Result Failure World α) :
    Prop :=
  ∃ failure machine log, result = .error failure { world with machine, log } ∧ failure.isEngine = true ∧
    Keeps session.number world.machine machine ∧
    ∀ process, world.machine.heldBy session.number = some process → ¬ machine.Alive process

section Sentinel

variable (session : Session) (sentinel : Path) (place : Location) (world : World)
  (sound : world.disk.faults = {}) (leads : world.disk.Leads sentinel place)

theorem need_ran {α : Type} (sentinel : Path) (value : α) (world : World) :
    need sentinel (.ok value) world = .ok value world := rfl

theorem need_fails {α : Type} (sentinel : Path) (clean : '\x00' ∉ sentinel.text) (world : World)
    {failure : Failure} : ∃ after, need sentinel (.error failure : Except Failure α) world =
      .error failure after := by
  obtain ⟨after, removed⟩ := Artifact.discard_ends sentinel world clean
  exact ⟨after, bind_ran removed _⟩

theorem untimely_need {α β : Type} {sentinel : Path} (clean : '\x00' ∉ sentinel.text) (world : World)
    {failure : Failure} (odd : failure = .overflow ∨ failure = .infinite) (next : α → Act β) :
    Untimely ((need sentinel (.error failure) >>= next) world) := by
  obtain ⟨after, failed⟩ := need_fails sentinel clean world
  exact ⟨failure, after, bind_failed failed next, odd⟩

include sound leads in
theorem cancel_gives_up (missing : world.disk.node? place = none) :
    ∃ machine log, cancel session sentinel world = .ok () { world with machine, log } ∧
      Keeps session.number world.machine machine ∧
      ∀ process, world.machine.heldBy session.number = some process → ¬ machine.Alive process := by
  obtain ⟨machine, log, aborted, keeps, ends⟩ := session.abort_ends world
  refine ⟨machine, log, ?_, keeps, ends⟩
  unfold cancel
  rw [bind_ran aborted]
  exact Artifact.discard_missing { world with machine, log } sentinel place sound leads missing

include sound leads in
theorem turn_ends (plain : world.disk.node? place ≠ some .directory) (elapsed : Nat) (last : Bool) :
    (world.disk.node? place ≠ none ∧ ∃ disk, turn session sentinel elapsed last world =
        .ok none { world with disk } ∧ world.disk.Becomes disk place none) ∨
      (world.disk.node? place = none ∧ last = false ∧
        ∃ nap, turn session sentinel elapsed last world = .ok (some nap) world) ∨
      (world.disk.node? place = none ∧ GivesUp session world (turn session sentinel elapsed last world)) ∨
      Untimely (turn session sentinel elapsed last world) := by
  unfold turn
  dsimp only
  cases due : Wait.deadline 0 session.settings.timeout.1 with
  | error failure =>
      exact .inr (.inr (.inr (untimely_need leads.clean world (.inl (Wait.deadline_fails due)) _)))
  | ok deadline =>
      have looked : need sentinel (world.disk.isThere sentinel) world =
          .ok (world.disk.node? place).isSome world := by
        rw [Disk.isThere_of_leads leads]
        rfl
      rw [bind_ran (need_ran sentinel deadline world), disk_bind, bind_ran looked]
      cases found : world.disk.node? place with
      | some node =>
          obtain ⟨disk, removed, becomes⟩ := Artifact.discard_clears world sentinel place sound leads plain
          exact .inl ⟨Option.some_ne_none _, disk, bind_ran removed _, becomes⟩
      | none =>
          right
          simp only [Option.isSome_none, Bool.false_eq_true, ↓reduceIte, true_and]
          cases clock : Wait.seconds elapsed with
          | error failure =>
              exact .inr (.inr (untimely_need leads.clean world (.inl (Wait.seconds_fails clock)) _))
          | ok now =>
              rw [bind_ran (need_ran sentinel now world)]
              by_cases late : (last || deadline.le now) = true
              · obtain ⟨machine, log, cancelled, keeps, ends⟩ :=
                  cancel_gives_up session sentinel place world sound leads found
                simp only [late]
                exact .inr (.inl ⟨_, machine, log, bind_ran cancelled _, rfl, keeps, ends⟩)
              · have early : last = false := by
                  cases last with
                  | false => rfl
                  | true => exact absurd rfl late
                simp only [late]
                cases sleeps : Wait.nap session.settings.pollInterval.1 with
                | error failure =>
                    exact .inr (.inr (untimely_need leads.clean world (Wait.nap_fails sleeps) _))
                | ok nap => exact .inl ⟨early, nap.toNat, rfl⟩

theorem later_nothing (pending : List Pending) (nothing : pending = []) : Pending.later pending = [] := by
  subst nothing
  rfl

theorem land_nothing (world : World) : Pending.land [] world = .ok () world := rfl

-- The induction is on the sleeps that are left; nothing is to appear, so they change nothing.
include sound leads in
theorem pollFrom_ends (plain : world.disk.node? place ≠ some .directory) (held : Bool)
    (elapsed patience : Nat) :
    (world.disk.node? place ≠ none ∧ ∃ disk, pollFrom held session sentinel elapsed patience [] world =
        .ok none { world with disk } ∧ world.disk.Becomes disk place none) ∨
      (world.disk.node? place = none ∧
        ∃ slept left, pollFrom held session sentinel elapsed patience [] world =
          .ok (some ⟨session, sentinel, slept, left, []⟩) world) ∨
      (world.disk.node? place = none ∧
        GivesUp session world (pollFrom held session sentinel elapsed patience [] world)) ∨
      Untimely (pollFrom held session sentinel elapsed patience [] world) := by
  induction patience generalizing elapsed with
  | zero =>
      rw [pollFrom]
      rcases turn_ends session sentinel place world sound leads plain elapsed true with
        ⟨there, disk, ended, becomes⟩ | ⟨_, early, _⟩ |
          ⟨missing, failure, machine, log, failed, engine, keeps, ends⟩ | ⟨failure, after, failed, odd⟩
      · exact .inl ⟨there, disk, bind_ran ended _, becomes⟩
      · cases early
      · exact .inr (.inr (.inl ⟨missing, failure, machine, log, bind_failed failed _,
          engine, keeps, ends⟩))
      · exact .inr (.inr (.inr ⟨failure, after, bind_failed failed _, odd⟩))
  | succ patience ih =>
      rw [pollFrom]
      rcases turn_ends session sentinel place world sound leads plain elapsed false with
        ⟨there, disk, ended, becomes⟩ | ⟨missing, _, nap, ended⟩ |
          ⟨missing, failure, machine, log, failed, engine, keeps, ends⟩ | ⟨failure, after, failed, odd⟩
      · exact .inl ⟨there, disk, bind_ran ended _, becomes⟩
      · rw [bind_ran ended]
        cases held with
        | true => exact .inr (.inl ⟨missing, elapsed, patience + 1, rfl⟩)
        | false =>
            dsimp only
            simp only [Bool.false_eq_true, ↓reduceIte]
            rw [bind_ran (land_nothing world)]
            exact ih (elapsed + nap)
      · exact .inr (.inr (.inl ⟨missing, failure, machine, log, bind_failed failed _, engine, keeps, ends⟩))
      · exact .inr (.inr (.inr ⟨failure, after, bind_failed failed _, odd⟩))

end Sentinel

section Frames

variable {relation : World → World → Prop} (refl : ∀ world, relation world world)
  (trans : ∀ first second third, relation first second → relation second third → relation first third)
  {session : Session} {sentinel : Path} (removes : Frames relation (Artifact.discard sentinel))
  (aborts : Frames relation session.abort)

include refl trans removes in
theorem frames_need {α : Type} (value : Except Failure α) : Frames relation (need sentinel value) := by
  cases value with
  | ok value => exact frames_pure refl value
  | error failure => exact frames_bind trans removes fun _ => frames_throw refl failure

include refl in
theorem frames_land_nothing (pending : List Pending) (nothing : pending = []) :
    Frames relation (Pending.land pending) := by
  subst nothing
  exact refl

include refl trans removes aborts

theorem frames_turn (elapsed : Nat) (last : Bool) :
    Frames relation (turn session sentinel elapsed last) := by
  have needs {α : Type} (value : Except Failure α) : Frames relation (need sentinel value) :=
    frames_need refl trans removes value
  unfold turn
  refine frames_bind trans (needs _) fun deadline => ?_
  refine frames_bind trans (frames_disk refl) fun disk => ?_
  refine frames_bind trans (needs _) fun there => ?_
  split
  · exact frames_bind trans removes fun _ => frames_pure refl none
  · refine frames_bind trans (needs _) fun now => ?_
    split
    · refine frames_bind trans (frames_bind trans aborts fun _ => removes) fun _ => ?_
      exact frames_bind trans (frames_throw refl _) fun _ =>
        frames_bind trans (needs _) fun nap => frames_pure refl _
    · exact frames_bind trans (needs _) fun nap => frames_pure refl _

section Landing

variable (fits : List Pending → Prop)
  (lands : ∀ pending, fits pending → Frames relation (Pending.land pending))
  (stays : ∀ pending, fits pending → fits (Pending.later pending))

include lands stays

-- The induction is on the sleeps that are left; each of them may let something appear.
theorem frames_polling (held : Bool) (elapsed patience : Nat) (pending : List Pending) (fit : fits pending) :
    Frames relation (pollFrom held session sentinel elapsed patience pending) := by
  induction patience generalizing elapsed pending with
  | zero =>
      rw [pollFrom]
      exact frames_bind trans (frames_turn refl trans removes aborts elapsed true) fun _ =>
        frames_pure refl none
  | succ patience ih =>
      rw [pollFrom]
      refine frames_bind trans (frames_turn refl trans removes aborts elapsed false) fun nap => ?_
      cases nap with
      | none => exact frames_pure refl none
      | some nap =>
          dsimp only
          split
          · exact frames_pure refl _
          · exact frames_bind trans (lands pending fit) fun _ => ih (elapsed + nap) _ (stays pending fit)

theorem frames_resuming {run : Run} (held : Bool) (here : run.session = session)
    (looksFor : run.sentinel = sentinel) (fit : fits run.pending) : Frames relation (run.resume held) := by
  unfold resume
  rw [here, looksFor]
  refine frames_bind trans (lands _ fit) fun _ => ?_
  refine frames_bind trans (frames_need refl trans removes _) fun nap => ?_
  exact frames_polling refl trans removes aborts fits lands stays held _ _ _ (stays _ fit)

end Landing

theorem frames_pollFrom (held : Bool) (elapsed patience : Nat) :
    Frames relation (pollFrom held session sentinel elapsed patience []) :=
  frames_polling refl trans removes aborts (· = []) (frames_land_nothing refl) later_nothing held
    elapsed patience [] rfl

theorem frames_resume {run : Run} (held : Bool) (here : run.session = session)
    (looksFor : run.sentinel = sentinel) (nothing : run.pending = []) :
    Frames relation (run.resume held) :=
  frames_resuming refl trans removes aborts (· = []) (frames_land_nothing refl) later_nothing held here
    looksFor nothing

end Frames

theorem asleep_of_pollFrom {held : Bool} {session : Session} {sentinel : Path} {elapsed patience : Nat}
    {world after : World} {run : Run}
    (slept : pollFrom held session sentinel elapsed patience [] world = .ok (some run) after) :
    run.session = session ∧ run.sentinel = sentinel ∧ run.pending = [] := by
  induction patience generalizing elapsed world with
  | zero =>
      rw [pollFrom] at slept
      cases turned : turn session sentinel elapsed true world with
      | ok nap middle => cases (bind_ran turned _).symm.trans slept
      | error failure middle => cases (bind_failed turned _).symm.trans slept
  | succ patience ih =>
      rw [pollFrom] at slept
      cases turned : turn session sentinel elapsed false world with
      | error failure middle => cases (bind_failed turned _).symm.trans slept
      | ok nap middle =>
          rw [bind_ran turned] at slept
          cases nap with
          | none => cases slept
          | some nap =>
              dsimp only at slept
              cases held with
              | true =>
                  cases slept
                  exact ⟨rfl, rfl, rfl⟩
              | false =>
                  simp only [Bool.false_eq_true, ↓reduceIte] at slept
                  rw [bind_ran (land_nothing middle)] at slept
                  exact ih slept

theorem asleep_of_resume {held : Bool} {run next : Run} {world after : World} (nothing : run.pending = [])
    (slept : run.resume held world = .ok (some next) after) :
    next.session = run.session ∧ next.sentinel = run.sentinel ∧ next.pending = [] := by
  unfold resume at slept
  rw [nothing, bind_ran (land_nothing world)] at slept
  cases needed : need run.sentinel (Wait.nap run.session.settings.pollInterval.1) world with
  | error failure middle => cases (bind_failed needed _).symm.trans slept
  | ok nap middle =>
      rw [bind_ran needed] at slept
      exact asleep_of_pollFrom slept

end Run

end LogtalkNavigation
