import LogtalkNavigation.Proofs.Engine.Succession

/-! A session over time. Its goals are sent and run, runs wake up or are cancelled, and the session is aborted
and closed, in any order. In between processes exit, other sessions start theirs, and the circumstances of
the next start change. -/

namespace LogtalkNavigation

open Act Engine Machine

namespace Session

inductive Operation where
  | send (goal : Text)
  | perform (held : Bool) (goal : Text) (sentinel : Path)
  | resume (held : Bool) (run : Run)
  | cancel (sentinel : Path)
  | abort
  | close

def Operation.act (session : Session) : Operation → Act Unit
  | .send goal => do let _ ← session.send goal
  | .perform held goal sentinel => do let _ ← Run.perform held session goal sentinel
  | .resume held run => do let _ ← { run with session }.resume held
  | .cancel sentinel => Run.cancel session sentinel
  | .abort => session.abort
  | .close => session.close

-- The session does nothing to processes but handle them.
def Tends (session : Session) {α : Type} (action : Act α) : Prop :=
  Frames (fun old new => Handles session.number old.machine new.machine) action

section Tends

variable (session : Session)

theorem tends_refl (world : World) : Handles session.number world.machine world.machine :=
  Handles.refl _ _

theorem tends_trans (first second third : World)
    (early : Handles session.number first.machine second.machine)
    (late : Handles session.number second.machine third.machine) :
    Handles session.number first.machine third.machine :=
  early.trans late

theorem tends_discard (p : Path) : Tends session (Artifact.discard p) := by
  intro world
  obtain ⟨disk, log, removed⟩ := Artifact.discard_left p world
  rw [removed]
  exact Handles.refl _ _

theorem tends_land (pending : List Pending) : Tends session (Pending.land pending) :=
  fun _ => Handles.refl _ _

theorem tends_send (goal : Text) : Tends session (session.send goal) := by
  intro world
  rcases session.send_handles world goal with
    ⟨failure, machine, log, failed, handles, _⟩ | ⟨pending, disk, machine, log, sent, _, handles⟩
  · rw [left_of_failed failed]
    exact handles
  · rw [left_of_ran sent]
    exact handles

theorem tends_abort : Tends session session.abort := by
  intro world
  obtain ⟨machine, log, aborted, givenUp⟩ := session.abort_gives_up world
  rw [left_of_ran aborted]
  exact givenUp.handles

theorem tends_close : Tends session session.close := by
  intro world
  obtain ⟨disk, machine, log, closed, givenUp⟩ := session.close_gives_up world
  rw [left_of_ran closed]
  exact givenUp.handles

theorem tends_perform (held : Bool) (goal : Text) (sentinel : Path) :
    Tends session (Run.perform held session goal sentinel) := by
  have trans := tends_trans session
  have refl := tends_refl session
  unfold Run.perform Run.start Run.submit
  simp only [bind_assoc, pure_bind]
  apply frames_bind trans (tends_discard session sentinel)
  intro _
  apply frames_bind trans (tends_send session goal)
  intro pending
  exact Run.frames_polling refl trans (tends_discard session sentinel) (tends_abort session)
    (fun _ => True) (fun pending _ => tends_land session pending) (fun _ => id) held _ _ pending trivial

theorem tends_operation (operation : Operation) : Tends session (operation.act session) := by
  have trans := tends_trans session
  have refl := tends_refl session
  cases operation with
  | send goal => exact frames_bind trans (tends_send session goal) fun _ => frames_pure refl ()
  | perform held goal sentinel =>
      exact frames_bind trans (tends_perform session held goal sentinel) fun _ => frames_pure refl ()
  | resume held run =>
      refine frames_bind trans ?_ fun _ => frames_pure refl ()
      exact Run.frames_resuming refl trans (tends_discard session run.sentinel) (tends_abort session)
        (fun _ => True) (fun pending _ => tends_land session pending) (fun _ => id) held rfl rfl trivial
  | cancel sentinel =>
      exact frames_bind trans (tends_abort session) fun _ => tends_discard session sentinel
  | abort => exact tends_abort session
  | close => exact tends_close session

end Tends

structure Life where
  world : World
  started : List Nat

def Life.after (life : Life) (session : Session) (operation : Operation) : Life where
  world := (operation.act session).left life.world
  started := life.started ++ List.range' life.world.machine.processes.length
    (((operation.act session).left life.world).machine.processes.length - life.world.machine.processes.length)

/-- Something is done with a session, or something happens meanwhile. Of what happens it is only known that
what the session holds stays, that processes do not come back to life, and that one that has refused a goal
takes no more. A process that exits just before a goal is written to it refuses that goal. -/
inductive Life.Goes (session : Session) : Life → Life → Prop
  | does (life : Life) (operation : Operation) : Goes session life (life.after session operation)
  | meanwhile (life : Life) (world : World)
      (held : world.machine.heldBy session.number = life.world.machine.heldBy session.number)
      (grows : life.world.machine.processes.length ≤ world.machine.processes.length)
      (runs : ∀ process ∈ life.started, world.machine.runs process = true →
        life.world.machine.runs process = true)
      (refused : ∀ process ∈ life.started, life.world.machine.Refused process →
        world.machine.Refused process) :
      Goes session life { life with world }

inductive Life.Reaches (session : Session) (start : Life) : Life → Prop
  | here : Reaches session start start
  | on {life next : Life} (before : Reaches session start life) (goes : Goes session life next) :
      Reaches session start next

structure Life.Orderly (session : Session) (life : Life) : Prop where
  known : ∀ process ∈ life.started, process < life.world.machine.processes.length
  current : ∀ process ∈ life.started, life.world.machine.runs process = true →
    ¬ life.world.machine.Refused process → life.world.machine.heldBy session.number = some process
  own : ∀ process, life.world.machine.heldBy session.number = some process → process ∈ life.started

namespace Life

section Orderly

variable {session : Session} {start life : Life}

theorem mem_started_after {operation : Operation} {process : Nat} :
    process ∈ (life.after session operation).started ↔ process ∈ life.started ∨
      life.world.machine.processes.length ≤ process ∧
        process < (life.after session operation).world.machine.processes.length := by
  simp only [after, List.mem_append, List.mem_range'_1]
  apply or_congr_right
  omega

theorem Orderly.after (orderly : Orderly session life) (operation : Operation) :
    Orderly session (life.after session operation) := by
  have handles : Handles session.number life.world.machine (life.after session operation).world.machine :=
    tends_operation session operation life.world
  constructor
  · intro process started
    rcases mem_started_after.mp started with earlier | ⟨_, known⟩
    · exact Nat.lt_of_lt_of_le (orderly.known process earlier) handles.grows
    · exact known
  · intro process started running taken
    rcases mem_started_after.mp started with earlier | ⟨later, _⟩
    · have known := orderly.known process earlier
      have ran := handles.runs process known running
      have took := fun before => taken (handles.refused process known before)
      exact handles.keeps process (.inl (orderly.current process earlier ran took)) running taken
    · exact handles.keeps process (.inr later) running taken
  · intro process held
    apply mem_started_after.mpr
    rcases handles.holds process held with before | own
    · exact .inl (orderly.own process before)
    · exact .inr own

theorem Orderly.goes {next : Life} (orderly : Orderly session life) (goes : Goes session life next) :
    Orderly session next := by
  cases goes with
  | does operation => exact orderly.after operation
  | meanwhile world held grows runs refused =>
      constructor
      · intro process started
        exact Nat.lt_of_lt_of_le (orderly.known process started) grows
      · intro process started running taken
        have took := fun before => taken (refused process started before)
        exact held.trans (orderly.current process started (runs process started running) took)
      · intro process current
        exact orderly.own process (held.symm.trans current)

theorem orderly_of_reaches (unheld : start.world.machine.heldBy session.number = none)
    (fresh : start.started = []) (reaches : Reaches session start life) : Orderly session life := by
  induction reaches with
  | here =>
      constructor
      · intro process started
        simp [fresh] at started
      · intro process started
        simp [fresh] at started
      · intro process held
        cases unheld.symm.trans held
  | on before goes ih => exact ih.goes goes

-- That a process exits is among what may happen meanwhile.
theorem goes_exit (life : Life) (process : Nat) (code : Int) : Goes session life
    { life with world := { life.world with machine := life.world.machine.setExit process code } } := by
  have wears := wears_setExit life.world.machine process code
  apply Goes.meanwhile
  · rfl
  · exact Nat.le_of_eq wears.length.symm
  · intro other _ running
    exact wears.runs_before other running
  · intro other _ before
    exact wears.refused_after other before

theorem givenUp_after {operation : Operation} (gives : operation = .abort ∨ operation = .close) :
    GivenUp session life.world.machine (life.after session operation).world.machine := by
  rcases gives with rfl | rfl
  · obtain ⟨machine, log, aborted, givenUp⟩ := session.abort_gives_up life.world
    have same : (life.after session .abort).world = { life.world with machine, log } := left_of_ran aborted
    rw [same]
    exact givenUp
  · obtain ⟨disk, machine, log, closed, givenUp⟩ := session.close_gives_up life.world
    have same : (life.after session .close).world = { disk, machine, log } := left_of_ran closed
    rw [same]
    exact givenUp

theorem told_own {operation : Operation} {process : Nat}
    (wrote : (life.after session operation).world.machine.told process ≠ life.world.machine.told process) :
    (life.world.machine.heldBy session.number = some process ∧ life.world.machine.runs process = true) ∨
      life.world.machine.processes.length ≤ process ∧
        process < (life.after session operation).world.machine.processes.length := by
  have handles : Handles session.number life.world.machine (life.after session operation).world.machine :=
    tends_operation session operation life.world
  by_cases known : process < life.world.machine.processes.length
  · exact .inl (handles.tells process known wrote)
  · right
    refine ⟨Nat.le_of_not_lt known, Nat.lt_of_not_le fun beyond => wrote ?_⟩
    simp only [told, List.getElem?_eq_none (Nat.le_of_not_lt known), List.getElem?_eq_none beyond]

end Orderly

-- A session whose first process exits, whose second one refuses its goal, and whose third one is asked to halt
-- while a run waits for it.
namespace Third

def session : Session := ⟨0, ⟨.root, []⟩, {}⟩

def opening : Life where
  world := { disk := ⟨[], [], {}⟩, log := ⟨.warning, []⟩,
             machine := { rules := [⟨"second".toList, true, [], 0, none⟩] } }
  started := []

def exit (life : Life) (process : Nat) : Life :=
  { life with world := { life.world with machine := life.world.machine.setExit process 1 } }

def first : Life := opening.after session (.send "first.".toList)

def second : Life := (exit first 0).after session (.send "second.".toList)

def third : Life := (exit second 1).after session (.perform true "third.".toList (Path.ofString "/done"))

theorem third_reached : Reaches session opening third := by
  have firstSent : Reaches session opening first := .on .here (.does opening _)
  have firstEnded : Reaches session opening (exit first 0) := .on firstSent (goes_exit first 0 1)
  have secondSent : Reaches session opening second := .on firstEnded (.does _ _)
  have secondEnded : Reaches session opening (exit second 1) := .on secondSent (goes_exit second 1 1)
  exact .on secondEnded (.does _ _)

end Third

/-- Let a session begin with no process, and let processes that refuse a goal have exited. Then of all processes
that it ever started only the one that it holds can run, so that there is at most one. A goal is written
only to a process that was held and ran, or that was started for it. Once the session is aborted or closed it
holds no process, and none of those that it started runs. -/
theorem one_process_at_a_time {session : Session} {start life : Life}
    (unheld : start.world.machine.heldBy session.number = none)
    (fresh : start.started = []) (reaches : Reaches session start life)
    (exited : ∀ process ∈ life.started, life.world.machine.Refused process →
      life.world.machine.runs process = false) :
    (∀ process ∈ life.started, life.world.machine.runs process = true →
      life.world.machine.heldBy session.number = some process) ∧
    (∀ process ∈ life.started, ∀ other ∈ life.started, life.world.machine.runs process = true →
      life.world.machine.runs other = true → process = other) ∧
    (∀ operation process,
      (life.after session operation).world.machine.told process ≠ life.world.machine.told process →
        (life.world.machine.heldBy session.number = some process ∧
          life.world.machine.runs process = true) ∨
        (process ∈ (life.after session operation).started ∧ process ∉ life.started)) ∧
    ∀ operation, operation = .abort ∨ operation = .close →
      (life.after session operation).world.machine.heldBy session.number = none ∧
      ∀ process ∈ (life.after session operation).started,
        (life.after session operation).world.machine.runs process = false := by
  have orderly := orderly_of_reaches unheld fresh reaches
  have current : ∀ process ∈ life.started, life.world.machine.runs process = true →
      life.world.machine.heldBy session.number = some process := by
    intro process started running
    apply orderly.current process started running
    intro refused
    exact Bool.false_ne_true ((exited process started refused).symm.trans running)
  refine ⟨current, ?_, ?_, ?_⟩
  · intro process started other alsoStarted running alsoRunning
    exact Option.some.inj ((current process started running).symm.trans
      (current other alsoStarted alsoRunning))
  · intro operation process wrote
    rcases told_own wrote with before | own
    · exact .inl before
    · right
      refine ⟨mem_started_after.mpr (.inr own), fun started => ?_⟩
      exact absurd (orderly.known process started) (Nat.not_lt.mpr own.1)
  · intro operation gives
    have givenUp : GivenUp session life.world.machine (life.after session operation).world.machine :=
      givenUp_after gives
    refine ⟨givenUp.free, fun process started => ?_⟩
    apply Bool.eq_false_iff.mpr
    intro running
    rcases mem_started_after.mp started with earlier | ⟨later, known⟩
    · have ran := givenUp.handles.runs process (orderly.known process earlier) running
      have ended := givenUp.ended process (current process earlier ran)
      exact Bool.false_ne_true (ended.symm.trans running)
    · rw [givenUp.length] at known
      exact absurd known (Nat.not_lt.mpr later)

theorem third_process_alone :
    Reaches Third.session Third.opening Third.third ∧ Third.third.started = [0, 1, 2] ∧
      Third.third.world.machine.heldBy 0 = some 2 ∧
      ∀ process ∈ (Third.third.after Third.session .close).started,
        (Third.third.after Third.session .close).world.machine.runs process = false := by
  have exited : ∀ process ∈ Third.third.started, Third.third.world.machine.Refused process →
      Third.third.world.machine.runs process = false := by
    decide +kernel
  obtain ⟨current, _, _, ends⟩ := one_process_at_a_time rfl rfl Third.third_reached exited
  refine ⟨Third.third_reached, by decide +kernel, ?_, (ends .close (.inr rfl)).2⟩
  exact current 2 (by decide +kernel) (by decide +kernel)

end Life

end Session

end LogtalkNavigation
