import LogtalkNavigation.Engine.Session
import LogtalkNavigation.Proofs.Reading

/-! What becomes of processes. A process can act as long as it runs and can be written to. Whatever a
session does, it revives no process, and a process that it holds and that can still act stays held. Aborting
leaves no process that was held able to act. -/

namespace LogtalkNavigation.Engine.Machine

-- The process can work on its goals.
def Alive (machine : Machine) (process : Nat) : Prop :=
  ∃ state, machine.processes[process]? = some state ∧ state.exit = none ∧ state.writable = true

theorem Alive.runs {machine : Machine} {process : Nat} (alive : machine.Alive process) :
    machine.runs process = true := by
  obtain ⟨state, found, running, _⟩ := alive
  simp [Machine.runs, found, running]

theorem lt_of_runs {machine : Machine} {process : Nat} (running : machine.runs process = true) :
    process < machine.processes.length := by
  unfold runs at running
  split at running
  case h_1 known => exact (List.getElem?_eq_some_iff.mp known).1
  case h_2 => cases running

/-- From one machine to another no process is revived, and a process that the session holds and that can
still act stays held. -/
structure Keeps (session : Nat) (old new : Machine) : Prop where
  grows : old.processes.length ≤ new.processes.length
  alive : ∀ process, process < old.processes.length → new.Alive process → old.Alive process
  held : ∀ process, process < old.processes.length → new.Alive process →
    old.heldBy session = some process → new.heldBy session = some process

theorem Keeps.trans {session : Nat} {old middle new : Machine} (first : Keeps session old middle)
    (second : Keeps session middle new) : Keeps session old new where
  grows := Nat.le_trans first.grows second.grows
  alive process known acts :=
    first.alive process known (second.alive process (Nat.lt_of_lt_of_le known first.grows) acts)
  held process known acts before := by
    have still : process < middle.processes.length := Nat.lt_of_lt_of_le known first.grows
    have acted := second.alive process still acts
    exact second.held process still acts (first.held process known acted before)

theorem keeps_of_same {session : Nat} {old new : Machine} (processes : new.processes = old.processes)
    (held : new.held = old.held) : Keeps session old new where
  grows := Nat.le_of_eq (congrArg List.length processes).symm
  alive process _ acts := by
    obtain ⟨state, found, rest⟩ := acts
    exact ⟨state, by rw [← processes]; exact found, rest⟩
  held process _ _ before := by
    unfold heldBy at before ⊢
    rw [held]
    exact before

theorem Keeps.refl (session : Nat) (machine : Machine) : Keeps session machine machine :=
  keeps_of_same rfl rfl

theorem alive_of_modify {machine : Machine} {changed process : Nat} {change : Process → Process}
    (acts : ({ machine with processes := machine.processes.modify changed change }).Alive process)
    (worse : ∀ state, (change state).exit = none → (change state).writable = true →
      state.exit = none ∧ state.writable = true) : machine.Alive process := by
  obtain ⟨state, found, running, writable⟩ := acts
  rw [List.getElem?_modify] at found
  obtain ⟨old, known, same⟩ := Option.map_eq_some_iff.mp found
  by_cases here : changed = process
  · rw [if_pos here] at same
    subst same
    exact ⟨old, known, worse old running writable⟩
  · rw [if_neg here] at same
    subst same
    exact ⟨old, known, running, writable⟩

theorem keeps_modify (session changed : Nat) (machine : Machine) (change : Process → Process)
    (worse : ∀ state, (change state).exit = none → (change state).writable = true →
      state.exit = none ∧ state.writable = true) :
    Keeps session machine { machine with processes := machine.processes.modify changed change } where
  grows := by simp
  alive _ _ acts := alive_of_modify acts worse
  held _ _ _ before := before

theorem keeps_setExit (session process : Nat) (machine : Machine) (code : Int) :
    Keeps session machine (machine.setExit process code) :=
  keeps_modify session process machine _ fun _ running _ => nomatch running

theorem keeps_breakPipe (session process : Nat) (machine : Machine) :
    Keeps session machine (machine.breakPipe process) :=
  keeps_modify session process machine _ fun _ _ writable => nomatch writable

theorem keeps_write (session process : Nat) (machine : Machine) (text : Text) :
    Keeps session machine (machine.write process text) := by
  have recorded : Keeps session machine (machine.record (.write text)) := keeps_of_same rfl rfl
  exact recorded.trans (keeps_modify session process _ _ fun _ running writable => ⟨running, writable⟩)

theorem not_alive_of_modify (machine : Machine) (process : Nat) (change : Process → Process)
    (ends : ∀ state, (change state).exit = none → (change state).writable = false) :
    ¬ ({ machine with processes := machine.processes.modify process change }).Alive process := by
  rintro ⟨state, found, running, writable⟩
  rw [List.getElem?_modify] at found
  obtain ⟨old, _, same⟩ := Option.map_eq_some_iff.mp found
  rw [if_pos rfl] at same
  subst same
  rw [ends old running] at writable
  cases writable

theorem not_alive_of_setExit (machine : Machine) (process : Nat) (code : Int) :
    ¬ (machine.setExit process code).Alive process :=
  not_alive_of_modify machine process _ fun _ running => nomatch running

theorem not_alive_of_breakPipe (machine : Machine) (process : Nat) :
    ¬ (machine.breakPipe process).Alive process :=
  not_alive_of_modify machine process _ fun _ _ => rfl

theorem heldBy_hold (machine : Machine) (session process : Nat) :
    (machine.hold session process).heldBy session = some process := by
  simp [hold, heldBy]

-- What a session holds may be let go of as long as it cannot act any more.
theorem keeps_release {session : Nat} {machine : Machine}
    (spent : ∀ process, machine.heldBy session = some process → ¬ machine.Alive process) :
    Keeps session machine (machine.release session) where
  grows := Nat.le_refl _
  alive _ _ acts := acts
  held process _ acts before := absurd acts (spent process before)

theorem keeps_start {session : Nat} {machine new : Machine} {command : List String} {directory : Text}
    {process : Nat} (spent : ∀ process, machine.heldBy session = some process → ¬ machine.Alive process)
    (started : machine.start command directory = .ok (process, new)) :
    Keeps session machine (new.hold session process) ∧ process = machine.processes.length ∧
      (new.hold session process).processes.length = machine.processes.length + 1 ∧
      new.rules = machine.rules := by
  unfold start at started
  split at started
  · cases started
  · cases started
    refine ⟨⟨?_, ?_, ?_⟩, rfl, ?_, rfl⟩
    · simp [hold, record]
    · rintro process known ⟨state, found, acts⟩
      refine ⟨state, ?_, acts⟩
      simpa [hold, record, List.getElem?_append_left known] using found
    · rintro process known ⟨state, found, acts⟩ before
      refine absurd ⟨state, ?_, acts⟩ (spent process before)
      simpa [hold, record, List.getElem?_append_left known] using found
    · simp [hold, record]

end LogtalkNavigation.Engine.Machine

namespace LogtalkNavigation

open Act Engine Machine

-- The files that a process writes as soon as it is told a text.
def Engine.Machine.written (machine : Machine) (text : Text) : List (Path × List UInt8) :=
  ((machine.ruleFor? text).map (·.files)).getD []

-- A text is answered at once or not at all.
def Engine.Machine.Prompt (machine : Machine) (text : Text) : Prop :=
  ∀ rule, machine.ruleFor? text = some rule → rule.delay = 0

namespace Engine

theorem tell_ends (process : Nat) (text : Text) (world : World) (prompt : world.machine.Prompt text) :
    (∃ failure, tell process text world =
        .error failure { world with machine := (world.machine.write process text).breakPipe process }) ∨
      ∃ machine, tell process text world =
          .ok [] { world with disk := (world.machine.written text).foldl (fun disk (p, content) =>
            disk.put p content) world.disk, machine } ∧
        (machine = world.machine.write process text ∨
          ∃ code, machine = (world.machine.write process text).setExit process code) := by
  have same : (world.machine.write process text).ruleFor? text = world.machine.ruleFor? text := rfl
  unfold tell
  rw [machine_bind, bind_ran (setMachine_ran _ _), same]
  cases ruled : world.machine.ruleFor? text with
  | none =>
      refine .inr ⟨_, ?_, .inl rfl⟩
      simp only [written, ruled]
      rfl
  | some rule =>
      have atOnce := prompt rule ruled
      simp only [written, ruled, Option.map_some, Option.getD_some]
      by_cases broken : rule.broken = true
      · exact .inl ⟨_, by simp only [broken, ↓reduceIte]; rfl⟩
      · cases exited : rule.exit with
        | none =>
            refine .inr ⟨_, ?_, .inl rfl⟩
            simp only [broken, atOnce, Bool.false_eq_true, ↓reduceIte]
            rfl
        | some code =>
            refine .inr ⟨_, ?_, .inr ⟨code, rfl⟩⟩
            simp only [broken, atOnce, Bool.false_eq_true, ↓reduceIte]
            rfl

end Engine

namespace Session

variable (session : Session) (world : World)

theorem start_ends (spent : ∀ process, world.machine.heldBy session.number = some process →
      ¬ world.machine.Alive process) :
    (∃ failure log, session.start world = .error failure { world with log }) ∨
      ∃ process machine log, session.start world = .ok process { world with machine, log } ∧
        Keeps session.number world.machine machine ∧ machine.heldBy session.number = some process ∧
        process < machine.processes.length ∧ machine.rules = world.machine.rules := by
  unfold start
  dsimp only
  rw [bind_ran (note_ran _ _ world), machine_bind]
  generalize world.log.add _ _ = log
  dsimp only
  cases started : world.machine.start session.command session.root.text with
  | error failure => exact .inl ⟨_, log, rfl⟩
  | ok pair =>
      obtain ⟨process, machine⟩ := pair
      obtain ⟨keeps, rfl, longer, ruled⟩ := keeps_start spent started
      refine .inr ⟨_, _, log, rfl, keeps, heldBy_hold _ _ _, ?_, ruled⟩
      rw [longer]
      exact Nat.lt_succ_self _

theorem ready_ends :
    (∃ failure log, session.ready world = .error failure { world with log }) ∨
      ∃ process machine log, session.ready world = .ok process { world with machine, log } ∧
        Keeps session.number world.machine machine ∧ machine.heldBy session.number = some process ∧
        process < machine.processes.length ∧ machine.rules = world.machine.rules := by
  unfold ready
  rw [machine_bind]
  cases held : world.machine.heldBy session.number with
  | none =>
      refine start_ends session world fun process same => ?_
      rw [held] at same
      cases same
  | some process =>
      cases running : world.machine.runs process with
      | false =>
          dsimp only
          rw [running]
          refine start_ends session world fun other same alive => ?_
          rw [held] at same
          cases same
          exact Bool.false_ne_true (running.symm.trans alive.runs)
      | true =>
          dsimp only
          rw [running]
          exact .inr ⟨process, world.machine, world.log, rfl, Keeps.refl _ _, held, lt_of_runs running, rfl⟩

theorem send_ends (goal : Text) (prompt : world.machine.Prompt (goal ++ ['\n'])) :
    (∃ failure after, session.send goal world = .error failure after ∧ after.disk = world.disk ∧
        Keeps session.number world.machine after.machine) ∨
      ∃ process after, session.send goal world = .ok [] after ∧
        after.disk = (world.machine.written (goal ++ ['\n'])).foldl (fun disk (p, content) =>
          disk.put p content) world.disk ∧
        Keeps session.number world.machine after.machine ∧
        after.machine.heldBy session.number = some process ∧
        process < after.machine.processes.length := by
  unfold send
  rcases ready_ends session world with
    ⟨failure, log, failed⟩ | ⟨process, machine, log, readied, keeps, held, known, ruled⟩
  · exact .inl ⟨failure, _, bind_failed failed _, rfl, Keeps.refl _ _⟩
  · rw [bind_ran readied, machine_bind]
    cases writable : machine.isWritable process with
    | false =>
        exact .inl ⟨unreachable "engine started without stdin pipe" [], { world with machine, log },
          rfl, rfl, keeps⟩
    | true =>
        dsimp only
        simp only [Bool.not_true, Bool.false_eq_true, ↓reduceIte]
        rw [bind_ran (note_ran _ _ _)]
        dsimp only
        generalize log.add _ _ = log
        have alike (text : Text) : machine.ruleFor? text = world.machine.ruleFor? text := by
          simp only [ruleFor?, ruled]
        have recorded : Keeps session.number machine (machine.write process (goal ++ ['\n'])) :=
          keeps_write session.number process machine _
        have stillPrompt : machine.Prompt (goal ++ ['\n']) := by
          intro rule same
          exact prompt rule ((alike _).symm.trans same)
        rcases tell_ends process (goal ++ ['\n']) { world with machine, log } stillPrompt with
          ⟨failure, failed⟩ | ⟨told, wrote, same⟩
        · rw [bind_ran (attempt_failed failed)]
          refine .inl ⟨_, _, rfl, rfl, keeps.trans (recorded.trans ?_)⟩
          refine (keeps_breakPipe session.number process _).trans (keeps_release fun other holds => ?_)
          have here : some process = some other := held.symm.trans holds
          cases here
          exact not_alive_of_breakPipe _ _
        · rw [bind_ran (attempt_ran wrote)]
          refine .inr ⟨process, _, rfl, ?_, ?_⟩
          · simp only [written, alike]
          · have listed : process < (machine.write process (goal ++ ['\n'])).processes.length := by
              simpa [Machine.write] using known
            rcases same with rfl | ⟨code, rfl⟩
            · exact ⟨keeps.trans recorded, held, listed⟩
            · refine ⟨keeps.trans (recorded.trans (keeps_setExit _ _ _ _)), held, ?_⟩
              simpa [setExit] using listed

theorem await_ends (number process : Nat) :
    ∃ exited machine, await process world = .ok exited { world with machine } ∧
      Keeps number world.machine machine := by
  have waited : Keeps number world.machine (world.machine.record .wait) := keeps_of_same rfl rfl
  refine ⟨(world.machine.wait process).1, (world.machine.wait process).2, rfl, ?_⟩
  unfold wait
  dsimp only
  split
  · exact waited
  · split
    · exact waited.trans (keeps_setExit _ _ _ _)
    · exact waited

theorem abort_ends :
    ∃ machine log, session.abort world = .ok () { world with machine, log } ∧
      Keeps session.number world.machine machine ∧
      ∀ process, world.machine.heldBy session.number = some process → ¬ machine.Alive process := by
  have went : session.letGo world = .ok ((world.machine.heldBy session.number).filter world.machine.runs)
      { world with machine := world.machine.release session.number } := rfl
  unfold abort
  rw [bind_ran went]
  cases held : world.machine.heldBy session.number with
  | none =>
      refine ⟨_, world.log, rfl, keeps_release fun process same => ?_, fun process same => ?_⟩
      · rw [held] at same
        cases same
      · cases same
  | some process =>
      cases running : world.machine.runs process with
      | false =>
          have spent : ∀ other, some process = some other → ¬ world.machine.Alive other := by
            intro other same alive
            cases same
            exact Bool.false_ne_true (running.symm.trans alive.runs)
          refine ⟨world.machine.release session.number, world.log, ?_, ?_, spent⟩
          · simp only [Option.filter, running]
            rfl
          · rw [← held] at spent
            exact keeps_release spent
      | true =>
          -- The process could as well be killed before it is let go of.
          have killed := keeps_setExit session.number process world.machine (-9)
          have gone := not_alive_of_setExit world.machine process (-9)
          have released : Keeps session.number (world.machine.setExit process (-9))
              ((world.machine.release session.number).kill process) := by
            refine (keeps_release fun other same => ?_).trans (keeps_of_same rfl rfl)
            have here : some process = some other := held.symm.trans same
            cases here
            exact gone
          have filtered : (some process).filter world.machine.runs = some process := by
            simp [Option.filter, running]
          rw [filtered]
          dsimp only
          rw [bind_ran (note_ran _ _ _)]
          dsimp only
          generalize world.log.add _ _ = log
          have struck : Session.kill process
              { world with machine := world.machine.release session.number, log } =
              .ok () { world with machine := (world.machine.release session.number).kill process, log } := rfl
          rw [bind_ran struck]
          obtain ⟨exited, machine, awaited, waited⟩ := await_ends
            { world with machine := (world.machine.release session.number).kill process, log }
            session.number process
          rw [bind_ran awaited]
          have keeps := killed.trans (released.trans waited)
          have ended : ∀ other, some process = some other → ¬ machine.Alive other := by
            intro other same alive
            cases same
            have still : process < (world.machine.setExit process (-9)).processes.length := by
              simpa [setExit] using lt_of_runs running
            exact gone ((released.trans waited).alive process still alive)
          cases exited with
          | true => exact ⟨machine, log, rfl, keeps, ended⟩
          | false => exact ⟨machine, _, rfl, keeps, ended⟩

end Session

end LogtalkNavigation
