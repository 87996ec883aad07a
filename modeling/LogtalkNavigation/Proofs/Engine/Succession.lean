import LogtalkNavigation.Proofs.Engine.Polling

/-! The processes of a session succeed one another. A session starts a process only when the one that it holds
has exited, and lets go of a process only when it has exited, has refused a goal or is killed. So of all the
processes that it ever started at most one runs, and that is the one that it holds. Processes may exit on
their own at any time, and starts may fail. -/

namespace LogtalkNavigation

open Act Engine Machine

namespace Engine.Machine

def told (machine : Machine) (process : Nat) : List Text :=
  ((machine.processes[process]?).map Process.told).getD []

def Refused (machine : Machine) (process : Nat) : Prop :=
  ∃ state, machine.processes[process]? = some state ∧ state.writable = false ∧ state.told ≠ []

instance (machine : Machine) (process : Nat) : Decidable (machine.Refused process) :=
  inferInstanceAs (Decidable (∃ state ∈ machine.processes[process]?,
    state.writable = false ∧ state.told ≠ []))

def Spent (machine : Machine) (session : Nat) : Prop :=
  ∀ process, machine.heldBy session = some process → machine.runs process = false

theorem runs_iff {machine : Machine} {process : Nat} :
    machine.runs process = true ↔ ∃ state, machine.processes[process]? = some state ∧ state.exit = none := by
  unfold runs
  cases machine.processes[process]? with
  | none => simp
  | some state => simp

structure Wears (process : Nat) (old new : Machine) : Prop where
  length : new.processes.length = old.processes.length
  held : new.held = old.held
  others : ∀ other, other ≠ process → new.processes[other]? = old.processes[other]?
  runs : new.runs process = true → old.runs process = true
  refused : old.Refused process → new.Refused process

section Wears

variable {process : Nat} {old middle new : Machine}

theorem Wears.trans (first : Wears process old middle) (second : Wears process middle new) :
    Wears process old new where
  length := second.length.trans first.length
  held := second.held.trans first.held
  others other apart := (second.others other apart).trans (first.others other apart)
  runs running := first.runs (second.runs running)
  refused before := second.refused (first.refused before)

theorem wears_of_same (processes : new.processes = old.processes) (held : new.held = old.held) :
    Wears process old new where
  length := congrArg List.length processes
  held := held
  others _ _ := by rw [processes]
  runs running := by simpa only [Machine.runs, processes] using running
  refused before := by simpa only [Refused, processes] using before

theorem wears_modify (machine : Machine) (process : Nat) (change : Process → Process)
    (ends : ∀ state, (change state).exit = none → state.exit = none)
    (breaks : ∀ state, state.writable = false → (change state).writable = false)
    (tells : ∀ state, state.told ≠ [] → (change state).told ≠ []) :
    Wears process machine { machine with processes := machine.processes.modify process change } where
  length := List.length_modify ..
  held := rfl
  others other apart := by
    simp only [List.getElem?_modify, if_neg (Ne.symm apart)]
    exact Option.map_id'
  runs running := by
    obtain ⟨state, found, unended⟩ := runs_iff.mp running
    simp only [List.getElem?_modify, ↓reduceIte] at found
    obtain ⟨before, known, rfl⟩ := Option.map_eq_some_iff.mp found
    exact runs_iff.mpr ⟨before, known, ends before unended⟩
  refused := by
    rintro ⟨before, known, broken, texts⟩
    refine ⟨change before, ?_, breaks before broken, tells before texts⟩
    simp only [List.getElem?_modify, ↓reduceIte, known]
    rfl

theorem wears_setExit (machine : Machine) (process : Nat) (code : Int) :
    Wears process machine (machine.setExit process code) :=
  wears_modify machine process _ (fun _ running => nomatch running) (fun _ => id) fun _ => id

theorem wears_breakPipe (machine : Machine) (process : Nat) :
    Wears process machine (machine.breakPipe process) :=
  wears_modify machine process _ (fun _ => id) (fun _ _ => rfl) fun _ => id

theorem wears_write (machine : Machine) (process : Nat) (text : Text) :
    Wears process machine (machine.write process text) := by
  have recorded : Wears process machine (machine.record (.write text)) := wears_of_same rfl rfl
  refine recorded.trans (wears_modify _ process _ (fun _ => id) (fun _ => id) fun state _ => ?_)
  exact List.append_ne_nil_of_right_ne_nil _ (List.cons_ne_nil _ _)

theorem not_runs_setExit (machine : Machine) (process : Nat) (code : Int) :
    (machine.setExit process code).runs process = false := by
  rw [← Bool.not_eq_true, runs_iff]
  rintro ⟨state, found, unended⟩
  simp only [setExit, List.getElem?_modify, ↓reduceIte] at found
  obtain ⟨before, _, rfl⟩ := Option.map_eq_some_iff.mp found
  cases unended

theorem wears_kill (machine : Machine) (process : Nat) :
    Wears process machine (machine.kill process) ∧ (machine.kill process).runs process = false := by
  have recorded : Wears process machine (machine.record .kill) := wears_of_same rfl rfl
  exact ⟨recorded.trans (wears_setExit _ process (-9)), not_runs_setExit _ process (-9)⟩

-- Waiting ends with an exited process, unless the wait is given up.
theorem wears_wait (machine : Machine) (process : Nat) :
    Wears process machine (machine.wait process).2 ∧
      ((machine.wait process).1 = true → (machine.wait process).2.runs process = false) := by
  have recorded : Wears process machine (machine.record .wait) := wears_of_same rfl rfl
  unfold wait
  dsimp only
  split
  · exact ⟨recorded, nofun⟩
  · split
    · exact ⟨recorded.trans (wears_setExit _ process 0), fun _ => not_runs_setExit _ process 0⟩
    · rename_i ended
      exact ⟨recorded, fun _ => Bool.not_eq_true _ ▸ ended⟩

theorem refused_of_breakPipe {machine : Machine} {process : Nat} (known : process < machine.processes.length)
    (text : Text) : ((machine.write process text).breakPipe process).Refused process := by
  have found : ((machine.write process text).breakPipe process).processes[process]? =
      some { machine.processes[process] with
        writable := false, told := machine.processes[process].told ++ [text] } := by
    simp only [breakPipe, Machine.write, List.getElem?_modify, ↓reduceIte, List.getElem?_eq_getElem known]
    rfl
  exact ⟨_, found, rfl, List.append_ne_nil_of_right_ne_nil _ (List.cons_ne_nil _ _)⟩

end Wears

/-- What a session does to processes. It revives none. What runs of the process that it held and of those that it
started is held at the end, unless it refused a goal. What it holds at the end it held before or has started.
Of the processes that were there before it writes to none but the one that it held, and only if that runs. -/
structure Handles (session : Nat) (old new : Machine) : Prop where
  grows : old.processes.length ≤ new.processes.length
  runs : ∀ process, process < old.processes.length → new.runs process = true → old.runs process = true
  refused : ∀ process, process < old.processes.length → old.Refused process → new.Refused process
  keeps : ∀ process, old.heldBy session = some process ∨ old.processes.length ≤ process →
    new.runs process = true → ¬ new.Refused process → new.heldBy session = some process
  holds : ∀ process, new.heldBy session = some process →
    old.heldBy session = some process ∨ (old.processes.length ≤ process ∧ process < new.processes.length)
  tells : ∀ process, process < old.processes.length → new.told process ≠ old.told process →
    old.heldBy session = some process ∧ old.runs process = true

section Handles

variable {session process : Nat} {old middle new : Machine}

theorem Handles.trans (first : Handles session old middle) (second : Handles session middle new) :
    Handles session old new where
  grows := Nat.le_trans first.grows second.grows
  runs process known running :=
    first.runs process known (second.runs process (Nat.lt_of_lt_of_le known first.grows) running)
  refused process known before :=
    second.refused process (Nat.lt_of_lt_of_le known first.grows) (first.refused process known before)
  keeps process own running taken := by
    by_cases later : middle.processes.length ≤ process
    · exact second.keeps process (.inr later) running taken
    · have known : process < middle.processes.length := Nat.lt_of_not_le later
      have ran := second.runs process known running
      have took := fun before => taken (second.refused process known before)
      exact second.keeps process (.inl (first.keeps process own ran took)) running taken
  holds process last := by
    rcases second.holds process last with kept | ⟨later, known⟩
    · rcases first.holds process kept with before | ⟨started, known⟩
      · exact .inl before
      · exact .inr ⟨started, Nat.lt_of_lt_of_le known second.grows⟩
    · exact .inr ⟨Nat.le_trans first.grows later, known⟩
  tells process known wrote := by
    by_cases early : middle.told process = old.told process
    · have still := Nat.lt_of_lt_of_le known first.grows
      obtain ⟨held, ran⟩ := second.tells process still (by rwa [early])
      refine ⟨?_, first.runs process known ran⟩
      rcases first.holds process held with before | ⟨started, _⟩
      · exact before
      · exact absurd known (Nat.not_lt.mpr started)
    · exact first.tells process known early

theorem handles_of_same (processes : new.processes = old.processes) (held : new.held = old.held) :
    Handles session old new where
  grows := Nat.le_of_eq (congrArg List.length processes).symm
  runs process _ running := by simpa only [Machine.runs, processes] using running
  refused process _ before := by simpa only [Refused, processes] using before
  keeps process own running _ := by
    rcases own with before | beyond
    · simpa only [heldBy, held] using before
    · have known := lt_of_runs running
      rw [processes] at known
      exact absurd known (Nat.not_lt.mpr beyond)
  holds process last := .inl (by simpa only [heldBy, held] using last)
  tells process _ wrote := absurd (by simp only [told, processes]) wrote

theorem Handles.refl (session : Nat) (machine : Machine) : Handles session machine machine :=
  handles_of_same rfl rfl

theorem Wears.runs_before (wears : Wears process old new) (other : Nat) (running : new.runs other = true) :
    old.runs other = true := by
  by_cases here : other = process
  · subst here
    exact wears.runs running
  · simpa only [Machine.runs, wears.others other here] using running

theorem Wears.refused_after (wears : Wears process old new) (other : Nat) (before : old.Refused other) :
    new.Refused other := by
  by_cases here : other = process
  · subst here
    exact wears.refused before
  · simpa only [Refused, wears.others other here] using before

theorem Wears.told_elsewhere (wears : Wears process old new) (other : Nat)
    (wrote : new.told other ≠ old.told other) : other = process := by
  by_contra apart
  exact wrote (by simp only [told, wears.others other apart])

-- The process that is held may be worn as long as it runs.
theorem handles_of_wears (wears : Wears process old new) (current : old.heldBy session = some process)
    (running : old.runs process = true) : Handles session old new where
  grows := Nat.le_of_eq wears.length.symm
  runs other _ := wears.runs_before other
  refused other _ := wears.refused_after other
  keeps other own ran _ := by
    rcases own with before | beyond
    · simpa only [heldBy, wears.held] using before
    · have known := lt_of_runs ran
      rw [wears.length] at known
      exact absurd known (Nat.not_lt.mpr beyond)
  holds other last := .inl (by simpa only [heldBy, wears.held] using last)
  tells other _ wrote := by
    rw [wears.told_elsewhere other wrote]
    exact ⟨current, running⟩

theorem heldBy_release (machine : Machine) (session : Nat) : (machine.release session).heldBy session = none := by
  refine List.lookup_eq_none_iff.mpr fun entry inside => ?_
  have apart : entry.1 ≠ session := of_decide_eq_true (List.mem_filter.mp inside).2
  exact bne_iff_ne.mpr apart.symm

-- A process that is held may be let go of once it has exited or refused a goal.
theorem handles_release (spent : ∀ process, old.heldBy session = some process → old.runs process = true →
    old.Refused process) : Handles session old (old.release session) where
  grows := Nat.le_refl _
  runs _ _ running := running
  refused _ _ before := before
  keeps process own running taken := by
    rcases own with before | beyond
    · exact absurd (spent process before running) taken
    · exact absurd (lt_of_runs running) (Nat.not_lt.mpr beyond)
  holds process last := by
    rw [heldBy_release] at last
    cases last
  tells _ _ wrote := absurd rfl wrote

-- A process that runs may be let go of if it is ended after that.
theorem handles_of_retired (wears : Wears process (old.release session) new)
    (current : old.heldBy session = some process) (running : old.runs process = true)
    (ended : new.runs process = false) : Handles session old new where
  grows := Nat.le_of_eq wears.length.symm
  runs other _ := wears.runs_before other
  refused other _ := wears.refused_after other
  keeps other own ran _ := by
    exfalso
    rcases own with before | beyond
    · cases current.symm.trans before
      exact Bool.false_ne_true (ended.symm.trans ran)
    · have known := lt_of_runs ran
      rw [wears.length] at known
      exact absurd known (Nat.not_lt.mpr beyond)
  holds other last := by
    have free : new.heldBy session = none := by
      rw [heldBy, wears.held]
      exact heldBy_release old session
    rw [free] at last
    cases last
  tells other _ wrote := by
    rw [wears.told_elsewhere other wrote]
    exact ⟨current, running⟩

-- A process may be started when the one that is held has exited.
theorem handles_start {command : List String} {directory : Text} (spent : old.Spent session)
    (started : old.start command directory = .ok (process, new)) :
    Handles session old (new.hold session process) ∧ (new.hold session process).runs process = true ∧
      (new.hold session process).processes.length = old.processes.length + 1 := by
  unfold start at started
  split at started
  · cases started
  · cases started
    have below (other : Nat) (known : other < old.processes.length) :
        (old.processes ++ [({ writable := !old.startsMute, exit := none } : Process)])[other]? =
          old.processes[other]? :=
      List.getElem?_append_left known
    refine ⟨⟨?_, ?_, ?_, ?_, ?_, ?_⟩, by simp [hold, Machine.runs], by simp [hold]⟩
    · simp [hold]
    · intro other known running
      simpa only [Machine.runs, hold, below other known] using running
    · intro other known before
      simpa only [Refused, hold, below other known] using before
    · intro other own running taken
      rw [heldBy_hold]
      rcases own with before | beyond
      · have known : other < old.processes.length ∨ other = old.processes.length := by
          have bound := lt_of_runs running
          simp only [hold, List.length_append, List.length_singleton] at bound
          omega
        rcases known with earlier | same
        · have ran : old.runs other = true := by
            simpa only [Machine.runs, hold, below other earlier] using running
          exact absurd ((spent other before).symm.trans ran) Bool.false_ne_true
        · rw [same]
      · have bound := lt_of_runs running
        simp only [hold, List.length_append, List.length_singleton] at bound
        rw [Nat.le_antisymm beyond (by omega)]
    · intro other last
      rw [heldBy_hold] at last
      cases last
      exact .inr ⟨Nat.le_refl _, by simp [hold]⟩
    · intro other known wrote
      exact absurd (by simp only [told, hold, below other known]) wrote

end Handles

end Engine.Machine

def Failure.isTimeout : Failure → Bool
  | .engineTimeout _ _ => true
  | _ => false

theorem Engine.tell_wears (process : Nat) (text : Text) (world : World) :
    (∃ failure, tell process text world =
        .error failure { world with machine := (world.machine.write process text).breakPipe process }) ∨
      ∃ pending disk machine, tell process text world = .ok pending { world with disk, machine } ∧
        disk.faults = world.disk.faults ∧ Wears process world.machine machine := by
  have written := wears_write world.machine process text
  have exited (code : Int) := written.trans (wears_setExit _ process code)
  unfold tell
  rw [machine_bind, bind_ran (setMachine_ran _ _)]
  cases (world.machine.write process text).ruleFor? text with
  | none => exact .inr ⟨[], _, _, rfl, rfl, written⟩
  | some rule =>
      dsimp only
      by_cases broken : rule.broken = true
      · exact .inl ⟨_, by simp only [broken, ↓reduceIte]; rfl⟩
      · have appeared := Disk.puts_faults rule.files world.disk
        right
        simp only [broken, Bool.false_eq_true, ↓reduceIte]
        by_cases atOnce : rule.delay = 0
        · simp only [atOnce, ↓reduceIte]
          cases rule.exit with
          | none => exact ⟨_, _, _, rfl, appeared, written⟩
          | some code => exact ⟨_, _, _, rfl, appeared, exited code⟩
        · simp only [atOnce, ↓reduceIte]
          cases rule.exit with
          | none => exact ⟨_, _, _, rfl, rfl, written⟩
          | some code => exact ⟨_, _, _, rfl, rfl, exited code⟩

namespace Session

variable (session : Session) (world : World)

theorem start_handles (spent : world.machine.Spent session.number) :
    (world.machine.startFails = true ∧ ∃ failure log, session.start world = .error failure { world with log } ∧
        failure.isTimeout = false) ∨
      ∃ process machine log, session.start world = .ok process { world with machine, log } ∧
        Handles session.number world.machine machine ∧ machine.heldBy session.number = some process ∧
        machine.runs process = true ∧ machine.processes.length = world.machine.processes.length + 1 := by
  unfold start
  dsimp only
  rw [bind_ran (note_ran _ _ world), machine_bind]
  generalize world.log.add _ _ = log
  dsimp only
  cases started : world.machine.start session.command session.root.text with
  | error failure =>
      have fails : world.machine.startFails = true := by
        unfold Machine.start at started
        split at started
        · assumption
        · cases started
      exact .inl ⟨fails, _, log, rfl, rfl⟩
  | ok pair =>
      obtain ⟨process, machine⟩ := pair
      obtain ⟨handles, running, longer⟩ := handles_start spent started
      exact .inr ⟨process, _, log, rfl, handles, heldBy_hold _ _ _, running, longer⟩

theorem ready_of_running {process : Nat} (held : world.machine.heldBy session.number = some process)
    (running : world.machine.runs process = true) : session.ready world = .ok process world := by
  unfold ready
  rw [machine_bind, held]
  dsimp only
  rw [running]
  rfl

theorem ready_of_spent (spent : world.machine.Spent session.number) :
    session.ready world = session.start world := by
  unfold ready
  rw [machine_bind]
  cases held : world.machine.heldBy session.number with
  | none => rfl
  | some process =>
      dsimp only
      rw [spent process held]
      rfl

theorem ready_handles :
    (∃ failure log, session.ready world = .error failure { world with log } ∧ failure.isTimeout = false) ∨
      ∃ process machine log, session.ready world = .ok process { world with machine, log } ∧
        Handles session.number world.machine machine ∧ machine.heldBy session.number = some process ∧
        machine.runs process = true := by
  by_cases current : ∃ process, world.machine.heldBy session.number = some process ∧
      world.machine.runs process = true
  · obtain ⟨process, held, running⟩ := current
    exact .inr ⟨process, world.machine, world.log, ready_of_running session world held running,
      Handles.refl _ _, held, running⟩
  · have spent : world.machine.Spent session.number := by
      intro process held
      exact Bool.eq_false_iff.mpr fun running => current ⟨process, held, running⟩
    rw [ready_of_spent session world spent]
    rcases start_handles session world spent with
      ⟨_, failed⟩ | ⟨process, machine, log, started, handles, held, running, _⟩
    · exact .inl failed
    · exact .inr ⟨process, machine, log, started, handles, held, running⟩

-- Once there is a process to send to, no other is touched.
theorem send_of_ready (goal : Text) {process : Nat} {machine : Machine} {log : Log}
    (readied : session.ready world = .ok process { world with machine, log })
    (held : machine.heldBy session.number = some process) (running : machine.runs process = true) :
    (∃ failure after log, session.send goal world = .error failure { world with machine := after, log } ∧
        Handles session.number machine after ∧ after.processes.length = machine.processes.length ∧
        failure.isTimeout = false) ∨
      ∃ pending disk after log, session.send goal world = .ok pending { disk, machine := after, log } ∧
        disk.faults = world.disk.faults ∧ Handles session.number machine after ∧
        after.processes.length = machine.processes.length := by
  unfold send
  rw [bind_ran readied, machine_bind]
  cases writable : machine.isWritable process with
  | false =>
      exact .inl ⟨unreachable "engine started without stdin pipe" [], machine, log, rfl,
        Handles.refl _ _, rfl, rfl⟩
  | true =>
      dsimp only
      simp only [Bool.not_true, Bool.false_eq_true, ↓reduceIte]
      rw [bind_ran (note_ran _ _ _)]
      dsimp only
      generalize log.add _ _ = log
      rcases tell_wears process (goal ++ ['\n']) { world with machine, log } with
        ⟨failure, failed⟩ | ⟨pending, disk, told, wrote, faults, wears⟩
      · rw [bind_ran (attempt_failed failed)]
        have broken := (wears_write machine process (goal ++ ['\n'])).trans (wears_breakPipe _ process)
        have refused := refused_of_breakPipe (lt_of_runs running) (goal ++ ['\n'])
        refine .inl ⟨_, _, _, rfl, (handles_of_wears broken held running).trans ?_, broken.length, rfl⟩
        apply handles_release
        intro other holds _
        have here : some process = some other := held.symm.trans holds
        cases here
        exact refused
      · rw [bind_ran (attempt_ran wrote)]
        exact .inr ⟨pending, disk, told, log, rfl, faults, handles_of_wears wears held running, wears.length⟩

theorem send_handles (goal : Text) :
    (∃ failure machine log, session.send goal world = .error failure { world with machine, log } ∧
        Handles session.number world.machine machine ∧ failure.isTimeout = false) ∨
      ∃ pending disk machine log, session.send goal world = .ok pending { disk, machine, log } ∧
        disk.faults = world.disk.faults ∧ Handles session.number world.machine machine := by
  rcases ready_handles session world with
    ⟨failure, log, failed, other⟩ | ⟨process, machine, log, readied, handles, held, running⟩
  · exact .inl ⟨failure, _, _, bind_failed failed _, Handles.refl _ _, other⟩
  · rcases send_of_ready session world goal readied held running with
      ⟨failure, after, later, failed, late, _, timely⟩ | ⟨pending, disk, after, later, sent, faults, late, _⟩
    · exact .inl ⟨failure, after, later, failed, handles.trans late, timely⟩
    · exact .inr ⟨pending, disk, after, later, sent, faults, handles.trans late⟩

-- The machine is as a session leaves it that gave its process up.
structure GivenUp (session : Session) (old new : Machine) : Prop where
  handles : Handles session.number old new
  length : new.processes.length = old.processes.length
  free : new.heldBy session.number = none
  ended : ∀ process, old.heldBy session.number = some process → new.runs process = false

variable {world} in
theorem givenUp_of_spent (nothing : (world.machine.heldBy session.number).filter world.machine.runs = none) :
    GivenUp session world.machine (world.machine.release session.number) := by
  have ended : world.machine.Spent session.number := by
    intro process held
    rw [held] at nothing
    simpa [Option.filter] using nothing
  refine ⟨handles_release fun process held running => ?_, rfl, heldBy_release _ _, ended⟩
  exact absurd ((ended process held).symm.trans running) Bool.false_ne_true

variable {world} in
theorem givenUp_of_wears {process : Nat} {new : Machine}
    (current : (world.machine.heldBy session.number).filter world.machine.runs = some process)
    (wears : Wears process (world.machine.release session.number) new) (ended : new.runs process = false) :
    GivenUp session world.machine new := by
  obtain ⟨held, running⟩ := Option.filter_eq_some_iff.mp current
  refine ⟨handles_of_retired wears held running ended, wears.length, ?_, fun other holds => ?_⟩
  · rw [heldBy, wears.held]
    exact heldBy_release _ _
  · cases held.symm.trans holds
    exact ended

theorem letGo_ran : session.letGo world =
    .ok ((world.machine.heldBy session.number).filter world.machine.runs)
      { world with machine := world.machine.release session.number } := rfl

theorem await_ran (process : Nat) : await process world =
    .ok (world.machine.wait process).1 { world with machine := (world.machine.wait process).2 } := rfl

theorem abort_gives_up : ∃ machine log, session.abort world = .ok () { world with machine, log } ∧
    GivenUp session world.machine machine := by
  unfold abort
  rw [bind_ran (letGo_ran session world)]
  cases current : (world.machine.heldBy session.number).filter world.machine.runs with
  | none => exact ⟨_, world.log, rfl, givenUp_of_spent session current⟩
  | some process =>
      dsimp only
      rw [bind_ran (note_ran _ _ _)]
      dsimp only
      generalize world.log.add _ _ = log
      have struck : Session.kill process
          { world with machine := world.machine.release session.number, log } =
          .ok () { world with machine := (world.machine.release session.number).kill process, log } := rfl
      rw [bind_ran struck, bind_ran (await_ran _ process)]
      obtain ⟨killed, ended⟩ := wears_kill (world.machine.release session.number) process
      obtain ⟨waited, _⟩ := wears_wait ((world.machine.release session.number).kill process) process
      have gone : (((world.machine.release session.number).kill process).wait process).2.runs process = false :=
        Bool.eq_false_iff.mpr fun running => Bool.false_ne_true (ended.symm.trans (waited.runs running))
      have givenUp := givenUp_of_wears session current (killed.trans waited) gone
      cases (((world.machine.release session.number).kill process).wait process).1 with
      | true => exact ⟨_, log, rfl, givenUp⟩
      | false => exact ⟨_, _, rfl, givenUp⟩

theorem end_wears (process : Nat) : ∃ machine,
    (do if !(← await process) then Session.kill process : Act Unit) world = .ok () { world with machine } ∧
      Wears process world.machine machine ∧ machine.runs process = false := by
  obtain ⟨waited, ended⟩ := wears_wait world.machine process
  rw [bind_ran (await_ran world process)]
  cases exited : (world.machine.wait process).1 with
  | true => exact ⟨_, rfl, waited, ended exited⟩
  | false =>
      obtain ⟨killed, gone⟩ := wears_kill (world.machine.wait process).2 process
      exact ⟨_, rfl, waited.trans killed, gone⟩

-- Asking the process to halt wears it, whether it takes that or not.
theorem close_gives_up : ∃ disk machine log, session.close world = .ok () { disk, machine, log } ∧
    GivenUp session world.machine machine := by
  unfold close
  rw [bind_ran (letGo_ran session world)]
  cases current : (world.machine.heldBy session.number).filter world.machine.runs with
  | none => exact ⟨_, _, world.log, rfl, givenUp_of_spent session current⟩
  | some process =>
      have ends (disk : Disk) (asked : Machine) (log : Log)
          (wears : Wears process (world.machine.release session.number) asked) :
          ∃ disk' machine log', (do if !(← await process) then Session.kill process : Act Unit)
              { disk, machine := asked, log } = .ok () { disk := disk', machine, log := log' } ∧
            GivenUp session world.machine machine := by
        obtain ⟨machine, ended, worn, gone⟩ := end_wears { disk, machine := asked, log } process
        exact ⟨disk, machine, log, ended, givenUp_of_wears session current (wears.trans worn) gone⟩
      dsimp only
      rw [machine_bind]
      dsimp only
      split
      · rcases tell_wears process "halt.\n".toList
            { world with machine := world.machine.release session.number } with
          ⟨failure, failed⟩ | ⟨pending, disk, asked, told, _, wears⟩
        · rw [bind_ran (attempt_failed failed)]
          have broken := (wears_write (world.machine.release session.number) process
            "halt.\n".toList).trans (wears_breakPipe _ process)
          exact ends _ _ _ broken
        · rw [bind_ran (attempt_ran told)]
          exact ends _ _ _ wears
      · exact ends _ _ _ (wears_of_same rfl rfl)

end Session

end LogtalkNavigation
