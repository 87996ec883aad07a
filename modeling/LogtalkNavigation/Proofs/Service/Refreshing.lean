import LogtalkNavigation.Proofs.Service.Fetching

/-! Errands for new results run beside the requests of a workspace and share its session. They write to
other places, and whatever process they abort cannot act any more; so they spare the requests. -/

namespace LogtalkNavigation

open Act Engine Machine Job

def Spares (root : Path) (base : Location) (session : Nat) (world after : World) : Prop :=
  (Grounded root base world.disk → Elsewhere root base world.disk after.disk) ∧
    Keeps session world.machine after.machine

section Spares

variable {root : Path} {base : Location} {session : Nat}

theorem Spares.refl (world : World) : Spares root base session world world :=
  ⟨fun grounded => Elsewhere.refl grounded, Keeps.refl session world.machine⟩

theorem Spares.trans (world middle after : World) (first : Spares root base session world middle)
    (second : Spares root base session middle after) : Spares root base session world after := by
  refine ⟨fun grounded => ?_, first.2.trans second.2⟩
  have early := first.1 grounded
  exact early.trans (second.1 early.grounded)

theorem erase_elsewhere {disk : Disk} {directory : Path} {name : Name} {place : Location}
    (grounded : Grounded root base disk) (free : ¬ Reserved name) (proper : name ≠ Name.up)
    (leads : disk.Leads (directory.child name) place) (plain : disk.node? place ≠ some .directory) :
    Elsewhere root base disk (disk.erase place) := by
  obtain ⟨above, _, _, rfl⟩ := leads.above proper
  have becomes := Disk.becomes_erase disk (above ++ [name]) (by simp)
  refine ⟨grounded.becomes becomes plain (by simp) (.inl rfl), fun other reserved => ?_⟩
  apply becomes.away
  intro same
  have last := congrArg List.getLast? same
  rw [List.getLast?_concat, List.getLast?_concat] at last
  cases last
  exact free reserved

theorem frames_discard (report : Report) (directory : Path) :
    Frames (Spares root base session)
      (Artifact.discard (Errand.sentinelOf report.artifact directory)) := by
  intro world
  rw [Errand.sentinelOf_eq]
  cases removed : world.disk.unlink (directory.child report.artifact.sentinelName) with
  | ok disk =>
      have ran : Artifact.discard (directory.child report.artifact.sentinelName) world =
          .ok () { world with disk } := by
        rw [Artifact.discard, disk_bind, removed]
        rfl
      rw [left_of_ran ran]
      refine ⟨fun grounded => ?_, Keeps.refl session world.machine⟩
      obtain ⟨place, content, leads, file, rfl⟩ := Disk.leads_of_unlink removed
      exact erase_elsewhere grounded (not_reserved_report report) (Artifact.Kind.sentinelName_ne_up _)
        leads (by rw [file]; simp)
  | error failure =>
      obtain ⟨log, quiet⟩ : ∃ log, (Artifact.discard (directory.child report.artifact.sentinelName)).left
          world = { world with log } := by
        rw [Act.left, Artifact.discard, disk_bind, removed]
        cases failure with
        | os error =>
            by_cases missing : error.code = .notFound
            · exact ⟨world.log, by simp only [missing]; rfl⟩
            · exact ⟨_, by simp only [missing, ne_eq, not_false_eq_true, ↓reduceIte]; rfl⟩
        | _ => exact ⟨world.log, rfl⟩
      rw [quiet]
      exact ⟨fun grounded => Elsewhere.refl grounded, Keeps.refl session world.machine⟩

theorem frames_abort (session : Session) :
    Frames (Spares root base session.number) session.abort := by
  intro world
  obtain ⟨machine, log, aborted, keeps, _⟩ := session.abort_ends world
  rw [left_of_ran aborted]
  exact ⟨fun grounded => Elsewhere.refl grounded, keeps⟩

end Spares

theorem Job.act_left {α : Type} (action : Act α) (office : Office) :
    (∃ value, Job.act action office = .ok value { office with world := action.left office.world }) ∨
      ∃ failure, Job.act action office =
        .error failure { office with world := action.left office.world } := by
  cases ended : action office.world with
  | ok value after => exact .inl ⟨value, by rw [act_ran ended, left_of_ran ended]⟩
  | error failure after => exact .inr ⟨failure, by rw [act_failed ended, left_of_failed ended]⟩

namespace Errand

variable {root : Path} {base : Location} (report : Report) (directory : Path) (recursive : Bool)

-- The engine writes files to other places than those of the workspace.
def LieElsewhere (root : Path) (base : Location) (files : List (Path × List UInt8)) : Prop :=
  ∀ disk, Grounded root base disk →
    Elsewhere root base disk (files.foldl (fun disk (p, content) => disk.put p content) disk)

/-- An errand has got on: it has spared the workspace, and if it sleeps it waits for its own sentinel and
for nothing else. -/
def Spared (root : Path) (base : Location) (session : Session) (sentinel : Path) (world : World)
    (result : EStateM.Result Failure Office (Option Run)) : Prop :=
  ∃ later, later.sessions.lookup root = some session ∧
    Spares root base session.number world later.world ∧
    ((∃ failure, result = .error failure later) ∨ result = .ok none later ∨
      ∃ run, result = .ok (some run) later ∧ run.session = session ∧ run.sentinel = sentinel ∧
        run.pending = [])

section Session

variable {session : Session} {office : Office} {sentinel : Path} {action : Act (Option Run)}
  (seated : office.sessions.lookup root = some session)
  (removes : Frames (Spares root base session.number) (Artifact.discard sentinel))
include seated

theorem spared_of_left (spares : Spares root base session.number office.world (action.left office.world))
    (shape : ∀ run after, action office.world = .ok (some run) after →
      run.session = session ∧ run.sentinel = sentinel ∧ run.pending = []) :
    Spared root base session sentinel office.world (Job.act action office) := by
  refine ⟨{ office with world := action.left office.world }, seated, spares, ?_⟩
  rcases Job.act_left action office with ⟨found, ran⟩ | ⟨failure, failed⟩
  · rw [ran]
    cases found with
    | none => exact .inr (.inl rfl)
    | some run =>
        refine .inr (.inr ⟨run, rfl, ?_⟩)
        cases ended : action office.world with
        | error failure after => cases (act_failed ended).symm.trans ran
        | ok found after =>
            cases (act_ran ended).symm.trans ran
            exact shape run _ ended
  · exact .inl ⟨failure, failed⟩

theorem failed_spared {failure : Failure} {world : World}
    (spares : Spares root base session.number office.world world)
    (failed : action office.world = .error failure world) :
    Spared root base session sentinel office.world (Job.act action office) := by
  apply spared_of_left seated
  · rw [left_of_failed failed]
    exact spares
  · intro run after slept
    cases failed.symm.trans slept

include removes

theorem poll_spared {held : Bool} {elapsed patience : Nat} {world : World}
    (before : Spares root base session.number office.world world)
    (polls : action office.world = Run.pollFrom held session sentinel elapsed patience [] world) :
    Spared root base session sentinel office.world (Job.act action office) := by
  apply spared_of_left seated
  · have after := Run.frames_pollFrom Spares.refl Spares.trans removes (frames_abort session) held elapsed
      patience world
    rw [Act.left, polls, ← Act.left]
    exact Spares.trans _ _ _ before after
  · intro run after slept
    exact Run.asleep_of_pollFrom (polls.symm.trans slept)

theorem perform_spared (held : Bool) (goal : Text)
    (prompt : office.world.machine.Prompt (goal ++ ['\n']))
    (elsewhere : LieElsewhere root base (office.world.machine.written (goal ++ ['\n']))) :
    Spared root base session sentinel office.world
      (Job.act (Run.perform held session goal sentinel) office) := by
  have cleared := removes office.world
  obtain ⟨disk, log, quiet⟩ := Artifact.discard_left sentinel office.world
  rw [quiet] at cleared
  cases removed : Artifact.discard sentinel office.world with
  | error failure after =>
      have same := (left_of_failed removed).symm.trans quiet
      subst same
      have failed : Run.perform held session goal sentinel office.world = .error failure _ :=
        bind_failed (bind_failed removed _) _
      exact failed_spared seated cleared failed
  | ok value after =>
      have same := (left_of_ran removed).symm.trans quiet
      subst same
      rcases session.send_ends { office.world with disk, log } goal prompt with
        ⟨failure, after, failed, unmoved, keeps⟩ | ⟨process, after, sent, wrote, keeps, _, _⟩
      · have started : Run.start session goal sentinel office.world = .error failure after :=
          (bind_ran removed _).trans (bind_failed failed _)
        refine failed_spared seated (Spares.trans _ _ _ cleared ⟨fun grounded => ?_, keeps⟩)
          (bind_failed started _)
        rw [unmoved]
        exact Elsewhere.refl grounded
      · have started : Run.start session goal sentinel office.world = .ok _ after :=
          (bind_ran removed _).trans (bind_ran sent _)
        refine poll_spared seated removes (Spares.trans _ _ _ cleared ⟨fun grounded => ?_, keeps⟩)
          (bind_ran started _)
        rw [wrote]
        exact elsewhere disk grounded

end Session

theorem launch_spared (held : Bool) (office : Office)
    (prompt : office.world.machine.Prompt
      (refreshGoal report directory recursive (office.sessionOf root) ++ ['\n']))
    (elsewhere : LieElsewhere root base (office.world.machine.written
      (refreshGoal report directory recursive (office.sessionOf root) ++ ['\n']))) :
    Spared root base (office.sessionOf root) (sentinelOf report.artifact directory) office.world
      ((Errand.refresh report directory root recursive).launch (Run.perform held) office) := by
  obtain ⟨ready, seated, same, known⟩ := sessionFor_ran root office
  rw [← same] at prompt elsewhere ⊢
  unfold launch
  dsimp only
  rw [bind_ran seated]
  exact perform_spared known (frames_discard report directory) held _ prompt elsewhere

-- There is no artifact to remove, whatever the failure.
theorem withEngine_refresh (work : Act (Option Run)) (world : World) :
    (Errand.refresh report directory root recursive).withEngine work world = work world := by
  unfold withEngine
  cases worked : work world with
  | ok found after =>
      rw [bind_ran (Act.attempt_ran worked)]
      rfl
  | error failure after =>
      rw [bind_ran (Act.attempt_failed worked)]
      cases engine : failure.isEngine with
      | true => simp only [engine]; rfl
      | false => simp only [engine]; rfl

theorem wake_spared (held : Bool) (run : Run) (office : Office)
    (seated : office.sessions.lookup root = some run.session)
    (looksFor : run.sentinel = sentinelOf report.artifact directory) (nothing : run.pending = []) :
    Spared root base run.session run.sentinel office.world
      ((Errand.refresh report directory root recursive).wake held run office) := by
  have removes := @frames_discard root base run.session.number report directory
  rw [← looksFor] at removes
  have same : Job.act ((Errand.refresh report directory root recursive).withEngine (run.resume held)) office =
      Job.act (run.resume held) office := by
    simp only [Job.act, withEngine_refresh]
  unfold wake
  rw [same]
  apply spared_of_left seated
  · exact Run.frames_resume Spares.refl Spares.trans removes (frames_abort run.session) held rfl rfl nothing
      office.world
  · intro next after slept
    exact Run.asleep_of_resume nothing slept

theorem cancel_spared (run : Run) (office : Office)
    (looksFor : run.sentinel = sentinelOf report.artifact directory) :
    ∃ later, later.sessions = office.sessions ∧
      Spares root base run.session.number office.world later.world ∧
      ((∃ value, (Errand.refresh report directory root recursive).cancel run office = .ok value later) ∨
        ∃ failure, (Errand.refresh report directory root recursive).cancel run office =
          .error failure later) := by
  have removes := @frames_discard root base run.session.number report directory
  rw [← looksFor] at removes
  have frames : Frames (Spares root base run.session.number) (do
      Run.cancel run.session run.sentinel
      (Errand.refresh report directory root recursive).discardResult) :=
    frames_bind Spares.trans (frames_bind Spares.trans (frames_abort run.session) fun _ => removes)
      fun _ => Spares.refl
  refine ⟨{ office with world := Act.left _ office.world }, ?_, frames office.world,
    Job.act_left _ office⟩
  rfl

end Errand

end LogtalkNavigation
