import LogtalkNavigation.Proofs.Service.Workspace

/-! What a request does in its turn. It takes away what an earlier one may have left, sends its goal and
looks for the sentinel. When it ends, its places are empty but for the artifact of a goal that is finished,
and a goal that is given up belongs to a process that cannot act any more. -/

namespace LogtalkNavigation

open Act Engine Machine Job

namespace Errand

section Fetch

variable {root : Path} {base : Location} (request : Request)

/-- How a request gets on that has sent its goal, where `artifact` and `sentinel` are what is in its places:
it finds the sentinel, falls asleep, gives up, or cannot tell the time. -/
inductive Waited (root : Path) (base : Location) (request : Request) (session : Session) (office : Office)
    (artifact sentinel : Option (List UInt8)) : EStateM.Result Failure Office (Option Run) → Prop
  | found (disk : Disk) (there : sentinel ≠ none)
      (leaves : Leaves root base request.kind.artifact office.world.disk disk artifact none) :
      Waited root base request session office artifact sentinel
        (.ok none { office with world := { office.world with disk } })
  | asleep (slept left : Nat) (missing : sentinel = none) :
      Waited root base request session office artifact sentinel
        (.ok (some ⟨session, sentinelOf request.kind.artifact root, slept, left, []⟩) office)
  | gaveUp (failure : Failure) (after : World) (missing : sentinel = none)
      (leaves : Leaves root base request.kind.artifact office.world.disk after.disk none none)
      (keeps : Keeps session.number office.world.machine after.machine)
      (ends : ∀ process, office.world.machine.heldBy session.number = some process →
        ¬ after.machine.Alive process) :
      Waited root base request session office artifact sentinel
        (.error failure { office with world := after })
  | untimely (failure : Failure) (later : Office) (odd : failure = .overflow ∨ failure = .infinite) :
      Waited root base request session office artifact sentinel (.error failure later)

theorem discardResult_clears (world : World) (grounded : Grounded root base world.disk) :
    ∃ disk log, discardResult (.fetch request (some root)) world = .ok () { world with disk, log } ∧
      world.disk.Becomes disk (base ++ [request.kind.artifact.resultName]) none := by
  have reserved := reserved_result request.kind
  have leads := grounded.leads _ reserved
  rw [← artifactOf_eq] at leads
  obtain ⟨disk, removed, becomes⟩ := Artifact.discard_clears world (artifactOf request root) _
    grounded.sound leads (grounded.plain _ reserved)
  exact ⟨disk, _, bind_ran removed _, becomes⟩

theorem withEngine_gaveUp {work : Act (Option Run)} {world after : World} {failure : Failure}
    (failed : work world = .error failure after) (engine : failure.isEngine = true)
    (grounded : Grounded root base after.disk) :
    ∃ disk log, (Errand.fetch request (some root)).withEngine work world =
        .error failure { after with disk, log } ∧
      after.disk.Becomes disk (base ++ [request.kind.artifact.resultName]) none := by
  obtain ⟨disk, log, removed, becomes⟩ := discardResult_clears request after grounded
  refine ⟨disk, log, ?_, becomes⟩
  unfold withEngine
  rw [bind_ran (Act.attempt_failed failed)]
  dsimp only
  rw [if_pos engine, bind_ran removed]
  rfl

theorem withEngine_passes {errand : Errand} {work : Act (Option Run)} {world after : World}
    {failure : Failure} (failed : work world = .error failure after) (other : failure.isEngine = false) :
    errand.withEngine work world = .error failure after := by
  unfold withEngine
  rw [bind_ran (Act.attempt_failed failed)]
  dsimp only
  simp only [other, Bool.false_eq_true, ↓reduceIte]
  rfl

theorem poll_waited (held : Bool) (session : Session) (elapsed patience : Nat) (office : Office)
    {artifact sentinel : Option (List UInt8)}
    (leaves : Leaves root base request.kind.artifact office.world.disk office.world.disk artifact sentinel) :
    Waited root base request session office artifact sentinel
      (Job.act ((Errand.fetch request (some root)).withEngine
        (Run.pollFrom held session (sentinelOf request.kind.artifact root) elapsed patience [])) office) := by
  have reserved := reserved_sentinel request.kind
  have leads := leaves.grounded.leads _ reserved
  rw [← sentinelOf_eq] at leads
  have absent : office.world.disk.node? (base ++ [request.kind.artifact.sentinelName]) = none ↔
      sentinel = none := by
    rw [leaves.sentinel]
    cases sentinel <;> simp
  rcases Run.pollFrom_ends session _ _ office.world leaves.grounded.sound leads
      (leaves.grounded.plain _ reserved) held elapsed patience with
    ⟨there, disk, ran, becomes⟩ | ⟨missing, slept, left, ran⟩ |
      ⟨missing, failure, machine, log, failed, engine, keeps, ends⟩ | ⟨failure, after, failed, odd⟩
  · rw [act_ran (withEngine_ran ran)]
    exact .found disk (fun none => there (absent.mpr none)) (leaves.setSentinel becomes)
  · rw [act_ran (withEngine_ran ran)]
    exact .asleep slept left (absent.mp missing)
  · obtain ⟨disk, log, ended, becomes⟩ := withEngine_gaveUp request failed engine leaves.grounded
    rw [act_failed ended]
    refine .gaveUp failure _ (absent.mp missing) ?_ keeps ends
    have cleared : Leaves root base request.kind.artifact office.world.disk disk none sentinel :=
      leaves.setArtifact becomes
    rw [absent.mp missing] at cleared
    exact cleared
  · have other : failure.isEngine = false := by
      rcases odd with rfl | rfl <;> rfl
    rw [act_failed (withEngine_passes failed other)]
    exact .untimely failure _ odd

theorem withEngine_congr {errand : Errand} {work other : Act (Option Run)} {world middle : World}
    (same : work world = other middle) :
    errand.withEngine work world = errand.withEngine other middle := by
  have tried : Act.attempt work world = Act.attempt other middle := by simp only [Act.attempt, same]
  unfold withEngine
  simp only [bind, EStateM.bind, tried]

theorem act_congr {action other : Act (Option Run)} {office : Office} {world : World}
    (same : action office.world = other world) :
    Job.act action office = Job.act other { office with world } := by
  simp only [Job.act, same]

theorem wake_waited (held : Bool) (run : Run) (office : Office)
    (looksFor : run.sentinel = sentinelOf request.kind.artifact root) (nothing : run.pending = [])
    {artifact sentinel : Option (List UInt8)}
    (leaves : Leaves root base request.kind.artifact office.world.disk office.world.disk artifact sentinel) :
    Waited root base request run.session office artifact sentinel
      ((Errand.fetch request (some root)).wake held run office) := by
  have leads := leaves.grounded.leads _ (reserved_sentinel request.kind)
  rw [← sentinelOf_eq] at leads
  obtain ⟨session, path, elapsed, patience, pending⟩ := run
  dsimp only at looksFor nothing
  subst looksFor nothing
  unfold wake
  cases sleeps : Wait.nap session.settings.pollInterval.1 with
  | error failure =>
      have odd := Wait.nap_fails sleeps
      have other : failure.isEngine = false := by
        rcases odd with rfl | rfl <;> rfl
      obtain ⟨after, needed⟩ := @Run.need_fails Int _ leads.clean office.world failure
      have resumed : Run.resume held ⟨session, sentinelOf request.kind.artifact root, elapsed, patience, []⟩
          office.world = .error failure after := by
        unfold Run.resume
        dsimp only
        rw [bind_ran (Run.land_nothing _), sleeps]
        exact bind_failed needed _
      rw [act_failed (withEngine_passes resumed other)]
      exact .untimely failure _ odd
  | ok nap =>
      have resumed : Run.resume held ⟨session, sentinelOf request.kind.artifact root, elapsed, patience, []⟩
          office.world = Run.pollFrom held session (sentinelOf request.kind.artifact root)
            (elapsed + nap.toNat) (patience - 1) [] office.world := by
        unfold Run.resume
        dsimp only
        rw [bind_ran (Run.land_nothing _), sleeps, bind_ran (Run.need_ran _ nap _)]
        rfl
      rw [act_congr (withEngine_congr resumed)]
      exact poll_waited request held session _ _ office leaves

def sendOnly : Runner := fun session goal sentinel => do
  let _ ← Run.start session goal sentinel
  return none

theorem start_sends (session : Session) (goal : Text) (world : World) (output : Output) {disk : Disk}
    {sentinel : Option (List UInt8)}
    (leaves : Leaves root base request.kind.artifact disk world.disk none sentinel)
    (prompt : world.machine.Prompt (goal ++ ['\n']))
    (written : world.machine.written (goal ++ ['\n']) = output.files request root) :
    (∃ failure after, Run.start session goal (sentinelOf request.kind.artifact root) world =
        .error failure after ∧ Leaves root base request.kind.artifact disk after.disk none none ∧
        Keeps session.number world.machine after.machine) ∨
      ∃ patience process after, Run.start session goal (sentinelOf request.kind.artifact root) world =
          .ok ⟨session, sentinelOf request.kind.artifact root, 0, patience, []⟩ after ∧
        Leaves root base request.kind.artifact disk after.disk output.artifact output.sentinel ∧
        Keeps session.number world.machine after.machine ∧
        after.machine.heldBy session.number = some process ∧
        process < after.machine.processes.length := by
  have reserved := reserved_sentinel request.kind
  have leads := leaves.grounded.leads _ reserved
  rw [← sentinelOf_eq] at leads
  obtain ⟨cleared, removed, becomes⟩ := Artifact.discard_clears world
    (sentinelOf request.kind.artifact root) _ leaves.grounded.sound leads (leaves.grounded.plain _ reserved)
  have empty : Leaves root base request.kind.artifact disk cleared none none := leaves.setSentinel becomes
  unfold Run.start
  rw [bind_ran removed]
  rcases session.send_ends { world with disk := cleared } goal prompt with
    ⟨failure, after, failed, same, keeps⟩ | ⟨process, after, sent, same, keeps, held, known⟩
  · refine .inl ⟨failure, after, bind_failed failed _, ?_, keeps⟩
    rw [same]
    exact empty
  · refine .inr ⟨_, process, after, bind_ran sent _, ?_, keeps, held, known⟩
    rw [same, written]
    exact empty.write output

theorem prepare_clears (office : Office) (grounded : Grounded root base office.world.disk) :
    ∃ later sentinel, prepare request root office = .ok (office.sessionOf root) later ∧
      later.sessions.lookup root = some (office.sessionOf root) ∧
      later.world.machine = office.world.machine ∧
      Leaves root base request.kind.artifact office.world.disk later.world.disk none sentinel := by
  have reserved := reserved_result request.kind
  obtain ⟨artifact, sentinel, begun⟩ := Leaves.start grounded request.kind
  obtain ⟨disk, log, taken, becomes⟩ := Artifact.take_clears office.world root _ _ grounded.sound
    (grounded.leads _ reserved) reserved.ne_up (grounded.plain _ reserved) (grounded.alone _ reserved)
  rw [← artifactOf_eq] at taken
  have cleared : Leaves root base request.kind.artifact office.world.disk disk none sentinel :=
    begun.setArtifact becomes
  unfold prepare
  dsimp only
  rw [bind_ran (act_ran taken)]
  cases office.world.disk.content? (base ++ [request.kind.artifact.resultName]) with
  | none =>
      obtain ⟨later, seated, same, known⟩ :=
        sessionFor_ran root { office with world := { office.world with disk, log } }
      refine ⟨later, sentinel, seated, known, ?_, ?_⟩
      · rw [same]
      · rw [same]
        exact cleared
  | some content =>
      have noted := note_ran .warning
        s!"discarded stale {artifactOf request root} before {request.kind.word}"
        { office.world with disk, log }
      obtain ⟨later, seated, same, known⟩ :=
        sessionFor_ran root { office with world := { office.world with disk, log := log.add .warning _ } }
      refine ⟨later, sentinel, (bind_ran (act_ran noted) _).trans seated, known, ?_, ?_⟩
      · rw [same]
      · rw [same]
        exact cleared

theorem launch_ends (held : Bool) (office : Office) (output : Output)
    (grounded : Grounded root base office.world.disk) (rooted : (office.sessionOf root).root = root)
    (prompt : office.world.machine.Prompt (Goal.ofRequest request root ++ ['\n']))
    (written : office.world.machine.written (Goal.ofRequest request root ++ ['\n']) =
      output.files request root) :
    (∃ failure later,
        (Errand.fetch request (some root)).launch (Run.perform held) office = .error failure later ∧
        (Errand.fetch request (some root)).launch sendOnly office = .error failure later ∧
        later.sessions.lookup root = some (office.sessionOf root) ∧
        Leaves root base request.kind.artifact office.world.disk later.world.disk none none ∧
        Keeps (office.sessionOf root).number office.world.machine later.world.machine) ∨
      ∃ process middle, (Errand.fetch request (some root)).launch sendOnly office = .ok none middle ∧
        middle.sessions.lookup root = some (office.sessionOf root) ∧
        middle.world.machine.heldBy (office.sessionOf root).number = some process ∧
        process < middle.world.machine.processes.length ∧
        Keeps (office.sessionOf root).number office.world.machine middle.world.machine ∧
        Leaves root base request.kind.artifact office.world.disk middle.world.disk
          output.artifact output.sentinel ∧
        Waited root base request (office.sessionOf root) middle output.artifact output.sentinel
          ((Errand.fetch request (some root)).launch (Run.perform held) office) := by
  obtain ⟨ready, sentinel, prepared, seated, unmoved, leaves⟩ := prepare_clears request office grounded
  have asked (runner : Runner) : run request runner (office.sessionOf root) =
      runner (office.sessionOf root) (Goal.ofRequest request root)
        (sentinelOf request.kind.artifact root) := by
    unfold run
    rw [rooted]
  rw [launch_fetch, launch_fetch, bind_ran prepared, bind_ran prepared, asked, asked]
  rw [← unmoved] at prompt written
  rcases start_sends request (office.sessionOf root) (Goal.ofRequest request root) ready.world output leaves
      prompt written with
    ⟨failure, after, failed, empty, keeps⟩ |
      ⟨patience, process, after, sent, filled, keeps, holds, known⟩
  · -- Nothing was sent: looking for the sentinel or not makes no difference.
    have performed : Run.perform held (office.sessionOf root) (Goal.ofRequest request root)
        (sentinelOf request.kind.artifact root) ready.world = .error failure after := bind_failed failed _
    have sendOnly_failed : sendOnly (office.sessionOf root) (Goal.ofRequest request root)
        (sentinelOf request.kind.artifact root) ready.world = .error failure after := bind_failed failed _
    rw [unmoved] at keeps
    cases engine : failure.isEngine with
    | false =>
        rw [act_failed (withEngine_passes performed engine),
          act_failed (withEngine_passes sendOnly_failed engine)]
        exact .inl ⟨failure, _, rfl, rfl, seated, empty, keeps⟩
    | true =>
        obtain ⟨disk, log, ended, becomes⟩ :=
          withEngine_gaveUp request performed engine empty.grounded
        rw [act_congr (withEngine_congr (sendOnly_failed.trans performed.symm)), act_failed ended]
        exact .inl ⟨failure, _, rfl, rfl, seated, empty.setArtifact becomes, keeps⟩
  · have sendOnly_ran : sendOnly (office.sessionOf root) (Goal.ofRequest request root)
        (sentinelOf request.kind.artifact root) ready.world = .ok none after := bind_ran sent _
    have performed : Run.perform held (office.sessionOf root) (Goal.ofRequest request root)
        (sentinelOf request.kind.artifact root) ready.world =
        Run.pollFrom held (office.sessionOf root) (sentinelOf request.kind.artifact root) 0 patience []
          after := bind_ran sent _
    rw [unmoved] at keeps
    rw [act_ran (withEngine_ran sendOnly_ran), act_congr (withEngine_congr performed)]
    exact .inr ⟨process, { ready with world := after }, rfl, seated, holds, known, keeps, filled,
      poll_waited request held _ 0 patience { ready with world := after } filled.still⟩

theorem collect_clears (office : Office) {artifact : Option (List UInt8)}
    (leaves : Leaves root base request.kind.artifact office.world.disk office.world.disk artifact none) :
    ∃ disk log, collect request root office =
        .ok artifact { office with world := { office.world with disk, log } } ∧
      Leaves root base request.kind.artifact office.world.disk disk none none := by
  have reserved := reserved_result request.kind
  obtain ⟨disk, log, taken, becomes⟩ := Artifact.take_clears office.world root _ _ leaves.grounded.sound
    (leaves.grounded.leads _ reserved) reserved.ne_up (leaves.grounded.plain _ reserved)
    (leaves.grounded.alone _ reserved)
  have held : office.world.disk.content? (base ++ [request.kind.artifact.resultName]) = artifact := by
    unfold Disk.content?
    rw [leaves.artifact]
    cases artifact <;> rfl
  rw [← artifactOf_eq, held] at taken
  obtain ⟨log, collected⟩ := collect_ran request root taken
  exact ⟨disk, log, collected, leaves.setArtifact becomes⟩

theorem conclude_clears (office : Office) {artifact : Option (List UInt8)}
    (leaves : Leaves root base request.kind.artifact office.world.disk office.world.disk artifact none) :
    ∃ disk log, Leaves root base request.kind.artifact office.world.disk disk none none ∧
      ((∃ answer, (Errand.fetch request (some root)).conclude office =
          .ok answer { office with world := { office.world with disk, log } }) ∨
        ∃ failure, (Errand.fetch request (some root)).conclude office =
          .error failure { office with world := { office.world with disk, log } }) := by
  obtain ⟨disk, log, collected, cleared⟩ := collect_clears request office leaves
  unfold conclude
  dsimp only
  rw [bind_ran collected]
  cases artifact with
  | none => exact ⟨disk, log, cleared, .inl ⟨_, rfl⟩⟩
  | some content =>
      obtain ⟨log, ⟨_, failure, _, failed⟩ | ⟨_, answer, _, answered⟩⟩ :=
        shows_answer disk request content { office.world with disk, log } rfl
      · exact ⟨disk, log, cleared, .inr ⟨failure, act_failed failed⟩⟩
      · exact ⟨disk, log, cleared, .inl ⟨answer, act_ran answered⟩⟩

theorem cancel_clears (run : Run) (office : Office)
    (looksFor : run.sentinel = sentinelOf request.kind.artifact root)
    {artifact sentinel : Option (List UInt8)}
    (leaves : Leaves root base request.kind.artifact office.world.disk office.world.disk artifact sentinel) :
    ∃ after, (Errand.fetch request (some root)).cancel run office =
        .ok () { office with world := after } ∧
      Leaves root base request.kind.artifact office.world.disk after.disk none none ∧
      Keeps run.session.number office.world.machine after.machine ∧
      ∀ process, office.world.machine.heldBy run.session.number = some process →
        ¬ after.machine.Alive process := by
  have reserved := reserved_sentinel request.kind
  have leads := leaves.grounded.leads _ reserved
  rw [← sentinelOf_eq, ← looksFor] at leads
  obtain ⟨machine, log, aborted, keeps, ends⟩ := run.session.abort_ends office.world
  obtain ⟨disk, removed, becomes⟩ := Artifact.discard_clears { office.world with machine, log } run.sentinel
    _ leaves.grounded.sound leads (leaves.grounded.plain _ reserved)
  have marked : Leaves root base request.kind.artifact office.world.disk disk artifact none :=
    leaves.setSentinel becomes
  obtain ⟨last, later, discarded, cleared⟩ := discardResult_clears request
    { office.world with machine, log, disk } marked.grounded
  have stopped : Run.cancel run.session run.sentinel office.world =
      .ok () { office.world with machine, log, disk } := (bind_ran aborted _).trans removed
  refine ⟨_, act_ran ((bind_ran stopped _).trans discarded), marked.setArtifact cleared, keeps, ends⟩

end Fetch

section Proceed

variable {errand : Errand} {feature : String} (named : errand.feature = some feature)
  {first : Job (Option Run)} {work : Job Answer} {office later last : Office}

theorem finish_ran {answer : Answer} (ran : work office = .ok answer later) :
    (do return .ended (← Job.attempt (errand.contain work)) : Job Progress) office =
      .ok (.ended (.ok answer)) later :=
  bind_ran (Job.attempt_ran (contain_ran ran)) _

include named in
theorem finish_failed {failure : Failure} (failed : work office = .error failure later) :
    ∃ result log, (do return .ended (← Job.attempt (errand.contain work)) : Job Progress) office =
        .ok (.ended result) { later with world := { later.world with log } } ∧
      (failure.isContained = false → result = .error failure) := by
  cases contained : failure.isContained with
  | false =>
      exact ⟨.error failure, later.world.log,
        bind_ran (Job.attempt_failed (contain_escaped failed contained)) _, fun _ => rfl⟩
  | true =>
      obtain ⟨log, answered⟩ := contain_contained named failed contained
      exact ⟨_, log, bind_ran (Job.attempt_ran answered) _, fun escapes => nomatch escapes⟩

theorem proceed_asleep {run : Run} (slept : first office = .ok (some run) later) :
    errand.proceed first office = .ok (.asleep run) later := by
  unfold proceed
  rw [bind_ran (Job.attempt_ran slept)]
  rfl

include named in
theorem proceed_failed {failure : Failure} (failed : first office = .error failure later) :
    ∃ result log, errand.proceed first office =
        .ok (.ended result) { later with world := { later.world with log } } ∧
      (failure.isContained = false → result = .error failure) := by
  unfold proceed
  rw [bind_ran (Job.attempt_failed failed)]
  exact finish_failed named rfl

include named in
theorem proceed_found (found : first office = .ok none later)
    (concluded : (∃ answer, errand.conclude later = .ok answer last) ∨
      ∃ failure, errand.conclude later = .error failure last) :
    ∃ result log, errand.proceed first office =
      .ok (.ended result) { last with world := { last.world with log } } := by
  unfold proceed
  rw [bind_ran (Job.attempt_ran found)]
  rcases concluded with ⟨answer, ran⟩ | ⟨failure, failed⟩
  · exact ⟨.ok answer, last.world.log, finish_ran ran⟩
  · obtain ⟨result, log, ended, _⟩ := finish_failed named failed
    exact ⟨result, log, ended⟩

end Proceed

end Errand

end LogtalkNavigation
