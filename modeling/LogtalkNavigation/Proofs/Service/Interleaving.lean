import LogtalkNavigation.Proofs.Service.Steps

/-! Requests of one kind do not get each other's artifacts, however they are interleaved with each other, with
errands for new results and with the engine, unless one of them is ended by a number of sleeps or milliseconds
that cannot be computed: its goal is then left behind. The acts of the engine keep a scene orderly as well; so
every scene that is reached is orderly, and what requests get can be read off. -/

namespace LogtalkNavigation

open Engine Machine Errand

namespace Scene

variable {root : Path} {base : Location} {scene later : Scene}

structure Acts (root : Path) (base : Location) (scene later : Scene) : Prop where
  schedule : later.schedule = scene.inWorld later.world
  begun : later.begun = scene.begun
  fetched : later.fetched = scene.fetched
  grounded : Grounded root base later.world.disk
  keeps : ∀ session, Keeps session scene.world.machine later.world.machine
  sent : ∀ number sent, later.sent number = some sent → ∃ before, scene.sent number = some before ∧
    before.process = sent.process ∧ (sent.output.sentinel = none → before.output.sentinel = none) ∧
      (before = sent ∨ ∃ errand run, scene.Sleeps number errand run)
  finished : ∀ number sent, scene.sent number = some sent → sent.output.sentinel ≠ none →
    later.sent number = some sent
  waiting : ∀ number request run, scene.Sleeps number (.fetch request (some root)) run →
    ∃ sent, later.sent number = some sent ∧ later.Holds base request.kind.artifact sent.output
  cleared : ∀ query : Query, (∀ number asked run, scene.Sleeps number (.fetch asked (some root)) run →
    asked.kind.artifact ≠ query.artifact) → scene.Holds base query.artifact {} →
      later.Holds base query.artifact {}

theorem orderly_act (orderly : Orderly root base scene) (acts : Acts root base scene later) :
    Orderly root base later := by
  have tasks : later.schedule.tasks = scene.schedule.tasks := by rw [acts.schedule]; rfl
  have sessions : later.schedule.office.sessions = scene.schedule.office.sessions := by
    rw [acts.schedule]
    rfl
  have holder (turn : Turn) : later.schedule.holder? turn = scene.schedule.holder? turn := by
    rw [acts.schedule]
    rfl
  have sleeps (number : Nat) (errand : Errand) (run : Run) :
      later.Sleeps number errand run ↔ scene.Sleeps number errand run := by
    rw [Sleeps, tasks, Sleeps]
  have asks (number : Nat) (request : Request) :
      later.Asks root number request ↔ scene.Asks root number request := by
    rw [Asks, tasks, Asks]
  constructor
  case grounded => exact acts.grounded
  case rooted =>
    rw [sessions]
    exact orderly.rooted
  case errands =>
    rw [tasks]
    exact orderly.errands
  case turns =>
    intro number errand run asleep turn needs
    rw [holder]
    exact orderly.turns number errand run ((sleeps _ _ _).mp asleep) turn needs
  case asleep =>
    intro number errand run asleep
    rw [sessions]
    exact orderly.asleep number errand run ((sleeps _ _ _).mp asleep)
  case waiting =>
    intro number request run asleep
    exact acts.waiting number request run ((sleeps _ _ _).mp asleep)
  case known =>
    intro number sent found
    obtain ⟨before, known, same, _⟩ := acts.sent number sent found
    obtain ⟨running, request, asked⟩ := orderly.known number before known
    rw [← same]
    exact ⟨Nat.lt_of_lt_of_le running (acts.keeps 0).grows, request, (asks _ _).mpr asked⟩
  case owed =>
    intro number sent found unfinished alive
    obtain ⟨before, known, same, finishing, _⟩ := acts.sent number sent found
    have running := (orderly.known number before known).1
    rw [← same] at alive ⊢
    obtain ⟨errand, run, asleep, held⟩ := orderly.owed number before known (finishing unfinished)
      ((acts.keeps 0).alive _ running alive)
    exact ⟨errand, run, (sleeps _ _ _).mpr asleep, (acts.keeps _).held _ running alive held⟩
  case got =>
    intro number result found
    rw [acts.fetched] at found
    obtain ⟨done, sent, known, finished, same⟩ := orderly.got number result found
    rw [tasks]
    exact ⟨done, sent, acts.finished number sent known finished, finished, same⟩
  case gets =>
    intro number name errand ended sent done found finished
    rw [tasks] at done
    rw [acts.fetched]
    obtain ⟨before, known, _, _, rfl | ⟨asked, run, called, asleep⟩⟩ := acts.sent number sent found
    · exact orderly.gets number name errand ended before done known finished
    · cases asleep.symm.trans done
  case fresh =>
    intro number idle
    rw [acts.begun] at idle
    obtain ⟨unsent, unfetched⟩ := orderly.fresh number idle
    rw [acts.fetched]
    refine ⟨?_, unfetched⟩
    cases found : later.sent number with
    | none => rfl
    | some sent =>
        obtain ⟨before, known, _⟩ := acts.sent number sent found
        cases unsent.symm.trans known
  case started =>
    intro number begun
    rw [acts.begun] at begun
    rw [tasks]
    exact orderly.started number begun
  case slept =>
    intro number errand run asleep
    rw [acts.begun]
    exact orderly.slept number errand run ((sleeps _ _ _).mp asleep)
  case cleared =>
    intro number request asked begun idle
    rw [acts.begun] at begun
    have before (other : Nat) (asking : Request) (run : Run)
        (asleep : scene.Sleeps other (.fetch asking (some root)) run) :
        asking.kind.artifact ≠ request.kind.artifact :=
      idle other asking run ((sleeps _ _ _).mpr asleep)
    exact acts.cleared request.kind before
      (orderly.cleared number request ((asks _ _).mp asked) begun before)

-- What happens to processes and other files does not concern the goals.
theorem orderly_apart (orderly : Orderly root base scene) {world : World}
    (keeps : ∀ session, Keeps session scene.world.machine world.machine)
    (elsewhere : Elsewhere root base scene.world.disk world.disk) :
    Orderly root base { scene with schedule := scene.inWorld world } := by
  have touches := elsewhere.touches none
  have holds (query : Query) (output : Output) (before : scene.Holds base query.artifact output) :
      Holds base { scene with schedule := scene.inWorld world } query.artifact output :=
    ⟨(touches.result _ query.artifact_isOnce nofun).trans before.1,
      (touches.sentinel _ query.artifact_isOnce nofun).trans before.2⟩
  apply orderly_act orderly
  constructor
  case schedule => rfl
  case begun => rfl
  case fetched => rfl
  case grounded => exact elsewhere.grounded
  case keeps => exact keeps
  case sent => exact fun number sent found => ⟨sent, found, rfl, id, .inl rfl⟩
  case finished => exact fun number sent found _ => found
  case waiting =>
    intro number request run asleep
    obtain ⟨sent, found, before⟩ := orderly.waiting number request run asleep
    exact ⟨sent, found, holds _ _ before⟩
  case cleared => exact fun query _ before => holds query {} before

-- The engine writes for a goal that it has not finished. Its request sleeps, so it has the places of its kind
-- for itself.
theorem orderly_written (orderly : Orderly root base scene) {number : Nat} {request : Request} {sent : Sent}
    (asks : scene.Asks root number request) (known : scene.sent number = some sent)
    (alive : scene.world.machine.Alive sent.process) (unfinished : sent.output.sentinel = none)
    {p : Path} {content : List UInt8} {output : Output}
    (written : Leaves root base request.kind.artifact scene.world.disk scene.world.disk
        sent.output.artifact sent.output.sentinel →
      Leaves root base request.kind.artifact scene.world.disk (scene.world.disk.put p content)
        output.artifact output.sentinel) :
    Orderly root base (scene.writes number p content { sent with output }) := by
  obtain ⟨errand, run, ⟨name, asleep⟩, _⟩ := orderly.owed number sent known unfinished alive
  obtain ⟨called, stage, found⟩ := asks
  cases asleep.symm.trans found
  have sleeps : scene.Sleeps number (.fetch request (some root)) run := ⟨name, asleep⟩
  obtain ⟨_, also, before⟩ := orderly.leaves_of_sleeps sleeps
  cases known.symm.trans also
  have leaves := written before
  have touches := leaves.touches
  apply orderly_act orderly
  constructor
  case schedule => rfl
  case begun => rfl
  case fetched => rfl
  case grounded => exact leaves.grounded
  case keeps => exact fun session => Keeps.refl session _
  case sent =>
    intro other goal goes
    by_cases here : other = number
    · subst here
      cases (Function.update_self other ..).symm.trans goes
      exact ⟨sent, known, rfl, fun _ => unfinished, .inr ⟨_, run, sleeps⟩⟩
    · exact ⟨goal, (Function.update_of_ne here ..).symm.trans goes, rfl, id, .inl rfl⟩
  case finished =>
    intro other goal went finished
    have here : other ≠ number := by
      rintro rfl
      cases known.symm.trans went
      exact finished unfinished
    exact (Function.update_of_ne here ..).trans went
  case waiting =>
    intro other asked next sleeping
    by_cases here : other = number
    · subst here
      cases (same_of_sleeps sleeps sleeping).1
      exact ⟨_, Function.update_self .., leaves.artifact, leaves.sentinel⟩
    · obtain ⟨goal, found, held⟩ := orderly.waiting other asked next sleeping
      -- Two sleepers of one kind would both have the turn.
      have differ : some asked.kind.artifact ≠ some request.kind.artifact := by
        intro same
        have mine := orderly.turns number _ run sleeps (root, request.kind.artifact) rfl
        have theirs := orderly.turns other _ next sleeping (root, asked.kind.artifact) rfl
        rw [Option.some.inj same, mine] at theirs
        exact here (Option.some.inj theirs).symm
      exact ⟨goal, (Function.update_of_ne here ..).trans found,
        (touches.result _ asked.kind.artifact_isOnce differ).trans held.1,
        (touches.sentinel _ asked.kind.artifact_isOnce differ).trans held.2⟩
  case cleared =>
    intro query idle held
    have differ : some query.artifact ≠ some request.kind.artifact :=
      fun same => idle number request run sleeps (Option.some.inj same).symm
    exact ⟨(touches.result _ query.artifact_isOnce differ).trans held.1,
      (touches.sentinel _ query.artifact_isOnce differ).trans held.2⟩

theorem orderly_move (orderly : Orderly root base scene) (next : Move root base scene later)
    (finite : later.NoOverflow root) : Orderly root base later := by
  cases next with
  | arrive name errand belongs => exact orderly_arrive orderly name belongs
  | begin number name errand output waits first honest =>
      exact orderly_begin orderly waits first honest finite
  | resume number name errand run sleeps => exact orderly_resume orderly sleeps finite
  | cancel number => exact orderly_cancel orderly number
  | hold held => exact orderly_hold orderly held
  | write number request sent content asks known alive unfinished =>
      refine @orderly_written _ _ _ orderly _ _ _ asks known alive unfinished _ _
        { sent.output with artifact := some content } fun leaves => leaves.setArtifact ?_
      rw [artifactOf_eq]
      exact put_becomes orderly.grounded (reserved_result request.kind) content
  | finish number request sent content asks known alive unfinished =>
      refine @orderly_written _ _ _ orderly _ _ _ asks known alive unfinished _ _
        { sent.output with sentinel := some content } fun leaves => leaves.setSentinel ?_
      rw [sentinelOf_eq]
      exact put_becomes orderly.grounded (reserved_sentinel request.kind) content
  | exit process code =>
      exact orderly_apart orderly (fun session => keeps_setExit session process _ code)
        (.refl orderly.grounded)
  | change machine processes held =>
      exact orderly_apart orderly (fun _ => keeps_of_same processes held) (.refl orderly.grounded)
  | elsewhere disk apart => exact orderly_apart orderly (fun session => Keeps.refl session _) apart

-- A task that has ended or was cancelled is never run again.
theorem task_move {number : Nat} {task : Task} (found : scene.schedule.tasks[number]? = some task)
    (moved : task.stage ≠ .queued) (awake : ¬ task.stage.IsAsleep) (next : Move root base scene later) :
    later.schedule.tasks[number]? = some task := by
  cases next with
  | arrive => exact (List.getElem?_append_left (List.getElem?_eq_some_iff.mp found).1).trans found
  | begin other name errand output waits =>
      refine (Schedule.runTask_away _ ?_).trans found
      rintro rfl
      cases found.symm.trans waits
      exact moved rfl
  | resume other name errand run sleeps =>
      refine (Schedule.runTask_away _ ?_).trans found
      rintro rfl
      cases found.symm.trans sleeps
      exact awake trivial
  | cancel other =>
      by_cases here : number = other
      · subst here
        have idle : ∀ name errand, scene.schedule.tasks[number]? ≠ some ⟨name, errand, .queued⟩ := by
          intro name errand waits
          cases found.symm.trans waits
          exact moved rfl
        have up : ∀ name errand run,
            scene.schedule.tasks[number]? ≠ some ⟨name, some errand, .asleep run⟩ := by
          intro name errand run sleeps
          cases found.symm.trans sleeps
          exact awake trivial
        rw [Schedule.dismiss_other idle up]
        exact found
      · exact (Schedule.dismiss_away _ here).trans found
  | write | finish =>
      rw [writes_tasks]
      exact found
  | hold | exit | change | elsewhere => exact found

-- What requests ended with stays, so no earlier scene has an overflow if the last one has none.
theorem noOverflow_of_move (next : Move root base scene later) (finite : later.NoOverflow root) :
    scene.NoOverflow root := by
  intro number name request failure ended
  exact finite number name request failure (task_move ended nofun id next)

theorem orderly_reached {start : Scene} (begins : start.Begins root base)
    (reached : Reached root base start scene) (finite : scene.NoOverflow root) :
    Orderly root base scene := by
  induction reached with
  | start => exact begins.orderly
  | move _ next ih => exact orderly_move (ih (noOverflow_of_move next finite)) next finite

-- The task was cancelled before it had its turn.
def Withdrawn (scene : Scene) (number : Nat) : Prop :=
  (∃ name errand, scene.schedule.tasks[number]? = some ⟨name, errand, .cancelled⟩) ∧
    scene.sent number = none ∧ scene.fetched number = none

theorem withdrawn_move {number : Nat} (withdrawn : scene.Withdrawn number)
    (next : Move root base scene later) : later.Withdrawn number := by
  obtain ⟨⟨name, errand, found⟩, unsent, unfetched⟩ := withdrawn
  refine ⟨⟨name, errand, task_move found nofun id next⟩, ?_⟩
  cases next with
  | begin other called asked output waits =>
      have apart : number ≠ other := by
        rintro rfl
        cases found.symm.trans waits
      exact ⟨(Function.update_of_ne apart ..).trans unsent, (Function.update_of_ne apart ..).trans unfetched⟩
  | resume other called asked run sleeps =>
      have apart : number ≠ other := by
        rintro rfl
        cases found.symm.trans sleeps
      exact ⟨unsent, (Function.update_of_ne apart ..).trans unfetched⟩
  | write other request sent content asks known | finish other request sent content asks known =>
      have apart : number ≠ other := by
        rintro rfl
        cases unsent.symm.trans known
      exact ⟨(Function.update_of_ne apart ..).trans unsent, unfetched⟩
  | arrive | cancel | hold | exit | change | elsewhere => exact ⟨unsent, unfetched⟩

theorem withdrawn_reached {number : Nat} {start : Scene} (withdrawn : start.Withdrawn number)
    (reached : Reached root base start scene) : scene.Withdrawn number := by
  induction reached with
  | start => exact withdrawn
  | move _ next ih => exact withdrawn_move ih next

-- A task that waits has not begun, so there is nothing of it but its place in the queue.
theorem Orderly.withdrawn_of_dismiss (orderly : Orderly root base scene) {number : Nat} {name : String}
    {errand : Option Errand} (waits : scene.schedule.tasks[number]? = some ⟨name, errand, .queued⟩) :
    Withdrawn { scene with schedule := (scene.schedule.dismiss number).1 } number := by
  have idle : scene.begun number = false := by
    cases begun : scene.begun number with
    | false => rfl
    | true =>
        obtain ⟨task, found, moved⟩ := orderly.started number begun
        cases waits.symm.trans found
        exact absurd rfl moved
  exact ⟨⟨name, errand, Schedule.task_here (Schedule.dismiss_queued waits) waits⟩, orderly.fresh number idle⟩

/-- Nobody has the turn, or somebody who has not begun. -/
def Free (root : Path) (scene : Scene) (kind : Artifact.Kind) : Prop :=
  ∀ number, scene.schedule.holder? (root, kind) = some number →
    ∃ name errand, scene.schedule.tasks[number]? = some ⟨name, errand, .queued⟩

theorem Orderly.awake_of_free (orderly : Orderly root base scene) {kind : Artifact.Kind}
    (free : scene.Free root kind) {number : Nat} {request : Request} {run : Run}
    (sleeps : scene.Sleeps number (.fetch request (some root)) run) : request.kind.artifact ≠ kind := by
  rintro rfl
  obtain ⟨name, errand, waits⟩ :=
    free number (orderly.turns number _ run sleeps (root, request.kind.artifact) rfl)
  obtain ⟨called, asleep⟩ := sleeps
  cases waits.symm.trans asleep

-- A goal of the kind that is not finished has lost its process.
theorem Orderly.settled_of_free (orderly : Orderly root base scene) {kind : Artifact.Kind}
    (free : scene.Free root kind) {number : Nat} {request : Request} {sent : Sent}
    (asks : scene.Asks root number request) (alike : request.kind.artifact = kind)
    (known : scene.sent number = some sent) (alive : scene.world.machine.Alive sent.process) :
    sent.output.sentinel ≠ none := by
  intro unfinished
  obtain ⟨errand, run, ⟨name, asleep⟩, _⟩ := orderly.owed number sent known unfinished alive
  obtain ⟨called, stage, found⟩ := asks
  cases asleep.symm.trans found
  exact orderly.awake_of_free free ⟨name, asleep⟩ alike

-- An engine that can act may write an artifact for a goal and finish it.
theorem reached_finished {start : Scene} {number process : Nat} {request : Request}
    (reached : Reached root base start scene) (asks : scene.Asks root number request)
    (known : scene.sent number = some ⟨process, {}⟩) (alive : scene.world.machine.Alive process)
    (artifact : List UInt8) :
    Reached root base start ((scene.writes number (artifactOf request root) artifact
      ⟨process, { artifact := some artifact }⟩).writes number (sentinelOf request.kind.artifact root) []
        ⟨process, { artifact := some artifact, sentinel := some [] }⟩) := by
  have written := Reached.move reached (.write scene number request ⟨process, {}⟩ artifact asks known alive rfl)
  refine .move written (.finish _ number request ⟨process, { artifact := some artifact }⟩ [] ?_
    (Function.update_self ..) ?_ rfl)
  · obtain ⟨name, stage, found⟩ := asks
    exact ⟨name, stage, by rw [writes_tasks]; exact found⟩
  · rw [writes_machine]
    exact alive

-- Two requests of a kind arrive in a workspace where an earlier run has left an artifact and its sentinel. The
-- first sleeps until the engine has finished its goal, and the second still waits.
namespace Leftover

def workspace : Path := ⟨.root, []⟩

def request : Request := ⟨.incomingCalls, workspace, 0, 0, ['p']⟩

def errand : Errand := .fetch request (some workspace)

def engine : EngineSettings := { timeout := ⟨2, Nat.two_pos⟩, pollInterval := ⟨1, Nat.one_pos⟩ }

def disk : Disk :=
  ⟨[([Artifact.Kind.callers.resultName], .file [0]), ([Artifact.Kind.callers.sentinelName], .file [])],
    [], {}⟩

def opening : Scene where
  schedule := { held := true, office := { world := ⟨disk, ⟨.off, []⟩, {}⟩, settings := { engine } } }
  begun _ := false
  sent _ := none
  fetched _ := none

def waiting : Scene :=
  { opening with schedule := (opening.schedule.enlist "first" errand).enlist "second" errand }

def sleeping : Scene := waiting.begin 0 errand {}

def finished : Scene :=
  (sleeping.writes 0 (artifactOf request workspace) [1] ⟨0, ⟨some [1], none⟩⟩).writes 0
    (sentinelOf .callers workspace) [] ⟨0, ⟨some [1], some []⟩⟩

def run : Run := ⟨⟨0, workspace, engine⟩, sentinelOf .callers workspace, 0, 2, []⟩

def served : Scene := finished.resume 0 errand run

theorem opening_begins : opening.Begins workspace [] where
  grounded := by
    constructor
    · rfl
    · rintro name ⟨kind, once, rfl | rfl⟩
      · cases kind <;> exact ⟨by decide +kernel, by decide +kernel⟩
      · cases kind <;> exact ⟨by decide +kernel, by decide +kernel⟩
    · rintro name ⟨kind, once, rfl | rfl⟩
      · cases kind <;> decide +kernel
      · cases kind <;> decide +kernel
    · intro name _ rest more
      cases rest with
      | nil => exact absurd rfl more
      | cons first rest => simp [opening, world, disk, Disk.node?, List.lookup_cons]
  rooted := by rintro session ⟨⟩
  noTasks := rfl
  notBegun _ := rfl
  notSent _ := rfl
  notFetched _ := rfl

theorem enlisted_reached (scene : Scene) : Reached workspace [] scene
    { scene with schedule := (scene.schedule.enlist "first" errand).enlist "second" errand } :=
  .move (.move .start (.arrive _ "first" errand (.fetch request)))
    (.arrive _ "second" errand (.fetch request))

theorem sleeping_reached : Reached workspace [] opening sleeping := by
  refine .move (enlisted_reached opening) (.begin waiting 0 "first" errand {} rfl ?_ ?_)
  · rintro _ ⟨⟩
    rfl
  · exact ⟨(fun _ ruled => nomatch ruled), rfl⟩

theorem finished_reached : Reached workspace [] opening finished := by
  let goal := Goal.ofRequest request workspace ++ ['\n']
  refine reached_finished sleeping_reached ⟨"first", .asleep run, ?_⟩ ?_ ⟨⟨true, none, [goal]⟩, ?_, rfl, rfl⟩ [1]
  · decide +kernel
  · decide +kernel
  · decide +kernel

theorem served_reached : Reached workspace [] opening served := by
  refine .move finished_reached (.resume finished 0 "first" errand run ?_)
  decide +kernel

theorem served_tasks : served.schedule.tasks =
    [⟨"first", some errand, .done (.ok (.incoming []))⟩, ⟨"second", some errand, .queued⟩] := by
  decide +kernel

theorem served_done : served.schedule.tasks[0]? =
    some ⟨"first", some errand, .done (.ok (.incoming []))⟩ := by
  rw [served_tasks]
  rfl

theorem served_finite : served.NoOverflow workspace := by
  intro number name asked failure ended
  have member := List.mem_of_getElem? ended
  rw [served_tasks] at member
  simp at member

end Leftover

/-- As long as no request of the workspace has ended in an overflow: in every scene that is reached, a request
has got something if and only if it is done and its goal is finished, and then it is what the engine wrote for
that goal. A request that is cancelled while it waits for its turn never sends a goal, whatever happens later.
When the turn of a kind is free, no process can act on a goal of the kind that is not finished, and what earlier
runs left at its places is gone once a request of the kind has begun. -/
theorem requests_kept_apart {start : Scene} (begins : start.Begins root base)
    (reached : Reached root base start scene) (finite : scene.NoOverflow root) :
    (∀ (number : Nat) result, scene.fetched number = some result ↔
      ∃ name errand ended sent, scene.schedule.tasks[number]? = some ⟨name, errand, .done ended⟩ ∧
        scene.sent number = some sent ∧ sent.output.sentinel ≠ none ∧ result = .ok sent.output.artifact) ∧
    (∀ (number : Nat) name errand, scene.schedule.tasks[number]? = some ⟨name, errand, .queued⟩ →
      scene.sent number = none ∧ (scene.schedule.dismiss number).1.office = scene.schedule.office ∧
        ∀ last, Reached root base { scene with schedule := (scene.schedule.dismiss number).1 } last →
          last.sent number = none ∧ last.fetched number = none) ∧
    ∀ kind, scene.Free root kind → ∀ number request, scene.Asks root number request →
      request.kind.artifact = kind →
        (∀ sent, scene.sent number = some sent → scene.world.machine.Alive sent.process →
          sent.output.sentinel ≠ none) ∧
        (scene.begun number = true → scene.Holds base kind {}) := by
  have orderly := orderly_reached begins reached finite
  refine ⟨?_, ?_, ?_⟩
  · intro number result
    constructor
    · intro found
      obtain ⟨⟨name, errand, ended, done⟩, sent, rest⟩ := orderly.got number result found
      exact ⟨name, errand, ended, sent, done, rest⟩
    · rintro ⟨name, errand, ended, sent, done, known, finished, rfl⟩
      exact orderly.gets number name errand ended sent done known finished
  · intro number name errand waits
    have withdrawn := orderly.withdrawn_of_dismiss waits
    refine ⟨withdrawn.2.1, (Schedule.dismiss_queued waits).office, fun last after => ?_⟩
    exact (withdrawn_reached withdrawn after).2
  · rintro kind free number request asks rfl
    refine ⟨fun sent known alive => orderly.settled_of_free free asks rfl known alive, fun begun => ?_⟩
    exact orderly.cleared number request asks begun fun _ _ _ sleeps => orderly.awake_of_free free sleeps

theorem own_artifact_beside_leftover :
    Leftover.opening.Begins Leftover.workspace [] ∧
      Reached Leftover.workspace [] Leftover.opening Leftover.served ∧
      Leftover.served.NoOverflow Leftover.workspace ∧
      Leftover.served.fetched 0 = some (.ok (some [1])) ∧ Leftover.served.sent 1 = none ∧
      Leftover.served.Holds [] .callers {} := by
  obtain ⟨got, waits, free⟩ :=
    requests_kept_apart Leftover.opening_begins Leftover.served_reached Leftover.served_finite
  refine ⟨Leftover.opening_begins, Leftover.served_reached, Leftover.served_finite, (got 0 _).mpr ?_, ?_, ?_⟩
  · refine ⟨_, _, _, ⟨0, ⟨some [1], some []⟩⟩, Leftover.served_done, ?_, nofun, rfl⟩
    decide +kernel
  · refine (waits 1 "second" (some Leftover.errand) ?_).1
    decide +kernel
  · have turn : Leftover.served.schedule.holder? (Leftover.workspace, .callers) = some 1 := by decide +kernel
    refine (free .callers ?_ 0 Leftover.request ⟨"first", _, Leftover.served_done⟩ rfl).2 ?_
    · intro number holds
      cases turn.symm.trans holds
      refine ⟨"second", some Leftover.errand, ?_⟩
      decide +kernel
    · decide +kernel

-- The same two requests, with sleeps that no double is near to the length of.
namespace Unsleepable

open Leftover

def engine : EngineSettings := { pollInterval := ⟨Double.tenTo 400, by decide +kernel⟩ }

def opening : Scene :=
  { Leftover.opening with
    schedule := { held := true, office := { world := ⟨disk, ⟨.off, []⟩, {}⟩, settings := { engine } } } }

def waiting : Scene :=
  { opening with schedule := (opening.schedule.enlist "first" errand).enlist "second" errand }

def failed : Scene := waiting.begin 0 errand {}

theorem opening_begins : opening.Begins workspace [] where
  grounded := Leftover.opening_begins.grounded
  rooted := by rintro session ⟨⟩
  noTasks := rfl
  notBegun _ := rfl
  notSent _ := rfl
  notFetched _ := rfl

theorem failed_reached : Reached workspace [] opening failed := by
  refine .move (enlisted_reached opening) (.begin waiting 0 "first" errand {} rfl ?_ ?_)
  · rintro _ ⟨⟩
    rfl
  · exact ⟨(fun _ ruled => nomatch ruled), rfl⟩

theorem failed_tasks : failed.schedule.tasks =
    [⟨"first", some errand, .done (.error .overflow)⟩, ⟨"second", some errand, .queued⟩] := by
  decide +kernel

end Unsleepable

/-- The first request cannot sleep and ends in an overflow. The turn of its kind is free, and the process that
the session holds can still act on its goal, which is not finished. -/
theorem overflow_leaves_goal_behind :
    Unsleepable.opening.Begins Leftover.workspace [] ∧
      Reached Leftover.workspace [] Unsleepable.opening Unsleepable.failed ∧
      Unsleepable.failed.schedule.tasks[0]? =
        some ⟨"first", some Leftover.errand, .done (.error .overflow)⟩ ∧
      Unsleepable.failed.Free Leftover.workspace .callers ∧
      Unsleepable.failed.sent 0 = some ⟨0, {}⟩ ∧ Unsleepable.failed.world.machine.Alive 0 ∧
      Unsleepable.failed.world.machine.heldBy 0 = some 0 := by
  have turn : Unsleepable.failed.schedule.holder? (Leftover.workspace, .callers) = some 1 := by decide +kernel
  let goal := Goal.ofRequest Leftover.request Leftover.workspace ++ ['\n']
  refine ⟨Unsleepable.opening_begins, Unsleepable.failed_reached, ?_, ?_, ?_,
    ⟨⟨true, none, [goal]⟩, ?_, rfl, rfl⟩, ?_⟩
  · rw [Unsleepable.failed_tasks]
    rfl
  · intro number holds
    cases turn.symm.trans holds
    refine ⟨"second", some Leftover.errand, ?_⟩
    rw [Unsleepable.failed_tasks]
    rfl
  · decide +kernel
  · decide +kernel
  · decide +kernel

end Scene

end LogtalkNavigation
