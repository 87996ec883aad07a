import LogtalkNavigation.Proofs.Service.Scene

/-! The invariant of scenes. A scene is orderly if a task that sleeps has its turn, if what is at the places
of a kind was written for the goal of the task that sleeps there, and if a goal that the engine may still work
on belongs to a task that sleeps. A step of a task that meets a few requirements keeps a scene orderly, and so
do the moves of the queue. -/

namespace LogtalkNavigation

open Engine Machine Act

namespace Errand

-- The kind whose places an errand uses.
def own : Errand → Option Artifact.Kind
  | .fetch request _ => some request.kind.artifact
  | _ => none

-- The sentinel that an errand looks for.
def awaits : Errand → Path
  | .direct _ _ sentinel => sentinel
  | .fetch request root => sentinelOf request.kind.artifact (root.getD Path.here)
  | .refresh report directory _ _ => sentinelOf report.artifact directory

end Errand

namespace Scene

variable {root : Path} {base : Location}

def Sleeps (scene : Scene) (number : Nat) (errand : Errand) (run : Run) : Prop :=
  ∃ name, scene.schedule.tasks[number]? = some ⟨name, some errand, .asleep run⟩

-- What is at the places of a kind.
def Holds (base : Location) (scene : Scene) (kind : Artifact.Kind) (output : Output) : Prop :=
  scene.world.disk.node? (base ++ [kind.resultName]) = output.artifact.map .file ∧
    scene.world.disk.node? (base ++ [kind.sentinelName]) = output.sentinel.map .file

structure Orderly (root : Path) (base : Location) (scene : Scene) : Prop where
  grounded : Grounded root base scene.world.disk
  rooted : ∀ session, scene.schedule.office.sessions.lookup root = some session → session.root = root
  errands : ∀ (number : Nat) (task : Task), scene.schedule.tasks[number]? = some task →
    ∃ errand, task.errand = some errand ∧ errand.Belongs root
  turns : ∀ number errand run, scene.Sleeps number errand run →
    ∀ turn, errand.turn = some turn → scene.schedule.holder? turn = some number
  asleep : ∀ number errand run, scene.Sleeps number errand run →
    scene.schedule.office.sessions.lookup root = some run.session ∧ run.sentinel = errand.awaits ∧
      run.pending = []
  waiting : ∀ number request run, scene.Sleeps number (.fetch request (some root)) run →
    ∃ sent, scene.sent number = some sent ∧ scene.Holds base request.kind.artifact sent.output
  known : ∀ number sent, scene.sent number = some sent →
    sent.process < scene.world.machine.processes.length ∧ ∃ request, scene.Asks root number request
  owed : ∀ number sent, scene.sent number = some sent → sent.output.sentinel = none →
    scene.world.machine.Alive sent.process → ∃ errand run, scene.Sleeps number errand run ∧
      scene.world.machine.heldBy run.session.number = some sent.process
  got : ∀ number result, scene.fetched number = some result →
    (∃ name errand ended, scene.schedule.tasks[number]? = some ⟨name, errand, .done ended⟩) ∧
      ∃ sent, scene.sent number = some sent ∧ sent.output.sentinel ≠ none ∧
        result = .ok sent.output.artifact
  gets : ∀ (number : Nat) name errand ended sent,
    scene.schedule.tasks[number]? = some ⟨name, errand, .done ended⟩ → scene.sent number = some sent →
      sent.output.sentinel ≠ none → scene.fetched number = some (.ok sent.output.artifact)
  fresh : ∀ number, scene.begun number = false → scene.sent number = none ∧ scene.fetched number = none
  started : ∀ number, scene.begun number = true →
    ∃ task, scene.schedule.tasks[number]? = some task ∧ task.stage ≠ .queued
  slept : ∀ number errand run, scene.Sleeps number errand run → scene.begun number = true
  cleared : ∀ number request, scene.Asks root number request → scene.begun number = true →
    (∀ other asked run, scene.Sleeps other (.fetch asked (some root)) run →
      asked.kind.artifact ≠ request.kind.artifact) → scene.Holds base request.kind.artifact {}

theorem Begins.orderly {scene : Scene} (begins : scene.Begins root base) : Orderly root base scene where
  grounded := begins.grounded
  rooted := begins.rooted
  errands number task found := by simp [begins.noTasks] at found
  turns := by
    rintro number errand run ⟨name, found⟩
    simp [begins.noTasks] at found
  asleep := by
    rintro number errand run ⟨name, found⟩
    simp [begins.noTasks] at found
  waiting := by
    rintro number request run ⟨name, found⟩
    simp [begins.noTasks] at found
  known number sent found := by simp [begins.notSent] at found
  owed number sent found := by simp [begins.notSent] at found
  got number result found := by simp [begins.notFetched] at found
  gets number name errand ended sent found := by simp [begins.noTasks] at found
  fresh number _ := ⟨begins.notSent number, begins.notFetched number⟩
  started number started := by simp [begins.notBegun] at started
  slept := by
    rintro number errand run ⟨name, found⟩
    simp [begins.noTasks] at found
  cleared number request asks started := by simp [begins.notBegun] at started

structure Advances (root : Path) (base : Location) (scene later : Scene) (number : Nat) (errand : Errand)
    (stage : Stage) (session : Session) : Prop where
  task : ∃ name old, scene.schedule.tasks[number]? = some ⟨name, some errand, old⟩
  first : ∀ turn, errand.turn = some turn → scene.schedule.holder? turn = some number
  stepped : scene.schedule.Stepped later.schedule number stage later.schedule.office
  moved : stage ≠ .queued
  shared : scene.schedule.office.sessionOf root = session
  seated : later.schedule.office.sessions.lookup root = some session
  keeps : Keeps session.number scene.world.machine later.world.machine
  touches : Touches root base errand.own scene.world.disk later.world.disk
  begun : later.begun number = true ∧ ∀ other, other ≠ number → later.begun other = scene.begun other
  sent : ∀ other, other ≠ number → later.sent other = scene.sent other
  fetched : ∀ other, other ≠ number → later.fetched other = scene.fetched other
  asleep : ∀ run, stage = .asleep run →
    run.session = session ∧ run.sentinel = errand.awaits ∧ run.pending = []
  waiting : ∀ request, errand = .fetch request (some root) → stage.IsAsleep →
    ∃ sent, later.sent number = some sent ∧ later.Holds base request.kind.artifact sent.output
  left : ∀ request, errand = .fetch request (some root) → ¬ stage.IsAsleep →
    later.Holds base request.kind.artifact {}
  known : ∀ sent, later.sent number = some sent →
    sent.process < later.world.machine.processes.length ∧ ∃ request, errand = .fetch request (some root)
  owed : ∀ sent, later.sent number = some sent → sent.output.sentinel = none →
    later.world.machine.Alive sent.process →
      stage.IsAsleep ∧ later.world.machine.heldBy session.number = some sent.process
  got : ∀ result, later.fetched number = some result → (∃ ended, stage = .done ended) ∧
    ∃ sent, later.sent number = some sent ∧ sent.output.sentinel ≠ none ∧ result = .ok sent.output.artifact
  gets : ∀ ended sent, stage = .done ended → later.sent number = some sent → sent.output.sentinel ≠ none →
    later.fetched number = some (.ok sent.output.artifact)

section Step

variable {scene later : Scene} {number : Nat} {errand : Errand} {stage : Stage} {session : Session}

theorem sleeps_away (advances : Advances root base scene later number errand stage session) {other : Nat}
    (apart : other ≠ number) (errand : Errand) (run : Run) :
    later.Sleeps other errand run ↔ scene.Sleeps other errand run := by
  unfold Sleeps
  rw [Schedule.task_away advances.stepped apart]

theorem sleeps_here (advances : Advances root base scene later number errand stage session)
    {asked : Errand} {run : Run} (sleeps : later.Sleeps number asked run) :
    asked = errand ∧ stage = .asleep run := by
  obtain ⟨name, old, known⟩ := advances.task
  obtain ⟨called, found⟩ := sleeps
  rw [Schedule.task_here advances.stepped known] at found
  cases found
  exact ⟨rfl, rfl⟩

theorem session_of_lookup {office : Office} {session : Session}
    (found : office.sessions.lookup root = some session) : office.sessionOf root = session := by
  rw [Office.sessionOf, found, Option.getD_some]

theorem holds_away (advances : Advances root base scene later number errand stage session)
    {kind : Artifact.Kind} (once : kind.isOnce = true) (apart : some kind ≠ errand.own) (output : Output) :
    later.Holds base kind output ↔ scene.Holds base kind output := by
  unfold Holds
  rw [advances.touches.result kind once apart, advances.touches.sentinel kind once apart]

-- Of a kind only one task has its turn, so a step of another task does not touch its places.
theorem apart_of_sleeps (orderly : Orderly root base scene)
    (advances : Advances root base scene later number errand stage session) {other : Nat}
    (apart : other ≠ number) {request : Request} {run : Run}
    (sleeps : scene.Sleeps other (.fetch request (some root)) run) :
    some request.kind.artifact ≠ errand.own := by
  intro same
  obtain ⟨name, old, known⟩ := advances.task
  obtain ⟨_, itself, belongs⟩ := orderly.errands number _ known
  cases itself
  cases belongs with
  | refresh report directory recursive => cases same
  | fetch asked =>
      have holds := orderly.turns other _ run sleeps (root, request.kind.artifact) rfl
      have first := advances.first (root, asked.kind.artifact) rfl
      have alike : request.kind.artifact = asked.kind.artifact := Option.some.inj same
      rw [alike, first] at holds
      exact apart (Option.some.inj holds).symm

theorem Orderly.sessionOf_root (orderly : Orderly root base scene) :
    (scene.schedule.office.sessionOf root).root = root := by
  unfold Office.sessionOf
  cases found : scene.schedule.office.sessions.lookup root with
  | none => rfl
  | some session => exact orderly.rooted session found

-- The places of a kind that nobody sleeps on are empty after a step as well.
theorem cleared_advance (orderly : Orderly root base scene)
    (advances : Advances root base scene later number errand stage session) {other : Nat}
    {request : Request} (asks : later.Asks root other request) (begun : later.begun other = true)
    (idle : ∀ other asked run, later.Sleeps other (.fetch asked (some root)) run →
      asked.kind.artifact ≠ request.kind.artifact) : later.Holds base request.kind.artifact {} := by
  obtain ⟨name, old, known⟩ := advances.task
  by_cases mine : some request.kind.artifact = errand.own
  · obtain ⟨_, itself, belongs⟩ := orderly.errands number _ known
    cases itself
    cases belongs with
    | refresh report directory recursive => cases mine
    | fetch asked =>
        have alike : request.kind.artifact = asked.kind.artifact := Option.some.inj mine
        rw [alike] at idle ⊢
        apply advances.left asked rfl
        intro asleep
        cases stage with
        | asleep run =>
            exact idle number asked run ⟨name, Schedule.task_here advances.stepped known⟩ rfl
        | queued | done _ | cancelled => cases asleep
  · have apart : other ≠ number := by
      rintro rfl
      obtain ⟨called, now, found⟩ := asks
      rw [Schedule.task_here advances.stepped known] at found
      cases found
      exact mine rfl
    rw [holds_away advances request.kind.artifact_isOnce mine]
    refine orderly.cleared other request ?_ ?_ ?_
    · obtain ⟨called, now, found⟩ := asks
      rw [Schedule.task_away advances.stepped apart] at found
      exact ⟨called, now, found⟩
    · rw [advances.begun.2 other apart] at begun
      exact begun
    · intro sleeper asked run sleeps
      by_cases here : sleeper = number
      · subst here
        obtain ⟨called, found⟩ := sleeps
        rw [known] at found
        cases found
        exact fun same => mine (congrArg some same.symm)
      · exact idle sleeper asked run ((sleeps_away advances here _ run).mpr sleeps)

theorem orderly_advance (orderly : Orderly root base scene)
    (advances : Advances root base scene later number errand stage session) :
    Orderly root base later where
  grounded := advances.touches.grounded
  rooted := by
    intro other found
    rw [advances.seated] at found
    cases found
    rw [← advances.shared]
    exact orderly.sessionOf_root
  errands := by
    intro other task found
    obtain ⟨name, old, known⟩ := advances.task
    by_cases here : other = number
    · subst here
      rw [Schedule.task_here advances.stepped known] at found
      cases found
      obtain ⟨mine, same, belongs⟩ := orderly.errands other _ known
      exact ⟨mine, same, belongs⟩
    · rw [Schedule.task_away advances.stepped here] at found
      exact orderly.errands other task found
  turns := by
    intro other asked run sleeps turn needs
    by_cases here : other = number
    · subst here
      obtain ⟨rfl, rfl⟩ := sleeps_here advances sleeps
      exact advances.stepped.holder turn other (advances.first turn needs) (.inr trivial)
    · have before := (sleeps_away advances here asked run).mp sleeps
      exact advances.stepped.holder turn other (orderly.turns other asked run before turn needs) (.inl here)
  asleep := by
    intro other asked run sleeps
    by_cases here : other = number
    · subst here
      obtain ⟨rfl, rfl⟩ := sleeps_here advances sleeps
      obtain ⟨rfl, rest⟩ := advances.asleep run rfl
      exact ⟨advances.seated, rest⟩
    · have before := (sleeps_away advances here asked run).mp sleeps
      obtain ⟨found, rest⟩ := orderly.asleep other asked run before
      have same := (session_of_lookup found).symm.trans advances.shared
      rw [same]
      exact ⟨advances.seated, rest⟩
  waiting := by
    intro other request run sleeps
    by_cases here : other = number
    · subst here
      obtain ⟨rfl, rfl⟩ := sleeps_here advances sleeps
      exact advances.waiting request rfl trivial
    · have before := (sleeps_away advances here _ run).mp sleeps
      obtain ⟨sent, known, holds⟩ := orderly.waiting other request run before
      refine ⟨sent, (advances.sent other here).trans known, ?_⟩
      exact (holds_away advances request.kind.artifact_isOnce
        (apart_of_sleeps orderly advances here before) sent.output).mpr holds
  known := by
    intro other sent found
    by_cases here : other = number
    · subst here
      obtain ⟨name, old, task⟩ := advances.task
      obtain ⟨running, request, itself⟩ := advances.known sent found
      rw [itself] at task
      exact ⟨running, request, name, stage, Schedule.task_here advances.stepped task⟩
    · rw [advances.sent other here] at found
      obtain ⟨running, request, name, old, asks⟩ := orderly.known other sent found
      refine ⟨Nat.lt_of_lt_of_le running advances.keeps.grows, request, name, old, ?_⟩
      rw [Schedule.task_away advances.stepped here]
      exact asks
  owed := by
    intro other sent found unfinished alive
    by_cases here : other = number
    · subst here
      obtain ⟨name, old, known⟩ := advances.task
      obtain ⟨asleep, held⟩ := advances.owed sent found unfinished alive
      cases stage with
      | asleep run =>
          refine ⟨errand, run, ⟨name, Schedule.task_here advances.stepped known⟩, ?_⟩
          rw [(advances.asleep run rfl).1]
          exact held
      | queued | done _ | cancelled => cases asleep
    · rw [advances.sent other here] at found
      have before := (orderly.known other sent found).1
      obtain ⟨asked, run, sleeps, held⟩ :=
        orderly.owed other sent found unfinished (advances.keeps.alive _ before alive)
      refine ⟨asked, run, (sleeps_away advances here asked run).mpr sleeps, ?_⟩
      have same := (session_of_lookup (orderly.asleep other asked run sleeps).1).symm.trans advances.shared
      rw [same] at held ⊢
      exact advances.keeps.held _ before alive held
  got := by
    intro other result found
    by_cases here : other = number
    · subst here
      obtain ⟨name, old, known⟩ := advances.task
      obtain ⟨⟨ended, rfl⟩, rest⟩ := advances.got result found
      exact ⟨⟨name, _, ended, Schedule.task_here advances.stepped known⟩, rest⟩
    · rw [advances.fetched other here] at found
      rw [Schedule.task_away advances.stepped here, advances.sent other here]
      exact orderly.got other result found
  gets := by
    intro other name asked ended sent done found finished
    by_cases here : other = number
    · subst here
      obtain ⟨called, old, known⟩ := advances.task
      cases (Schedule.task_here advances.stepped known).symm.trans done
      exact advances.gets ended sent rfl found finished
    · rw [Schedule.task_away advances.stepped here] at done
      rw [advances.sent other here] at found
      rw [advances.fetched other here]
      exact orderly.gets other name asked ended sent done found finished
  fresh := by
    intro other idle
    by_cases here : other = number
    · subst here
      rw [advances.begun.1] at idle
      cases idle
    · rw [advances.begun.2 other here] at idle
      rw [advances.sent other here, advances.fetched other here]
      exact orderly.fresh other idle
  started := by
    intro other begun
    by_cases here : other = number
    · subst here
      obtain ⟨name, old, known⟩ := advances.task
      exact ⟨_, Schedule.task_here advances.stepped known, advances.moved⟩
    · rw [advances.begun.2 other here] at begun
      rw [Schedule.task_away advances.stepped here]
      exact orderly.started other begun
  slept := by
    intro other asked run sleeps
    by_cases here : other = number
    · subst here
      exact advances.begun.1
    · rw [advances.begun.2 other here]
      exact orderly.slept other asked run ((sleeps_away advances here asked run).mp sleeps)
  cleared _ _ asks begun idle := cleared_advance orderly advances asks begun idle

end Step

structure Quiet (root : Path) (scene later : Scene) : Prop where
  office : later.schedule.office = scene.schedule.office
  begun : later.begun = scene.begun
  sent : later.sent = scene.sent
  fetched : later.fetched = scene.fetched
  errands : ∀ (number : Nat) (task : Task), later.schedule.tasks[number]? = some task →
    ∃ errand, task.errand = some errand ∧ errand.Belongs root
  tasks : ∀ number, scene.begun number = true →
    later.schedule.tasks[number]? = scene.schedule.tasks[number]?
  sleeps : ∀ number errand run, later.Sleeps number errand run → scene.Sleeps number errand run
  holder : ∀ number turn errand run, scene.Sleeps number errand run →
    scene.schedule.holder? turn = some number → later.schedule.holder? turn = some number

section Quiet

variable {scene later : Scene}

theorem Orderly.begun_of_sent (orderly : Orderly root base scene) {number : Nat} {sent : Sent}
    (found : scene.sent number = some sent) : scene.begun number = true := by
  cases begun : scene.begun number with
  | true => rfl
  | false =>
      rw [(orderly.fresh number begun).1] at found
      cases found

theorem Orderly.begun_of_fetched (orderly : Orderly root base scene) {number : Nat}
    {result : Except Failure (Option (List UInt8))} (found : scene.fetched number = some result) :
    scene.begun number = true := by
  cases begun : scene.begun number with
  | true => rfl
  | false =>
      rw [(orderly.fresh number begun).2] at found
      cases found

theorem sleeps_quiet (orderly : Orderly root base scene) (quiet : Quiet root scene later) {number : Nat}
    {errand : Errand} {run : Run} (sleeps : scene.Sleeps number errand run) :
    later.Sleeps number errand run := by
  obtain ⟨name, found⟩ := sleeps
  refine ⟨name, ?_⟩
  rw [quiet.tasks number (orderly.slept number errand run ⟨name, found⟩)]
  exact found

theorem asks_quiet (quiet : Quiet root scene later) {number : Nat} (begun : scene.begun number = true)
    (request : Request) : later.Asks root number request ↔ scene.Asks root number request := by
  unfold Asks
  rw [quiet.tasks number begun]

theorem orderly_quiet (orderly : Orderly root base scene) (quiet : Quiet root scene later) :
    Orderly root base later := by
  have world : later.world = scene.world := by rw [world, quiet.office, world]
  have holds (kind : Artifact.Kind) (output : Output) :
      later.Holds base kind output ↔ scene.Holds base kind output := by
    rw [Holds, world, Holds]
  constructor
  case grounded =>
    rw [world]
    exact orderly.grounded
  case rooted =>
    rw [quiet.office]
    exact orderly.rooted
  case errands => exact quiet.errands
  case turns =>
    intro number errand run sleeps turn needs
    have before := quiet.sleeps number errand run sleeps
    exact quiet.holder number turn errand run before (orderly.turns number errand run before turn needs)
  case asleep =>
    intro number errand run sleeps
    rw [quiet.office]
    exact orderly.asleep number errand run (quiet.sleeps number errand run sleeps)
  case waiting =>
    intro number request run sleeps
    obtain ⟨sent, found, held⟩ := orderly.waiting number request run (quiet.sleeps number _ run sleeps)
    rw [quiet.sent]
    exact ⟨sent, found, (holds _ _).mpr held⟩
  case known =>
    intro number sent found
    rw [quiet.sent] at found
    obtain ⟨running, request, asks⟩ := orderly.known number sent found
    rw [world]
    exact ⟨running, request, (asks_quiet quiet (orderly.begun_of_sent found) request).mpr asks⟩
  case owed =>
    intro number sent found unfinished alive
    rw [quiet.sent] at found
    rw [world] at alive ⊢
    obtain ⟨errand, run, sleeps, held⟩ := orderly.owed number sent found unfinished alive
    exact ⟨errand, run, sleeps_quiet orderly quiet sleeps, held⟩
  case got =>
    intro number result found
    rw [quiet.fetched] at found
    rw [quiet.tasks number (orderly.begun_of_fetched found), quiet.sent]
    exact orderly.got number result found
  case gets =>
    intro number name errand ended sent done found finished
    rw [quiet.sent] at found
    rw [quiet.tasks number (orderly.begun_of_sent found)] at done
    rw [quiet.fetched]
    exact orderly.gets number name errand ended sent done found finished
  case fresh =>
    intro number idle
    rw [quiet.begun] at idle
    rw [quiet.sent, quiet.fetched]
    exact orderly.fresh number idle
  case started =>
    intro number begun
    rw [quiet.begun] at begun
    rw [quiet.tasks number begun]
    exact orderly.started number begun
  case slept =>
    intro number errand run sleeps
    rw [quiet.begun]
    exact orderly.slept number errand run (quiet.sleeps number errand run sleeps)
  case cleared =>
    intro number request asks begun idle
    rw [quiet.begun] at begun
    rw [holds]
    refine orderly.cleared number request ((asks_quiet quiet begun request).mp asks) begun ?_
    intro other asked run sleeps
    exact idle other asked run (sleeps_quiet orderly quiet sleeps)

theorem orderly_arrive (orderly : Orderly root base scene) (name : String) {errand : Errand}
    (belongs : errand.Belongs root) :
    Orderly root base { scene with schedule := scene.schedule.enlist name errand } := by
  have split {number : Nat} {task : Task}
      (found : (scene.schedule.enlist name errand).tasks[number]? = some task) :
      scene.schedule.tasks[number]? = some task ∨ task = ⟨name, some errand, .queued⟩ := by
    simp only [Schedule.enlist] at found
    by_cases inside : number < scene.schedule.tasks.length
    · rw [List.getElem?_append_left inside] at found
      exact .inl found
    · rw [List.getElem?_append_right (Nat.le_of_not_lt inside)] at found
      exact .inr (List.mem_singleton.mp (List.mem_of_getElem? found))
  apply orderly_quiet orderly
  constructor
  case office => rfl
  case begun => rfl
  case sent => rfl
  case fetched => rfl
  case errands =>
    intro number task found
    rcases split found with before | rfl
    · exact orderly.errands number task before
    · exact ⟨errand, rfl, belongs⟩
  case tasks =>
    intro number begun
    obtain ⟨task, found, _⟩ := orderly.started number begun
    exact List.getElem?_append_left (List.getElem?_eq_some_iff.mp found).1
  case sleeps =>
    rintro number asked run ⟨called, found⟩
    rcases split found with before | new
    · exact ⟨called, before⟩
    · cases new
  case holder =>
    intro number turn asked run _ holds
    simp only [Schedule.holder?, Schedule.enlist] at holds ⊢
    rw [List.lookup_append, holds]
    rfl

-- A task that waits for its turn has sent nothing; giving it up changes nothing but the queue.
theorem orderly_dismiss_queued (orderly : Orderly root base scene) {number : Nat} {name : String}
    {errand : Option Errand} (waits : scene.schedule.tasks[number]? = some ⟨name, errand, .queued⟩) :
    Orderly root base { scene with schedule := (scene.schedule.dismiss number).1 } := by
  have stepped := Schedule.dismiss_queued waits
  apply orderly_quiet orderly
  constructor
  case office => exact stepped.office
  case begun => rfl
  case sent => rfl
  case fetched => rfl
  case errands =>
    intro other task found
    by_cases here : other = number
    · subst here
      rw [Schedule.task_here stepped waits] at found
      cases found
      obtain ⟨asked, itself, belongs⟩ := orderly.errands other _ waits
      exact ⟨asked, itself, belongs⟩
    · rw [Schedule.task_away stepped here] at found
      exact orderly.errands other task found
  case tasks =>
    intro other begun
    apply Schedule.task_away stepped
    rintro rfl
    obtain ⟨task, found, moved⟩ := orderly.started other begun
    cases waits.symm.trans found
    exact moved rfl
  case sleeps =>
    rintro other asked run ⟨called, found⟩
    by_cases here : other = number
    · subst here
      cases (Schedule.task_here stepped waits).symm.trans found
    · rw [Schedule.task_away stepped here] at found
      exact ⟨called, found⟩
  case holder =>
    rintro other turn asked run ⟨called, found⟩ holds
    apply stepped.holder turn other holds
    left
    rintro rfl
    cases waits.symm.trans found

theorem orderly_hold (orderly : Orderly root base scene) (held : Bool) :
    Orderly root base { scene with schedule := { scene.schedule with held } } :=
  orderly_quiet orderly ⟨rfl, rfl, rfl, rfl, orderly.errands, fun _ _ => rfl, fun _ _ _ sleeps => sleeps,
    fun _ _ _ _ _ holds => holds⟩

end Quiet

end Scene

end LogtalkNavigation
