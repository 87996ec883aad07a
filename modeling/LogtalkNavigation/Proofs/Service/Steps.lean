import LogtalkNavigation.Proofs.Service.Turns

/-! Running a task keeps a scene orderly. What a request does in its turn, and what an errand for new results
does, meets the requirements of a step; and so does giving one up that sleeps. -/

namespace LogtalkNavigation

open Engine Machine Act Errand

namespace Scene

variable {root : Path} {base : Location} {scene later : Scene} {number : Nat} {errand : Errand}
  {first : Job (Option Run)}

-- A task is run: it does `first`, and then what it does when its sentinel is there or when it has failed.
structure Takes (root : Path) (scene later : Scene) (number : Nat) (errand : Errand)
    (first : Job (Option Run)) : Prop where
  task : ∃ name old, scene.schedule.tasks[number]? = some ⟨name, some errand, old⟩
  turn : ∀ turn, errand.turn = some turn → scene.schedule.holder? turn = some number
  schedule : later.schedule = (scene.schedule.advance number (errand.proceed first)).1
  begun : later.begun number = true ∧ ∀ other, other ≠ number → later.begun other = scene.begun other
  sent : ∀ other, other ≠ number → later.sent other = scene.sent other
  fetched : later.fetched = Function.update scene.fetched number
    (errand.fetches first scene.schedule.office)
  finite : later.NoOverflow root

theorem takes_begin {name : String} {output : Output}
    (waits : scene.schedule.tasks[number]? = some ⟨name, some errand, .queued⟩)
    (turn : ∀ turn, errand.turn = some turn → scene.schedule.holder? turn = some number)
    (finite : (scene.begin number errand output).NoOverflow root) :
    Takes root scene (scene.begin number errand output) number errand
      (errand.launch (Run.perform scene.schedule.held)) where
  task := ⟨name, _, waits⟩
  turn := turn
  schedule := by
    simp only [begin, Schedule.runTask, waits]
    rfl
  begun := ⟨Function.update_self .., fun other apart => Function.update_of_ne apart ..⟩
  sent other apart := Function.update_of_ne apart ..
  fetched := rfl
  finite := finite

theorem takes_resume (orderly : Orderly root base scene) {name : String} {run : Run}
    (sleeps : scene.schedule.tasks[number]? = some ⟨name, some errand, .asleep run⟩)
    (finite : (scene.resume number errand run).NoOverflow root) :
    Takes root scene (scene.resume number errand run) number errand (errand.wake scene.schedule.held run) where
  task := ⟨name, _, sleeps⟩
  turn := orderly.turns number errand run ⟨name, sleeps⟩
  schedule := by
    simp only [resume, Schedule.runTask, sleeps]
    rfl
  begun := ⟨orderly.slept number errand run ⟨name, sleeps⟩, fun _ _ => rfl⟩
  sent _ _ := rfl
  fetched := rfl
  finite := finite

section Takes

variable {session : Session} {last : Office} (takes : Takes root scene later number errand first)

include takes

theorem fetched_here :
    later.fetched number = errand.fetches first scene.schedule.office := by
  rw [takes.fetched, Function.update_self]

theorem fetched_away (other : Nat) (apart : other ≠ number) :
    later.fetched other = scene.fetched other := by
  rw [takes.fetched, Function.update_of_ne apart]

theorem advances_ended {result : Except Failure Answer}
    (ended : errand.proceed first scene.schedule.office = .ok (.ended result) last)
    (shared : scene.schedule.office.sessionOf root = session)
    (seated : last.sessions.lookup root = some session)
    (keeps : Keeps session.number scene.world.machine last.world.machine)
    (touches : Touches root base errand.own scene.world.disk last.world.disk)
    (known : ∀ sent, later.sent number = some sent →
      sent.process < last.world.machine.processes.length ∧ ∃ request, errand = .fetch request (some root))
    (empty : ∀ request, errand = .fetch request (some root) →
      Leaves root base request.kind.artifact scene.world.disk last.world.disk none none)
    (ends : ∀ sent, later.sent number = some sent → sent.output.sentinel = none →
      ¬ last.world.machine.Alive sent.process)
    (got : ∀ fetched, errand.fetches first scene.schedule.office = some fetched →
      ∃ sent, later.sent number = some sent ∧ sent.output.sentinel ≠ none ∧
        fetched = .ok sent.output.artifact)
    (gets : ∀ sent, later.sent number = some sent → sent.output.sentinel ≠ none →
      errand.fetches first scene.schedule.office = some (.ok sent.output.artifact)) :
    Advances root base scene later number errand (.done result) session := by
  have stepped := @Schedule.advance_ended scene.schedule number _ _ _ ended
  rw [← takes.schedule] at stepped
  obtain rfl := stepped.office
  exact {
    task := takes.task
    first := takes.turn
    stepped := stepped
    moved := nofun
    shared := shared
    seated := seated
    keeps := keeps
    touches := touches
    begun := takes.begun
    sent := takes.sent
    fetched := fetched_away takes
    asleep := nofun
    waiting := fun _ _ asleep => nomatch asleep
    left := fun request itself _ => ⟨(empty request itself).artifact, (empty request itself).sentinel⟩
    known := known
    owed := fun sent found unfinished alive => absurd alive (ends sent found unfinished)
    got := fun fetched found => by
      rw [fetched_here takes] at found
      exact ⟨⟨result, rfl⟩, got fetched found⟩
    gets := fun _ sent _ found finished => by
      rw [fetched_here takes]
      exact gets sent found finished }

-- A task that ends and has sent nothing has got nothing either.
theorem advances_ended_unsent {result : Except Failure Answer}
    (ended : errand.proceed first scene.schedule.office = .ok (.ended result) last)
    (unsent : later.sent number = none) (unfetched : errand.fetches first scene.schedule.office = none)
    (shared : scene.schedule.office.sessionOf root = session)
    (seated : last.sessions.lookup root = some session)
    (keeps : Keeps session.number scene.world.machine last.world.machine)
    (touches : Touches root base errand.own scene.world.disk last.world.disk)
    (empty : ∀ request, errand = .fetch request (some root) →
      Leaves root base request.kind.artifact scene.world.disk last.world.disk none none) :
    Advances root base scene later number errand (.done result) session := by
  have nothing := Option.eq_none_iff_forall_ne_some.mp unsent
  apply advances_ended takes ended shared seated keeps touches
  · exact fun sent found => absurd found (nothing sent)
  · exact empty
  · exact fun sent found => absurd found (nothing sent)
  · intro fetched got
    rw [unfetched] at got
    cases got
  · exact fun sent found => absurd found (nothing sent)

theorem advances_asleep {run : Run} (slept : first scene.schedule.office = .ok (some run) last)
    (shared : scene.schedule.office.sessionOf root = session)
    (seated : last.sessions.lookup root = some session)
    (keeps : Keeps session.number scene.world.machine last.world.machine)
    (touches : Touches root base errand.own scene.world.disk last.world.disk)
    (known : ∀ sent, later.sent number = some sent →
      sent.process < last.world.machine.processes.length ∧ ∃ request, errand = .fetch request (some root))
    (shape : run.session = session ∧ run.sentinel = errand.awaits ∧ run.pending = [])
    (waiting : ∀ request, errand = .fetch request (some root) →
      ∃ sent, later.sent number = some sent ∧ Leaves root base request.kind.artifact scene.world.disk
        last.world.disk sent.output.artifact sent.output.sentinel)
    (owed : ∀ sent, later.sent number = some sent → sent.output.sentinel = none →
      last.world.machine.Alive sent.process →
        last.world.machine.heldBy session.number = some sent.process) :
    Advances root base scene later number errand (.asleep run) session := by
  have stepped := @Schedule.advance_asleep scene.schedule number (errand.proceed first) _ _
    (proceed_asleep slept)
  rw [← takes.schedule] at stepped
  obtain rfl := stepped.office
  exact {
    task := takes.task
    first := takes.turn
    stepped := stepped
    moved := nofun
    shared := shared
    seated := seated
    keeps := keeps
    touches := touches
    begun := takes.begun
    sent := takes.sent
    fetched := fetched_away takes
    asleep := fun _ same => by
      cases same
      exact shape
    waiting := fun request itself _ => by
      obtain ⟨sent, found, leaves⟩ := waiting request itself
      exact ⟨sent, found, leaves.artifact, leaves.sentinel⟩
    left := fun _ _ awake => absurd trivial awake
    known := known
    owed := fun sent found unfinished alive => ⟨trivial, owed sent found unfinished alive⟩
    got := fun fetched found => by
      rw [fetched_here takes, fetches_asleep slept] at found
      cases found
    gets := nofun }

end Takes

section Requests

variable {request : Request} {session : Session}
  (takes : Takes root scene later number (.fetch request (some root)) first)
  (shared : scene.schedule.office.sessionOf root = session)

include takes

-- A failure that only an impossible time can lead to would be the result of the task.
theorem not_untimely {failure : Failure} {last : Office}
    (failed : first scene.schedule.office = .error failure last)
    (odd : failure = .overflow ∨ failure = .infinite) : False := by
  obtain ⟨name, old, known⟩ := takes.task
  obtain ⟨result, log, ended, escapes⟩ := @proceed_failed (.fetch request (some root)) _ rfl _ _ _ _ failed
  have escaped : failure.isContained = false := by
    rcases odd with rfl | rfl <;> rfl
  cases escapes escaped
  have stepped := @Schedule.advance_ended scene.schedule number _ _ _ ended
  rw [← takes.schedule] at stepped
  obtain ⟨inRange, countable⟩ := takes.finite number name request failure (Schedule.task_here stepped known)
  exact odd.elim inRange countable

include shared

-- A request has sent its goal to a process that the session holds, and goes on.
theorem advances_waited {middle : Office} {sent : Sent} (sends : later.sent number = some sent)
    (seated : middle.sessions.lookup root = some session)
    (known : sent.process < middle.world.machine.processes.length)
    (keeps : Keeps session.number scene.world.machine middle.world.machine)
    (leaves : Leaves root base request.kind.artifact scene.world.disk middle.world.disk
      sent.output.artifact sent.output.sentinel)
    (holds : sent.output.sentinel = none → middle.world.machine.Alive sent.process →
      middle.world.machine.heldBy session.number = some sent.process)
    (waited : Waited root base request session middle sent.output.artifact sent.output.sentinel
      (first scene.schedule.office)) :
    ∃ stage, Advances root base scene later number (.fetch request (some root)) stage session := by
  have named : (Errand.fetch request (some root)).feature = some request.kind.feature := rfl
  have mine {other : Sent} (found : later.sent number = some other) : other = sent :=
    Option.some.inj (found.symm.trans sends)
  generalize went : first scene.schedule.office = result at waited
  cases waited with
  | found disk there taken =>
      have empty := taken.still
      obtain ⟨_, _, collected, _⟩ := collect_clears request
        { middle with world := { middle.world with disk } } empty
      obtain ⟨_, _, cleared, concluded⟩ := conclude_clears request
        { middle with world := { middle.world with disk } } empty
      obtain ⟨result, log, ended⟩ := proceed_found named went concluded
      have whole := (leaves.trans taken).trans cleared
      refine ⟨.done result, advances_ended takes ended shared seated keeps whole.touches ?_ ?_ ?_ ?_ ?_⟩
      · intro other found
        rw [mine found]
        exact ⟨known, request, rfl⟩
      · rintro _ ⟨⟩
        exact whole
      · intro other found unfinished
        rw [mine found] at unfinished
        exact absurd unfinished there
      · intro fetched got
        rw [fetches_found went collected] at got
        exact ⟨sent, sends, there, (Option.some.inj got).symm⟩
      · intro other found _
        rw [mine found]
        exact fetches_found went collected
  | asleep slept left missing =>
      refine ⟨_, advances_asleep takes went shared seated keeps leaves.touches ?_ ⟨rfl, rfl, rfl⟩ ?_ ?_⟩
      · intro other found
        rw [mine found]
        exact ⟨known, request, rfl⟩
      · rintro _ ⟨⟩
        exact ⟨sent, sends, leaves⟩
      · intro other found
        rw [mine found]
        exact holds
  | gaveUp failure after missing given keeping ends =>
      obtain ⟨result, log, ended, _⟩ := proceed_failed named went
      have whole := leaves.trans given
      refine ⟨.done result, advances_ended takes ended shared seated (keeps.trans keeping) whole.touches
        ?_ ?_ ?_ ?_ ?_⟩
      · intro other found
        rw [mine found]
        exact ⟨Nat.lt_of_lt_of_le known keeping.grows, request, rfl⟩
      · rintro _ ⟨⟩
        exact whole
      · intro other found unfinished alive
        rw [mine found] at unfinished alive
        have before := keeping.alive _ known alive
        exact ends _ (holds unfinished before) alive
      · intro fetched got
        rw [fetches_failed went] at got
        cases got
      · intro other found finished
        rw [mine found] at finished
        exact absurd missing finished
  | untimely failure last odd => exact (not_untimely takes went odd).elim

-- A request that could not send its goal leaves nothing.
theorem advances_unsent {failure : Failure} {last : Office} (unsent : later.sent number = none)
    (failed : first scene.schedule.office = .error failure last)
    (seated : last.sessions.lookup root = some session)
    (keeps : Keeps session.number scene.world.machine last.world.machine)
    (leaves : Leaves root base request.kind.artifact scene.world.disk last.world.disk none none) :
    ∃ stage, Advances root base scene later number (.fetch request (some root)) stage session := by
  obtain ⟨result, log, ended, _⟩ := @proceed_failed (.fetch request (some root)) _ rfl _ _ _ _ failed
  refine ⟨.done result, advances_ended_unsent takes ended unsent (fetches_failed failed) shared seated keeps
    leaves.touches ?_⟩
  rintro _ ⟨⟩
  exact leaves

end Requests

theorem conclude_refresh (report : Report) (directory : Path) (recursive : Bool) (office : Office) :
    ∃ freshness, (Errand.refresh report directory root recursive).conclude office =
      .ok (.flag true) { office with freshness } :=
  ⟨_, rfl⟩

theorem advances_spared {report : Report} {directory : Path} {recursive : Bool} {session : Session}
    (takes : Takes root scene later number (.refresh report directory root recursive) first)
    (shared : scene.schedule.office.sessionOf root = session)
    (grounded : Grounded root base scene.world.disk) (unsent : later.sent number = none)
    (spared : Spared root base session (sentinelOf report.artifact directory) scene.world
      (first scene.schedule.office)) :
    ∃ stage, Advances root base scene later number (.refresh report directory root recursive) stage
      session := by
  have named : (Errand.refresh report directory root recursive).feature = some report.word := rfl
  obtain ⟨last, seated, ⟨elsewhere, keeps⟩, went⟩ := spared
  have touches := (elsewhere grounded).touches none
  rcases went with ⟨failure, failed⟩ | found | ⟨run, slept, shape⟩
  · obtain ⟨result, log, ended, _⟩ := proceed_failed named failed
    exact ⟨_, advances_ended_unsent takes ended unsent rfl shared seated keeps touches nofun⟩
  · obtain ⟨freshness, concluded⟩ := @conclude_refresh root report directory recursive last
    obtain ⟨result, log, ended⟩ := proceed_found named found (.inl ⟨_, concluded⟩)
    exact ⟨_, advances_ended_unsent takes ended unsent rfl shared seated keeps touches nofun⟩
  · have nothing := Option.eq_none_iff_forall_ne_some.mp unsent
    refine ⟨_, advances_asleep takes slept shared seated keeps touches ?_ shape nofun ?_⟩
    · exact fun sent known => absurd known (nothing sent)
    · exact fun sent known => absurd known (nothing sent)

theorem sent_begin (scene : Scene) (number : Nat) (errand : Errand) (output : Output) :
    (scene.begin number errand output).sent number = errand.sends scene.schedule.office output :=
  Function.update_self ..

theorem orderly_begin (orderly : Orderly root base scene) {name : String} {output : Output}
    (waits : scene.schedule.tasks[number]? = some ⟨name, some errand, .queued⟩)
    (turn : ∀ turn, errand.turn = some turn → scene.schedule.holder? turn = some number)
    (honest : errand.Honest root base scene.schedule.office output)
    (finite : (scene.begin number errand output).NoOverflow root) :
    Orderly root base (scene.begin number errand output) := by
  have takes := takes_begin waits turn finite
  obtain ⟨_, itself, belongs⟩ := orderly.errands number _ waits
  cases itself
  cases belongs with
  | fetch request =>
      obtain ⟨prompt, written⟩ := honest
      rcases launch_ends request scene.schedule.held scene.schedule.office output orderly.grounded
          orderly.sessionOf_root prompt written with
        ⟨failure, last, failed, unsent, seated, leaves, keeps⟩ |
          ⟨process, middle, sent, seated, holds, known, keeps, leaves, waited⟩
      · have nothing := (sent_begin scene number _ output).trans (sends_failed unsent)
        obtain ⟨stage, advances⟩ := advances_unsent takes rfl nothing failed seated keeps leaves
        exact orderly_advance orderly advances
      · have sends := (sent_begin scene number _ output).trans (sends_sent sent seated holds)
        obtain ⟨stage, advances⟩ :=
          advances_waited takes rfl sends seated known keeps leaves (fun _ _ => holds) waited
        exact orderly_advance orderly advances
  | refresh report directory recursive =>
      obtain ⟨prompt, elsewhere⟩ := honest
      have spared := launch_spared report directory recursive scene.schedule.held scene.schedule.office
        prompt elsewhere
      obtain ⟨stage, advances⟩ :=
        advances_spared takes rfl orderly.grounded (sent_begin scene number _ output) spared
      exact orderly_advance orderly advances

-- What a sleeping task knows: it is the only one at its number.
theorem same_of_sleeps {asked other : Errand} {run next : Run} (sleeps : scene.Sleeps number asked run)
    (also : scene.Sleeps number other next) : asked = other ∧ run = next := by
  obtain ⟨name, found⟩ := sleeps
  obtain ⟨called, again⟩ := also
  cases found.symm.trans again
  exact ⟨rfl, rfl⟩

-- The goal of a request that sleeps is with the process that its session holds, as long as it can act.
theorem Orderly.holds_of_sleeps (orderly : Orderly root base scene) {run : Run} {sent : Sent}
    (sleeps : scene.Sleeps number errand run) (found : scene.sent number = some sent)
    (unfinished : sent.output.sentinel = none) (alive : scene.world.machine.Alive sent.process) :
    scene.world.machine.heldBy run.session.number = some sent.process := by
  obtain ⟨asked, next, also, holds⟩ := orderly.owed number sent found unfinished alive
  rw [(same_of_sleeps sleeps also).2]
  exact holds

theorem Orderly.leaves_of_sleeps (orderly : Orderly root base scene) {request : Request} {run : Run}
    (sleeps : scene.Sleeps number (.fetch request (some root)) run) :
    ∃ sent, scene.sent number = some sent ∧ Leaves root base request.kind.artifact scene.world.disk
      scene.world.disk sent.output.artifact sent.output.sentinel := by
  obtain ⟨sent, found, artifact, sentinel⟩ := orderly.waiting number request run sleeps
  exact ⟨sent, found, orderly.grounded, fun _ _ _ _ => rfl, artifact, sentinel⟩

-- An errand for new results has sent no goal of a request.
theorem Orderly.unsent_of_refresh (orderly : Orderly root base scene) {name : String} {report : Report}
    {directory : Path} {recursive : Bool} {stage : Stage}
    (task : scene.schedule.tasks[number]? =
      some ⟨name, some (.refresh report directory root recursive), stage⟩) :
    scene.sent number = none := by
  cases found : scene.sent number with
  | none => rfl
  | some sent =>
      obtain ⟨_, request, called, old, asks⟩ := orderly.known number sent found
      cases task.symm.trans asks

theorem orderly_resume (orderly : Orderly root base scene) {name : String} {run : Run}
    (sleeps : scene.schedule.tasks[number]? = some ⟨name, some errand, .asleep run⟩)
    (finite : (scene.resume number errand run).NoOverflow root) :
    Orderly root base (scene.resume number errand run) := by
  have takes := takes_resume orderly sleeps finite
  have asleep : scene.Sleeps number errand run := ⟨name, sleeps⟩
  obtain ⟨seated, looksFor, nothing⟩ := orderly.asleep number errand run asleep
  have shared := session_of_lookup seated
  obtain ⟨_, itself, belongs⟩ := orderly.errands number _ sleeps
  cases itself
  cases belongs with
  | fetch request =>
      obtain ⟨sent, found, leaves⟩ := orderly.leaves_of_sleeps asleep
      have running := (orderly.known number sent found).1
      have waited := wake_waited request scene.schedule.held run scene.schedule.office looksFor nothing
        leaves
      obtain ⟨stage, advances⟩ := advances_waited takes shared found seated running (Keeps.refl _ _) leaves
        (orderly.holds_of_sleeps asleep found) waited
      exact orderly_advance orderly advances
  | refresh report directory recursive =>
      have spared := @wake_spared root base report directory recursive scene.schedule.held run
        scene.schedule.office seated looksFor nothing
      rw [looksFor] at spared
      obtain ⟨stage, advances⟩ := advances_spared takes shared orderly.grounded
        (orderly.unsent_of_refresh sleeps) spared
      exact orderly_advance orderly advances

theorem advances_cancelled (orderly : Orderly root base scene) {name : String} {run : Run} {last : Office}
    (sleeps : scene.schedule.tasks[number]? = some ⟨name, some errand, .asleep run⟩)
    (cancelled : (∃ value, errand.cancel run scene.schedule.office = .ok value last) ∨
      ∃ failure, errand.cancel run scene.schedule.office = .error failure last)
    (seated : last.sessions.lookup root = some run.session)
    (keeps : Keeps run.session.number scene.world.machine last.world.machine)
    (touches : Touches root base errand.own scene.world.disk last.world.disk)
    (empty : ∀ request, errand = .fetch request (some root) →
      Leaves root base request.kind.artifact scene.world.disk last.world.disk none none)
    (known : ∀ sent, scene.sent number = some sent → ∃ request, errand = .fetch request (some root))
    (ends : ∀ sent, scene.sent number = some sent → sent.output.sentinel = none →
      ¬ last.world.machine.Alive sent.process) :
    Advances root base scene { scene with schedule := (scene.schedule.dismiss number).1 } number errand
      .cancelled run.session := by
  have asleep : scene.Sleeps number errand run := ⟨name, sleeps⟩
  have stepped := Schedule.dismiss_asleep sleeps cancelled
  obtain rfl := stepped.office
  exact {
    task := ⟨name, _, sleeps⟩
    first := orderly.turns number errand run asleep
    stepped := stepped
    moved := nofun
    shared := session_of_lookup (orderly.asleep number errand run asleep).1
    seated := seated
    keeps := keeps
    touches := touches
    begun := ⟨orderly.slept number errand run asleep, fun _ _ => rfl⟩
    sent := fun _ _ => rfl
    fetched := fun _ _ => rfl
    asleep := nofun
    waiting := fun _ _ sleeping => nomatch sleeping
    left := fun request itself _ => ⟨(empty request itself).artifact, (empty request itself).sentinel⟩
    known := fun sent found =>
      ⟨Nat.lt_of_lt_of_le (orderly.known number sent found).1 keeps.grows, known sent found⟩
    owed := fun sent found unfinished alive => absurd alive (ends sent found unfinished)
    got := fun result found => by
      -- A task that sleeps has got nothing yet.
      obtain ⟨⟨called, asked, ended, done⟩, _⟩ := orderly.got number result found
      cases sleeps.symm.trans done
    gets := nofun }

theorem orderly_dismiss_asleep (orderly : Orderly root base scene) {name : String} {run : Run}
    (sleeps : scene.schedule.tasks[number]? = some ⟨name, some errand, .asleep run⟩) :
    Orderly root base { scene with schedule := (scene.schedule.dismiss number).1 } := by
  have asleep : scene.Sleeps number errand run := ⟨name, sleeps⟩
  obtain ⟨seated, looksFor, _⟩ := orderly.asleep number errand run asleep
  obtain ⟨_, itself, belongs⟩ := orderly.errands number _ sleeps
  cases itself
  cases belongs with
  | fetch request =>
      obtain ⟨sent, found, leaves⟩ := orderly.leaves_of_sleeps asleep
      obtain ⟨after, cancelled, cleared, keeps, ends⟩ :=
        cancel_clears request run scene.schedule.office looksFor leaves
      apply orderly_advance orderly
      refine advances_cancelled orderly sleeps (.inl ⟨_, cancelled⟩) seated keeps cleared.touches ?_ ?_ ?_
      · rintro _ ⟨⟩
        exact cleared
      · exact fun _ _ => ⟨request, rfl⟩
      · intro other also unfinished alive
        have before := keeps.alive _ (orderly.known number other also).1 alive
        exact ends _ (orderly.holds_of_sleeps asleep also unfinished before) alive
  | refresh report directory recursive =>
      have nothing := Option.eq_none_iff_forall_ne_some.mp (orderly.unsent_of_refresh sleeps)
      obtain ⟨last, same, ⟨elsewhere, keeps⟩, cancelled⟩ := @cancel_spared root base report directory
        recursive run scene.schedule.office looksFor
      rw [← same] at seated
      apply orderly_advance orderly
      exact advances_cancelled orderly sleeps cancelled seated keeps
        ((elsewhere orderly.grounded).touches none) nofun (fun sent found => absurd found (nothing sent))
        (fun sent found => absurd found (nothing sent))

theorem orderly_cancel (orderly : Orderly root base scene) (number : Nat) :
    Orderly root base { scene with schedule := (scene.schedule.dismiss number).1 } := by
  by_cases waits : ∃ name errand, scene.schedule.tasks[number]? = some ⟨name, errand, .queued⟩
  · obtain ⟨name, errand, waits⟩ := waits
    exact orderly_dismiss_queued orderly waits
  by_cases sleeps : ∃ name errand run, scene.schedule.tasks[number]? = some ⟨name, some errand, .asleep run⟩
  · obtain ⟨name, errand, run, sleeps⟩ := sleeps
    exact orderly_dismiss_asleep orderly sleeps
  · have same := @Schedule.dismiss_other scene.schedule number
      (fun name errand found => waits ⟨name, errand, found⟩)
      (fun name errand run found => sleeps ⟨name, errand, run, found⟩)
    rw [same]
    exact orderly

end Scene

end LogtalkNavigation
