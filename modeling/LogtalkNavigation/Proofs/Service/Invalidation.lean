import LogtalkNavigation.Proofs.Freshness
import LogtalkNavigation.Proofs.Service.Scene

/-! Results that become outdated while the engine is at work. Between the moment at which an errand for new
results has sent its goal and the moment at which it ends, settings and documents may change any number of
times. The main theorem says what is left of that: the results of a kind are outdated exactly if something has
invalidated them after the last errand of the kind that succeeded, however early that errand sent its goal. -/

namespace LogtalkNavigation

open Act

namespace Job

open Work

variable {α β : Type}

def Ageless (job : Job α) : Prop := ∀ office, (job.left office).freshness = office.freshness

theorem ageless_act (action : Act α) : Ageless (act action) := by
  intro office
  cases ended : action office.world with
  | ok value world => rw [left_of_ran (act_ran ended)]
  | error failure world => rw [left_of_failed (act_failed ended)]

theorem ageless_pure (value : α) : Ageless (pure value) := fun _ => rfl

theorem ageless_throw (failure : Failure) : Ageless (throw failure : Job α) := fun _ => rfl

theorem ageless_get : Ageless (get : Job Office) := fun _ => rfl

theorem ageless_modify {change : Office → Office} (same : ∀ office, (change office).freshness = office.freshness) :
    Ageless (modify change) := same

theorem ageless_bind {job : Job α} {next : α → Job β} (first : Ageless job)
    (second : ∀ value, Ageless (next value)) : Ageless (job >>= next) := by
  intro office
  have early := first office
  cases ended : job office with
  | ok value later =>
      rw [left_of_ran ended] at early
      rw [left_bind ended, second value later, early]
  | error failure later =>
      rw [left_of_failed ended] at early
      rw [left_of_failed (bind_failed ended next), early]

theorem ageless_attempt {job : Job α} (ageless : Ageless job) : Ageless (attempt job) := by
  intro office
  have same := ageless office
  cases ended : job office with
  | ok value later =>
      rw [left_of_ran ended] at same
      rw [left_of_ran (Job.attempt_ran ended), same]
  | error failure later =>
      rw [left_of_failed ended] at same
      rw [left_of_ran (Job.attempt_failed ended), same]

theorem ageless_sessionFor (root : Path) : Ageless (sessionFor root) := by
  intro office
  have read : (get : Job Office) office = .ok office office := rfl
  rw [sessionFor, engineFor, left_bind read]
  split <;> rfl

theorem ageless_closeEach (sessions : List (Path × Session)) : Ageless (closeEach Session.maker sessions) := by
  induction sessions with
  | nil => exact ageless_pure ()
  | cons entry rest ih => exact ageless_bind (ageless_act _) fun _ => ih

theorem ageless_closeSessions : Ageless closeSessions :=
  ageless_bind ageless_get fun _ => ageless_bind (ageless_modify fun _ => rfl) fun _ => ageless_closeEach _

theorem ageless_reload (root : Option Path) (client : Value) : Ageless (reload root client) := by
  refine ageless_bind (ageless_attempt (ageless_act _)) fun loaded => ?_
  split
  · exact ageless_bind (ageless_modify fun _ => rfl) fun _ =>
      ageless_bind (ageless_modify fun _ => rfl) fun _ => ageless_closeSessions
  · exact ageless_act _
  · exact ageless_throw _

theorem ageless_launch (errand : Errand) (runner : Errand.Runner) : Ageless (errand.launch runner) := by
  cases errand with
  | direct session goal sentinel => exact ageless_act _
  | fetch request root =>
      refine ageless_bind (ageless_act _) fun _ => ageless_bind (ageless_act _) fun found => ?_
      refine ageless_bind (ageless_bind (ageless_act _) fun taken => ?_) fun _ => ageless_act _
      dsimp only
      split
      · exact ageless_bind (ageless_act _) fun _ => ageless_sessionFor found
      · exact ageless_sessionFor found
  | refresh kind directory root recursive =>
      exact ageless_bind (ageless_sessionFor root) fun _ => ageless_act _

theorem ageless_collect (request : Request) (root : Path) : Ageless (Errand.collect request root) := by
  refine ageless_bind (ageless_act _) fun content => ?_
  dsimp only
  split
  · exact ageless_bind (ageless_act _) fun _ => ageless_pure _
  · exact ageless_pure _

theorem ageless_contain (errand : Errand) {work : Job Answer} (ageless : Ageless work) :
    Ageless (errand.contain work) := by
  refine ageless_bind (ageless_attempt ageless) fun ended => ?_
  split
  · exact ageless_pure _
  · split
    · exact ageless_bind (ageless_act _) fun _ => ageless_pure _
    · exact ageless_throw _
  · exact ageless_throw _

end Job

section Handlers

open Job Work

variable (client : Client) (office : Office)

theorem Job.setFreshness_ran (freshness : Freshness) :
    setFreshness freshness office = .ok () { office with freshness } := rfl

theorem Job.get_ran : (get : Job Office) office = .ok office office := rfl

theorem Job.ofExcept_ran {α : Type} (value : α) : ofExcept (.ok value) office = .ok value office := rfl

theorem freshness_configurationChanged (settings : Value) :
    ((client.configurationChanged settings).left office).freshness = office.freshness.next .configured := by
  have told : office.freshness.configurationChanged office.world = .ok office.freshness.outdateAll _ := rfl
  have rest : Ageless (client.owner none >>= fun root => reload root settings) :=
    ageless_bind (ageless_act _) fun root => ageless_reload root settings
  rw [Client.configurationChanged, left_bind (get_ran office), left_bind (act_ran told),
    left_bind (setFreshness_ran _ _), rest]
  rfl

theorem freshness_documentChanged {uri : Text} {document : Document}
    (found : client.document uri = .ok document) :
    ((client.documentChanged uri).left office).freshness =
      office.freshness.next (.changed uri document.language) := by
  rw [Client.documentChanged, found, left_bind (ofExcept_ran office document), left_bind (get_ran office)]
  rcases office.freshness.documentChanged_ends uri document.language with ⟨⟨failure, failed⟩, same⟩ | changed
  · rw [failed, same]
    rfl
  · rw [changed]
    rfl

theorem freshness_willSave {uri : Text} {document : Document}
    (found : client.document uri = .ok document) :
    ((client.willSave uri).left office).freshness =
      office.freshness.next (.aboutToSave uri document.language) := by
  rw [Client.willSave, found, left_bind (ofExcept_ran office document), left_bind (get_ran office)]
  rcases office.freshness.willSave_ends uri document.language office.world with
    ⟨failure, unread, failed⟩ | ⟨source, log, _, answered⟩
  · rw [left_of_failed (bind_failed (act_failed failed) _)]
    simp [Freshness.next, Freshness.isSource_of_unread unread]
  · rw [left_bind (act_ran answered), left_bind (setFreshness_ran _ _)]
    split
    · exact ageless_bind (ageless_act _) (fun root => ageless_bind (ageless_act _) fun _ => ageless_pure _) _
    · rfl

end Handlers

inductive Notice where
  | configuration (settings : Value)
  | changed (uri : Text)
  | aboutToSave (uri : Text)
  | saved (uri : Text)
  | closed (uri : Text)

namespace Notice

def handle (client : Client) : Notice → Job Unit
  | .configuration settings => client.configurationChanged settings
  | .changed uri => client.documentChanged uri
  | .aboutToSave uri => client.willSave uri
  | .saved uri => Client.settled uri
  | .closed uri => Client.settled uri

-- A notice about a document whose path cannot be told says nothing.
def event? (client : Client) : Notice → Option Freshness.Event
  | .configuration _ => some .configured
  | .changed uri => (client.document uri).toOption.map fun document => .changed uri document.language
  | .aboutToSave uri => (client.document uri).toOption.map fun document => .aboutToSave uri document.language
  | .saved uri => some (.saved uri)
  | .closed uri => some (.closed uri)

theorem freshness_handle (client : Client) (notice : Notice) (office : Office) :
    ((notice.handle client).left office).freshness =
      (notice.event? client).elim office.freshness office.freshness.next := by
  cases notice with
  | configuration settings => exact freshness_configurationChanged client office settings
  | changed uri =>
      rw [handle, event?]
      cases found : client.document uri with
      | error failure =>
          rw [Client.documentChanged, found]
          rfl
      | ok document => exact freshness_documentChanged client office found
  | aboutToSave uri =>
      rw [handle, event?]
      cases found : client.document uri with
      | error failure =>
          rw [Client.willSave, found]
          rfl
      | ok document => exact freshness_willSave client office found
  | saved uri | closed uri => rfl

theorem not_succeeded_of_event {client : Client} {notice : Notice} {event : Freshness.Event}
    (told : notice.event? client = some event) (kind : Report) : event ≠ .succeeded kind := by
  rintro rfl
  cases notice with
  | configuration | saved | closed => cases told
  | changed uri | aboutToSave uri =>
      obtain ⟨document, _, same⟩ := Option.map_eq_some_iff.mp told
      cases same

end Notice

namespace Errand

open Job Work

-- The errand makes new results of the kind.
def Renews (kind : Report) : Errand → Prop
  | .refresh other _ _ _ => other = kind
  | _ => False

theorem ageless_conclude {errand : Errand} (other : ∀ kind, ¬ errand.Renews kind) : Ageless errand.conclude := by
  cases errand with
  | direct session goal sentinel => exact ageless_pure _
  | fetch request root =>
      cases root with
      | none => exact ageless_pure _
      | some root =>
          refine ageless_bind (ageless_collect request root) fun content => ?_
          cases content with
          | none => exact ageless_pure _
          | some content => exact ageless_act _
  | refresh kind directory root recursive => exact absurd rfl (other kind)

theorem empty_of_contained {errand : Errand} {failure : Failure} {office later : Office} {answer : Answer}
    (contained : errand.contain (throw failure) office = .ok answer later) : answer = errand.emptyAnswer := by
  have failed : (throw failure : Job Answer) office = .error failure office := rfl
  rw [contain, bind_ran (Job.attempt_failed failed)] at contained
  cases named : errand.feature with
  | none =>
      rw [named] at contained
      cases contained
  | some feature =>
      rw [named] at contained
      dsimp only at contained
      split at contained
      · cases contained
        rfl
      · cases contained

def Outcome (errand : Errand) (known : Freshness) (progress : Progress) (later : Freshness) : Prop :=
  (∃ kind, errand.Renews kind ∧ progress = .ended (.ok (.flag true)) ∧ later = known.next (.succeeded kind)) ∨
    ((∀ kind, errand.Renews kind → progress ≠ .ended (.ok (.flag true))) ∧ later = known)

theorem outcome_failed (errand : Errand) (failure : Failure) (office : Office) :
    ∃ progress later, (do return .ended (← Job.attempt (errand.contain (throw failure))) : Job Progress) office =
      .ok progress later ∧ errand.Outcome office.freshness progress later.freshness := by
  have same := ageless_contain errand (ageless_throw failure) office
  cases ended : errand.contain (throw failure) office with
  | ok answer later =>
      rw [left_of_ran ended] at same
      refine ⟨.ended (.ok answer), later, bind_ran (Job.attempt_ran ended) _, .inr ⟨?_, same⟩⟩
      rintro kind renews reported
      rw [empty_of_contained ended] at reported
      cases errand with
      | refresh => cases reported
      | direct | fetch => cases renews
  | error other later =>
      rw [left_of_failed ended] at same
      exact ⟨_, later, bind_ran (Job.attempt_failed ended) _, .inr ⟨nofun, same⟩⟩

theorem outcome_found (errand : Errand) (office : Office) :
    ∃ progress later, (do return .ended (← Job.attempt (errand.contain errand.conclude)) : Job Progress) office =
      .ok progress later ∧ errand.Outcome office.freshness progress later.freshness := by
  by_cases other : ∀ kind, ¬ errand.Renews kind
  · have same := ageless_contain errand (ageless_conclude other) office
    have calm : ∀ progress : Progress, ∀ kind, errand.Renews kind → progress ≠ .ended (.ok (.flag true)) :=
      fun _ kind renews => absurd renews (other kind)
    cases ended : errand.contain errand.conclude office with
    | ok answer later =>
        rw [left_of_ran ended] at same
        exact ⟨_, later, bind_ran (Job.attempt_ran ended) _, .inr ⟨calm _, same⟩⟩
    | error failure later =>
        rw [left_of_failed ended] at same
        exact ⟨_, later, bind_ran (Job.attempt_failed ended) _, .inr ⟨calm _, same⟩⟩
  · obtain ⟨kind, renews⟩ := not_forall_not.mp other
    cases errand with
    | refresh made directory root recursive =>
        have concluded : (Errand.refresh made directory root recursive).conclude office = .ok (.flag true) _ := rfl
        exact ⟨_, _, bind_ran (Job.attempt_ran (contain_ran concluded)) _, .inl ⟨made, rfl, rfl, rfl⟩⟩
    | direct | fetch => cases renews

theorem outcome_proceed {first : Job (Option Run)} (ageless : Ageless first) (errand : Errand) (office : Office) :
    ∃ progress later, errand.proceed first office = .ok progress later ∧
      errand.Outcome office.freshness progress later.freshness := by
  have same := ageless office
  unfold proceed
  cases began : first office with
  | error failure later =>
      rw [left_of_failed began] at same
      rw [bind_ran (Job.attempt_failed began), ← same]
      exact outcome_failed errand failure later
  | ok found later =>
      rw [left_of_ran began] at same
      rw [bind_ran (Job.attempt_ran began)]
      cases found with
      | some run => exact ⟨.asleep run, later, rfl, .inr ⟨nofun, same⟩⟩
      | none =>
          rw [← same]
          exact outcome_found errand later

end Errand

/-- What happens to a service, in any order: the client gives notices, tasks arrive, are run for a while or are
cancelled, and anything else changes, such as what the engine writes. -/
inductive Happening where
  | notice (client : Client) (notice : Notice)
  | arrive (name : String) (errand : Errand)
  | run (number : Nat)
  | cancel (number : Nat)
  | hold
  | release
  | elsewhere (office : Office)

namespace Schedule

open Job Work

def opened (world : World) (settings : Settings) : Schedule := { office := { world, settings } }

def next (schedule : Schedule) : Happening → Schedule
  | .notice client notice => { schedule with office := (notice.handle client).left schedule.office }
  | .arrive name errand => schedule.enlist name errand
  | .run number => (schedule.runTask number).1
  | .cancel number => (schedule.dismiss number).1
  | .hold => schedule.hold
  | .release => { schedule with held := false, sleepers := [] }
  | .elsewhere office => { schedule with office := { office with freshness := schedule.office.freshness } }

def after (schedule : Schedule) (happenings : List Happening) : Schedule := happenings.foldl next schedule

def Reported (schedule : Schedule) (kind : Report) (number : Nat) : Prop :=
  ∃ name directory root recursive, schedule.tasks[number]? =
    some ⟨name, some (.refresh kind directory root recursive), .done (.ok (.flag true))⟩

def Succeeds (schedule : Schedule) (kind : Report) (happening : Happening) : Prop :=
  ∃ number, ¬ schedule.Reported kind number ∧ (schedule.next happening).Reported kind number

/-- The results that there are become outdated: the configuration changes, or a document that is source and has
changes is about to be saved. -/
def Invalidates (schedule : Schedule) : Happening → Prop
  | .notice client notice =>
      ∃ event, notice.event? client = some event ∧ schedule.office.freshness.Raises event
  | _ => False

theorem after_concat (schedule : Schedule) (happenings : List Happening) (happening : Happening) :
    schedule.after (happenings ++ [happening]) = (schedule.after happenings).next happening := by
  rw [after, List.foldl_append, List.foldl_cons, List.foldl_nil, ← after]

def Unfolds (schedule : Schedule) (first : Happening) (later : Schedule) : Prop :=
  ∃ numbers : List Nat, later = schedule.after (first :: numbers.map .run)

theorem drain_runs (fuel : Nat) (ready : List Nat) (schedule : Schedule) :
    ∃ numbers : List Nat, drain fuel ready schedule = schedule.after (numbers.map .run) := by
  induction fuel generalizing ready schedule with
  | zero => exact ⟨[], rfl⟩
  | succ fuel ih =>
      cases ready with
      | nil => exact ⟨[], rfl⟩
      | cons number ready =>
          obtain ⟨numbers, ran⟩ := ih (ready ++ (schedule.runTask number).2) (schedule.runTask number).1
          exact ⟨number :: numbers, ran⟩

theorem unfolds_start (schedule : Schedule) (name : String) (errand : Errand) :
    schedule.Unfolds (.arrive name errand) (schedule.start name errand) := by
  unfold start
  split
  · exact ⟨[], rfl⟩
  · exact drain_runs _ _ (schedule.enlist name errand)

theorem unfolds_cancel (schedule : Schedule) (number : Nat) :
    schedule.Unfolds (.cancel number) (schedule.cancel number) :=
  drain_runs _ _ (schedule.dismiss number).1

theorem unfolds_release (schedule : Schedule) : schedule.Unfolds .release schedule.release :=
  drain_runs _ _ { schedule with held := false, sleepers := [] }

variable {schedule : Schedule}

theorem reported_iff {number : Nat} {name : String} {errand : Errand} {stage : Stage}
    (known : schedule.tasks[number]? = some ⟨name, some errand, stage⟩) (kind : Report) :
    schedule.Reported kind number ↔ errand.Renews kind ∧ stage = .done (.ok (.flag true)) := by
  constructor
  · rintro ⟨_, directory, root, recursive, reported⟩
    cases known.symm.trans reported
    exact ⟨rfl, rfl⟩
  · rintro ⟨renews, rfl⟩
    cases errand with
    | refresh made directory root recursive =>
        cases renews
        exact ⟨name, directory, root, recursive, known⟩
    | direct | fetch => cases renews

theorem not_reported {number : Nat} {task : Task} (known : schedule.tasks[number]? = some task)
    (unfinished : task.stage ≠ .done (.ok (.flag true))) (kind : Report) : ¬ schedule.Reported kind number := by
  rintro ⟨name, directory, root, recursive, reported⟩
  cases known.symm.trans reported
  exact unfinished rfl

-- Only the task that moves can report.
theorem succeeds_iff (happening : Happening) (number : Nat)
    (away : ∀ other, other ≠ number → (schedule.next happening).tasks[other]? = schedule.tasks[other]?)
    (kind : Report) : schedule.Succeeds kind happening ↔
      ¬ schedule.Reported kind number ∧ (schedule.next happening).Reported kind number := by
  constructor
  · rintro ⟨other, unreported, reported⟩
    by_cases same : other = number
    · subst same
      exact ⟨unreported, reported⟩
    · unfold Reported at reported
      rw [away other same] at reported
      exact absurd reported unreported
  · exact fun reports => ⟨number, reports⟩

theorem not_succeeds_of_tasks {happening : Happening} (same : (schedule.next happening).tasks = schedule.tasks)
    (kind : Report) : ¬ schedule.Succeeds kind happening := by
  rintro ⟨number, unreported, reported⟩
  unfold Reported at reported
  rw [same] at reported
  exact unreported reported

theorem not_succeeds_arrive (name : String) (errand : Errand) (kind : Report) :
    ¬ schedule.Succeeds kind (.arrive name errand) := by
  have arrived : (schedule.next (.arrive name errand)).tasks =
    schedule.tasks ++ [⟨name, some errand, .queued⟩] := rfl
  have here : (schedule.next (.arrive name errand)).tasks[schedule.tasks.length]? =
      some ⟨name, some errand, .queued⟩ := by
    rw [arrived, List.getElem?_concat_length]
  rw [succeeds_iff _ schedule.tasks.length]
  · exact fun reports => not_reported here nofun kind reports.2
  · intro other apart
    rw [arrived]
    rcases Nat.lt_or_gt_of_ne apart with known | beyond
    · exact List.getElem?_append_left known
    · rw [List.getElem?_eq_none (by rw [List.length_append]; exact beyond),
        List.getElem?_eq_none (Nat.le_of_lt beyond)]

def Accounted (schedule : Schedule) (happening : Happening) : Prop :=
  (∃ kind, (∀ other, schedule.Succeeds other happening ↔ other = kind) ∧
      (schedule.next happening).office.freshness = schedule.office.freshness.next (.succeeded kind)) ∨
    ((∀ kind, ¬ schedule.Succeeds kind happening) ∧
      (schedule.next happening).office.freshness = schedule.office.freshness)

theorem accounted_of_still {happening : Happening} (still : schedule.next happening = schedule) :
    schedule.Accounted happening :=
  .inr ⟨not_succeeds_of_tasks (congrArg tasks still), by rw [still]⟩

theorem dismiss_cases (schedule : Schedule) (number : Nat) :
    (schedule.dismiss number).1 = schedule ∨ ∃ task later, schedule.tasks[number]? = some task ∧
      Stepped schedule (schedule.dismiss number).1 number .cancelled later ∧
      later.freshness = schedule.office.freshness := by
  cases known : schedule.tasks[number]? with
  | none => exact .inl (by rw [dismiss, known])
  | some task =>
      obtain ⟨name, errand, stage⟩ := task
      cases stage with
      | queued => exact .inr ⟨_, _, rfl, dismiss_queued known, rfl⟩
      | asleep run =>
          cases errand with
          | none => exact .inl (by rw [dismiss, known])
          | some errand =>
              have ageless : Ageless (errand.cancel run) := ageless_act _
              have same := ageless schedule.office
              cases ended : errand.cancel run schedule.office with
              | ok value later =>
                  rw [left_of_ran ended] at same
                  exact .inr ⟨_, later, rfl, dismiss_asleep known (.inl ⟨value, ended⟩), same⟩
              | error failure later =>
                  rw [left_of_failed ended] at same
                  exact .inr ⟨_, later, rfl, dismiss_asleep known (.inr ⟨failure, ended⟩), same⟩
      | done | cancelled => exact .inl (by rw [dismiss, known])

theorem accounted_cancel (schedule : Schedule) (number : Nat) : schedule.Accounted (.cancel number) := by
  rcases schedule.dismiss_cases number with still | ⟨task, later, known, stepped, same⟩
  · exact accounted_of_still still
  · have cancelled := not_reported (task_here stepped known) nofun
    refine .inr ⟨fun kind => ?_, (congrArg Office.freshness stepped.office).trans same⟩
    rw [succeeds_iff (.cancel number) number fun other apart => schedule.dismiss_away apart]
    exact fun reports => cancelled kind reports.2

theorem stepped_of_progress (number : Nat) {work : Job Errand.Progress} {progress : Errand.Progress}
    {office : Office} (worked : work schedule.office = .ok progress office) :
    ∃ stage, Stepped schedule (schedule.advance number work).1 number stage office ∧
      (stage = .done (.ok (.flag true)) ↔ progress = .ended (.ok (.flag true))) := by
  cases progress with
  | asleep run => exact ⟨_, advance_asleep worked, iff_of_false nofun nofun⟩
  | ended result => exact ⟨_, advance_ended worked, by simp⟩

theorem accounted_advance {number : Nat} {name : String} {errand : Errand} {stage : Stage}
    {first : Job (Option Run)} (known : schedule.tasks[number]? = some ⟨name, some errand, stage⟩)
    (unfinished : stage ≠ .done (.ok (.flag true))) (ageless : Ageless first)
    (moves : schedule.next (.run number) = (schedule.advance number (errand.proceed first)).1) :
    schedule.Accounted (.run number) := by
  obtain ⟨progress, later, worked, outcome⟩ := Errand.outcome_proceed ageless errand schedule.office
  obtain ⟨reached, stepped, done⟩ := stepped_of_progress number worked
  rw [← moves] at stepped
  have reports (kind : Report) : schedule.Succeeds kind (.run number) ↔
      errand.Renews kind ∧ progress = .ended (.ok (.flag true)) := by
    rw [succeeds_iff (.run number) number fun other apart => schedule.runTask_away apart,
      reported_iff (task_here stepped known), done]
    exact and_iff_right (not_reported known unfinished kind)
  unfold Accounted
  rw [stepped.office]
  rcases outcome with ⟨kind, renews, ended, renewed⟩ | ⟨other, same⟩
  · refine .inl ⟨kind, fun other => ?_, renewed⟩
    rw [reports, and_iff_left ended]
    cases errand with
    | refresh made directory root recursive =>
        cases renews
        exact eq_comm
    | direct | fetch => cases renews
  · exact .inr ⟨fun kind succeeds => other kind ((reports kind).mp succeeds).1 ((reports kind).mp succeeds).2, same⟩

theorem accounted_run (schedule : Schedule) (number : Nat) : schedule.Accounted (.run number) := by
  cases known : schedule.tasks[number]? with
  | none => exact accounted_of_still (by rw [next, runTask, known])
  | some task =>
      obtain ⟨name, _ | errand, stage⟩ := task
      · exact accounted_of_still (by rw [next, runTask, known])
      · cases stage with
        | queued =>
            refine accounted_advance known nofun (ageless_launch errand (Run.perform schedule.held)) ?_
            rw [next, runTask, known]
            rfl
        | asleep run =>
            refine accounted_advance known nofun (ageless_act (errand.withEngine (run.resume schedule.held))) ?_
            rw [next, runTask, known]
            rfl
        | done | cancelled => exact accounted_of_still (by rw [next, runTask, known])

-- Everything but a notice only renews results.
theorem accounted_of_no_notice (schedule : Schedule) {happening : Happening}
    (other : ∀ client notice, happening ≠ .notice client notice) : schedule.Accounted happening := by
  cases happening with
  | notice client notice => exact absurd rfl (other client notice)
  | arrive name errand => exact .inr ⟨not_succeeds_arrive name errand, rfl⟩
  | run number => exact schedule.accounted_run number
  | cancel number => exact schedule.accounted_cancel number
  | hold | release | elsewhere => exact .inr ⟨not_succeeds_of_tasks rfl, rfl⟩

theorem freshness_notice (schedule : Schedule) (client : Client) (notice : Notice) :
    (schedule.next (.notice client notice)).office.freshness =
      (notice.event? client).elim schedule.office.freshness schedule.office.freshness.next :=
  notice.freshness_handle client schedule.office

theorem not_invalidates_of_succeeds {kind : Report} {happening : Happening}
    (succeeds : schedule.Succeeds kind happening) : ¬ schedule.Invalidates happening := by
  cases happening with
  | notice => exact absurd succeeds (not_succeeds_of_tasks rfl kind)
  | arrive | run | cancel | hold | release | elsewhere => exact id

theorem mem_watched_step {kind : Report} (watched : kind ∈ schedule.office.freshness.watched)
    (happening : Happening) : kind ∈ (schedule.next happening).office.freshness.watched := by
  by_cases other : ∀ client notice, happening ≠ .notice client notice
  · rcases schedule.accounted_of_no_notice other with ⟨_, _, renewed⟩ | ⟨_, same⟩
    · rw [renewed]
      exact Freshness.mem_watched_next _ watched
    · rw [same]
      exact watched
  · push Not at other
    obtain ⟨client, notice, rfl⟩ := other
    rw [freshness_notice]
    cases notice.event? client with
    | none => exact watched
    | some event => exact Freshness.mem_watched_next event watched

theorem isOutdated_step {kind : Report} (watched : kind ∈ schedule.office.freshness.watched)
    (happening : Happening) : (schedule.next happening).office.freshness.isOutdated kind = true ↔
      schedule.Invalidates happening ∨
        (schedule.office.freshness.isOutdated kind = true ∧ ¬ schedule.Succeeds kind happening) := by
  by_cases other : ∀ client notice, happening ≠ .notice client notice
  · have calm : ¬ schedule.Invalidates happening := by
      cases happening with
      | notice client notice => exact absurd rfl (other client notice)
      | arrive | run | cancel | hold | release | elsewhere => exact id
    rw [or_iff_right calm]
    rcases schedule.accounted_of_no_notice other with ⟨made, succeeds, renewed⟩ | ⟨silent, same⟩
    · rw [renewed, succeeds, Freshness.next, Freshness.isOutdated_renew, ne_comm]
    · rw [same, and_iff_left (silent kind)]
  · push Not at other
    obtain ⟨client, notice, rfl⟩ := other
    have silent : ¬ schedule.Succeeds kind (.notice client notice) := not_succeeds_of_tasks rfl kind
    rw [freshness_notice, and_iff_left silent, Invalidates]
    cases told : notice.event? client with
    | none => simp
    | some event =>
        have apart := Notice.not_succeeded_of_event told kind
        rw [Option.elim_some, Freshness.isOutdated_next watched, and_iff_left apart]
        simp

theorem mem_watched_after (world : World) (settings : Settings) (happenings : List Happening) (kind : Report) :
    kind ∈ ((opened world settings).after happenings).office.freshness.watched := by
  induction happenings using List.reverseRecOn with
  | nil =>
      change kind ∈ Report.all
      cases kind <;> decide
  | append_singleton happenings happening ih =>
      rw [after_concat]
      exact mem_watched_step ih happening

/-- Whatever happens to a service, the results of a kind are outdated exactly if something has invalidated them
and no errand for them has reported success since. It does not count when that errand sent its goal: a success
clears the mark also where what invalidated the results came while the engine was at work on them. All that the
schedule does with tasks is made of such happenings. -/
theorem outdated_until_next_success (world : World) (settings : Settings) (happenings : List Happening)
    (kind : Report) :
    (((opened world settings).after happenings).office.freshness.isOutdated kind = true ↔
      Standing (fun before happening => ((opened world settings).after before).Invalidates happening)
        (fun before happening => ((opened world settings).after before).Succeeds kind happening) happenings) ∧
    (∀ happening, ((opened world settings).after happenings).Succeeds kind happening →
      ((opened world settings).after (happenings ++ [happening])).office.freshness.isOutdated kind = false) ∧
    ∀ schedule : Schedule,
      (∀ name errand, schedule.Unfolds (.arrive name errand) (schedule.start name errand)) ∧
        (∀ number, schedule.Unfolds (.cancel number) (schedule.cancel number)) ∧
        schedule.Unfolds .release schedule.release := by
  have step (happenings : List Happening) (happening : Happening) :=
    isOutdated_step (mem_watched_after world settings happenings kind) happening
  refine ⟨?_, ?_, ?_⟩
  · refine flag_iff_standing
      (fun happenings => ((opened world settings).after happenings).office.freshness.isOutdated kind = true)
      Bool.false_ne_true ?_ happenings
    intro happenings happening
    rw [after_concat]
    exact step happenings happening
  · intro happening succeeds
    rw [after_concat, ← Bool.not_eq_true, step]
    rintro (invalidates | ⟨_, silent⟩)
    · exact not_invalidates_of_succeeds succeeds invalidates
    · exact silent succeeds
  · intro schedule
    exact ⟨schedule.unfolds_start, schedule.unfolds_cancel, schedule.unfolds_release⟩

namespace Overtaken

def workspace : Path := ⟨.root, []⟩

def uri : Text := "file:///a.lgt".toList

def client : Client := { documents := [(uri, ⟨Path.ofString "/a.lgt", [], some "logtalk"⟩)] }

def errand : Errand := .refresh .metrics workspace workspace false

def engine : EngineSettings := { timeout := ⟨2, Nat.two_pos⟩, pollInterval := ⟨1, Nat.one_pos⟩ }

def opening : Schedule := opened ⟨⟨[], [], {}⟩, ⟨.off, []⟩, {}⟩ { engine }

-- The document is edited, and the goal is sent.
def sent : List Happening :=
  [.notice client (.changed uri), .hold, .arrive "metrics" errand, .run 0]

def save : Happening := .notice client (.aboutToSave uri)

-- The engine says that it has finished.
def finish : Happening :=
  let office := (opening.after (sent ++ [save])).office
  let disk := office.world.disk.set [Artifact.Kind.metrics.sentinelName] (.file [])
  .elsewhere { office with world := { office.world with disk } }

def run : Run := ⟨⟨0, workspace, engine⟩, Errand.sentinelOf .metrics workspace, 0, 2, []⟩

end Overtaken

open Overtaken in
theorem save_forgotten_by_earlier_goal :
    (∃ run, (opening.after sent).tasks[0]? = some ⟨"metrics", some errand, .asleep run⟩) ∧
      (opening.after sent).Invalidates save ∧
      (opening.after (sent ++ [save])).office.freshness.isOutdated .metrics = true ∧
      (opening.after (sent ++ [save, finish])).Succeeds .metrics (.run 0) ∧
      (opening.after (sent ++ [save, finish, .run 0])).office.freshness.isOutdated .metrics = false := by
  have asleep : (opening.after sent).tasks[0]? = some ⟨"metrics", some errand, .asleep run⟩ := by
    decide +kernel
  refine ⟨⟨run, asleep⟩, ⟨.aboutToSave uri (some "logtalk"), ?_, ?_, ?_⟩, ?_, ⟨0, ?_, ?_⟩, ?_⟩
  · decide +kernel
  · decide +kernel
  · decide +kernel
  · decide +kernel
  · have waits : (opening.after (sent ++ [save, finish])).tasks[0]? =
        some ⟨"metrics", some errand, .asleep run⟩ := by decide +kernel
    exact not_reported waits nofun .metrics
  · refine ⟨"metrics", workspace, workspace, false, ?_⟩
    decide +kernel
  · decide +kernel

end Schedule

end LogtalkNavigation
