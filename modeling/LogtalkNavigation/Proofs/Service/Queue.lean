import LogtalkNavigation.Service.Schedule

/-! Steps of one task. When a task is run or cancelled its stage changes and no other task's; it leaves its
queue unless it falls asleep, and nobody else loses a turn. -/

namespace LogtalkNavigation

-- The task is asleep.
def Stage.IsAsleep : Stage → Prop
  | .asleep _ => True
  | _ => False

namespace Schedule

structure Stepped (schedule later : Schedule) (number : Nat) (stage : Stage) (office : Office) : Prop where
  office : later.office = office
  tasks : later.tasks = schedule.tasks.modify number fun task => { task with stage }
  holder : ∀ turn other, schedule.holder? turn = some other → other ≠ number ∨ stage.IsAsleep →
    later.holder? turn = some other

theorem lookup_without (queue : List (Turn × Nat)) (turn : Turn) (number other : Nat)
    (holds : queue.lookup turn = some other) (apart : other ≠ number) :
    (queue.filter (·.2 ≠ number)).lookup turn = some other := by
  induction queue with
  | nil => cases holds
  | cons entry rest ih =>
      obtain ⟨key, task⟩ := entry
      rw [List.lookup_cons] at holds
      cases same : turn == key with
      | true =>
          rw [same] at holds
          cases holds
          rw [List.filter_cons_of_pos (by simpa using apart), List.lookup_cons, same]
      | false =>
          rw [same] at holds
          by_cases gone : task = number
          · rw [List.filter_cons_of_neg (by simpa using gone)]
            exact ih holds
          · rw [List.filter_cons_of_pos (by simpa using gone), List.lookup_cons, same]
            exact ih holds

theorem leave_fields (schedule : Schedule) (number : Nat) :
    (schedule.leave number).1.office = schedule.office ∧ (schedule.leave number).1.tasks = schedule.tasks ∧
      (schedule.leave number).1.queue = schedule.queue.filter (·.2 ≠ number) := by
  unfold leave
  dsimp only
  split
  · split <;> exact ⟨rfl, rfl, rfl⟩
  · exact ⟨rfl, rfl, rfl⟩

theorem stepped_leave (schedule : Schedule) (number : Nat) (stage : Stage) (office : Office)
    (sleepers : List Nat) (ended : ¬ stage.IsAsleep) :
    Stepped schedule (({ schedule with office, sleepers }.setStage number stage).leave number).1
      number stage office := by
  obtain ⟨sameOffice, sameTasks, queue⟩ :=
    leave_fields ({ schedule with office, sleepers }.setStage number stage) number
  refine ⟨sameOffice, sameTasks, fun turn other holds apart => ?_⟩
  unfold holder?
  rw [queue]
  exact lookup_without schedule.queue turn number other holds (apart.resolve_right ended)

theorem advance_asleep {schedule : Schedule} {number : Nat} {work : Job Errand.Progress} {run : Run}
    {office : Office} (slept : work schedule.office = .ok (.asleep run) office) :
    Stepped schedule (schedule.advance number work).1 number (.asleep run) office := by
  unfold advance
  rw [slept]
  exact ⟨rfl, rfl, fun turn other holds _ => holds⟩

theorem advance_ended {schedule : Schedule} {number : Nat} {work : Job Errand.Progress}
    {result : Except Failure Answer} {office : Office}
    (ended : work schedule.office = .ok (.ended result) office) :
    Stepped schedule (schedule.advance number work).1 number (.done result) office := by
  unfold advance
  rw [ended]
  exact stepped_leave schedule number (.done result) office schedule.sleepers id

theorem dismiss_queued {schedule : Schedule} {number : Nat} {name : String} {errand : Option Errand}
    (waits : schedule.tasks[number]? = some ⟨name, errand, .queued⟩) :
    Stepped schedule (schedule.dismiss number).1 number .cancelled schedule.office := by
  unfold dismiss
  rw [waits]
  exact stepped_leave schedule number .cancelled schedule.office schedule.sleepers id

theorem dismiss_asleep {schedule : Schedule} {number : Nat} {name : String} {errand : Errand} {run : Run}
    {later : Office} (sleeps : schedule.tasks[number]? = some ⟨name, some errand, .asleep run⟩)
    (cancelled : (∃ value, errand.cancel run schedule.office = .ok value later) ∨
      ∃ failure, errand.cancel run schedule.office = .error failure later) :
    Stepped schedule (schedule.dismiss number).1 number .cancelled later := by
  unfold dismiss
  rw [sleeps]
  rcases cancelled with ⟨value, ran⟩ | ⟨failure, failed⟩
  · simp only [ran]
    exact stepped_leave schedule number .cancelled later _ id
  · simp only [failed]
    exact stepped_leave schedule number .cancelled later _ id

theorem dismiss_other {schedule : Schedule} {number : Nat}
    (idle : ∀ name errand, schedule.tasks[number]? ≠ some ⟨name, errand, .queued⟩)
    (awake : ∀ name errand run, schedule.tasks[number]? ≠ some ⟨name, some errand, .asleep run⟩) :
    (schedule.dismiss number).1 = schedule := by
  unfold dismiss
  split
  case h_1 waits => exact absurd waits (idle _ _)
  case h_2 sleeps => exact absurd sleeps (awake _ _ _)
  case h_3 => rfl

theorem task_away {schedule later : Schedule} {number other : Nat} {stage : Stage} {office : Office}
    (stepped : Stepped schedule later number stage office) (apart : other ≠ number) :
    later.tasks[other]? = schedule.tasks[other]? := by
  rw [stepped.tasks, List.getElem?_modify]
  cases schedule.tasks[other]? with
  | none => rfl
  | some task => simp [Ne.symm apart]

theorem task_here {schedule later : Schedule} {number : Nat} {stage : Stage} {office : Office} {task : Task}
    (stepped : Stepped schedule later number stage office)
    (known : schedule.tasks[number]? = some task) :
    later.tasks[number]? = some { task with stage } := by
  rw [stepped.tasks, List.getElem?_modify, known]
  simp

theorem tasks_advance (schedule : Schedule) (number : Nat) (work : Job Errand.Progress) :
    ∃ stage office, Stepped schedule (schedule.advance number work).1 number stage office := by
  cases ended : work schedule.office with
  | ok progress office =>
      cases progress with
      | asleep run => exact ⟨_, _, advance_asleep ended⟩
      | ended result => exact ⟨_, _, advance_ended ended⟩
  | error failure office =>
      refine ⟨.done (.error failure), office, ?_⟩
      unfold advance
      rw [ended]
      exact stepped_leave schedule number _ office schedule.sleepers id

theorem runTask_away (schedule : Schedule) {number other : Nat} (apart : other ≠ number) :
    (schedule.runTask number).1.tasks[other]? = schedule.tasks[other]? := by
  unfold runTask
  split
  case h_1 errand _ =>
    obtain ⟨stage, office, stepped⟩ := tasks_advance schedule number (errand.begin schedule.held)
    exact task_away stepped apart
  case h_2 errand run _ =>
    obtain ⟨stage, office, stepped⟩ := tasks_advance schedule number (errand.resume schedule.held run)
    exact task_away stepped apart
  case h_3 => rfl

theorem dismiss_away (schedule : Schedule) {number other : Nat} (apart : other ≠ number) :
    (schedule.dismiss number).1.tasks[other]? = schedule.tasks[other]? := by
  unfold dismiss
  split
  case h_1 =>
    exact task_away (stepped_leave schedule number .cancelled schedule.office schedule.sleepers id) apart
  case h_2 => exact task_away (stepped_leave schedule number .cancelled _ _ id) apart
  case h_3 => rfl

end Schedule

end LogtalkNavigation
