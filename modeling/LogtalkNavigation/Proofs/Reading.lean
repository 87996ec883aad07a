import LogtalkNavigation.World

/-! Actions that only look. Such an action answers from the disk alone, and of the world it changes
nothing but the log; so it can be left out of what is said about files and processes, and its answer can
be said without the world. -/

namespace LogtalkNavigation.Act

variable {α β : Type}

def outcome (action : Act α) (world : World) : Except Failure α :=
  match action world with
  | .ok value _ => .ok value
  | .error failure _ => .error failure

def answered (world : World) : Except Failure α → EStateM.Result Failure World α
  | .ok value => .ok value world
  | .error failure => .error failure world

/-- The action answers what `answer` says of the disk, and changes at most the log. -/
def Looks (action : Act α) (answer : Disk → Except Failure α) : Prop :=
  ∀ world, ∃ log, action world = answered { world with log } (answer world.disk)

theorem disk_bind (next : Disk → Act α) (world : World) :
    (disk >>= next) world = next world.disk world := rfl

theorem bind_ran {σ : Type} {action : EStateM Failure σ α} {world later : σ} {value : α}
    (ran : action world = .ok value later) (next : α → EStateM Failure σ β) :
    (action >>= next) world = next value later := by
  simp only [bind, EStateM.bind, ran]

theorem bind_failed {σ : Type} {action : EStateM Failure σ α} {world later : σ} {failure : Failure}
    (failed : action world = .error failure later) (next : α → EStateM Failure σ β) :
    (action >>= next) world = .error failure later := by
  simp only [bind, EStateM.bind, failed]

theorem ran_of_bind {first : Act α} {next : α → Act β} {world last : World} {result : β}
    (ended : (first >>= next) world = .ok result last) :
    ∃ value later, first world = .ok value later ∧ next value later = .ok result last := by
  cases ran : first world with
  | error failure later =>
      rw [bind_failed ran] at ended
      cases ended
  | ok value later =>
      rw [bind_ran ran] at ended
      exact ⟨value, later, rfl, ended⟩

theorem ok_of_ofExcept {value : Except Failure α} {world later : World} {result : α}
    (ran : ofExcept value world = .ok result later) : value = .ok result := by
  cases value with
  | error failure => cases ran
  | ok found =>
      cases ran
      rfl

theorem note_ran (level : Level) (message : String) (world : World) :
    note level message world = .ok () { world with log := world.log.add level message } := rfl

theorem setDisk_ran (disk : Disk) (world : World) :
    setDisk disk world = .ok () { world with disk } := rfl

theorem machine_bind (next : Engine.Machine → Act α) (world : World) :
    (machine >>= next) world = next world.machine world := rfl

theorem setMachine_ran (machine : Engine.Machine) (world : World) :
    setMachine machine world = .ok () { world with machine } := rfl

theorem attempt_ran {action : Act α} {world after : World} {value : α}
    (ran : action world = .ok value after) : attempt action world = .ok (.ok value) after := by
  simp only [attempt, ran]

theorem attempt_failed {action : Act α} {world after : World} {failure : Failure}
    (failed : action world = .error failure after) :
    attempt action world = .ok (.error failure) after := by
  simp only [attempt, failed]

theorem outcome_of_looks {action : Act α} {answer : Disk → Except Failure α}
    (looks : Looks action answer) (world : World) : action.outcome world = answer world.disk := by
  obtain ⟨log, ran⟩ := looks world
  rw [outcome, ran]
  cases answer world.disk <;> rfl

theorem looks_pure (value : α) : Looks (pure value) fun _ => .ok value :=
  fun world => ⟨world.log, rfl⟩

theorem looks_throw (failure : Failure) : Looks (throw failure : Act α) fun _ => .error failure :=
  fun world => ⟨world.log, rfl⟩

theorem looks_note (level : Level) (message : String) : Looks (note level message) fun _ => .ok () :=
  fun world => ⟨world.log.add level message, rfl⟩

theorem looks_disk_bind {next : Disk → Act α} {answer : Disk → Except Failure α}
    (looks : ∀ disk, Looks (next disk) fun _ => answer disk) : Looks (disk >>= next) answer :=
  fun world => looks world.disk world

theorem looks_ofExcept (value : Except Failure α) : Looks (ofExcept value) fun _ => value := by
  cases value with
  | ok found => exact looks_pure found
  | error failure => exact looks_throw failure

theorem looks_bind {action : Act α} {answer : Disk → Except Failure α} {next : α → Act β}
    {then_ : α → Disk → Except Failure β} (first : Looks action answer)
    (second : ∀ value, Looks (next value) (then_ value)) :
    Looks (action >>= next) fun disk => answer disk >>= fun value => then_ value disk := by
  intro world
  obtain ⟨log, ran⟩ := first world
  cases answered : answer world.disk with
  | error failure =>
      refine ⟨log, ?_⟩
      rw [answered] at ran
      simp only [bind, EStateM.bind, ran, Act.answered, answered, Except.bind]
  | ok value =>
      obtain ⟨later, resumed⟩ := second value { world with log }
      refine ⟨later, ?_⟩
      rw [answered] at ran
      simp only [bind, EStateM.bind, ran, Act.answered, answered, Except.bind]
      exact resumed

theorem looks_mapM {each : α → Act β} {answer : α → Disk → Except Failure β}
    (every : ∀ item, Looks (each item) (answer item)) (items : List α) :
    Looks (items.mapM each) fun disk => items.mapM (answer · disk) := by
  induction items with
  | nil => exact looks_pure []
  | cons item rest ih =>
      simp only [List.mapM_cons]
      exact looks_bind (every item) fun made => looks_bind ih fun others => looks_pure (made :: others)

section Simulates

variable {γ δ : Type} {disk : Disk}

/-- On a disk the action ends as a computation does: with the same failure, or with a value that fits the computed
one. It changes at most the log. -/
def Simulates (disk : Disk) (fits : α → β → Prop) (action : Act α) (answer : Except Failure β) : Prop :=
  ∀ world, world.disk = disk → ∃ log,
    (∃ failure, answer = .error failure ∧ action world = .error failure { world with log }) ∨
      ∃ value found, answer = .ok found ∧ fits value found ∧ action world = .ok value { world with log }

theorem simulates_pure {fits : α → β → Prop} {value : α} {found : β} (fit : fits value found) :
    Simulates disk fits (pure value) (pure found) :=
  fun world _ => ⟨world.log, .inr ⟨value, found, rfl, fit, rfl⟩⟩

theorem simulates_of_looks {action : Act α} {answer : Disk → Except Failure α} (looks : Looks action answer) :
    Simulates disk Eq action (answer disk) := by
  rintro world rfl
  obtain ⟨log, ran⟩ := looks world
  refine ⟨log, ?_⟩
  cases ended : answer world.disk with
  | error failure =>
      rw [ended] at ran
      exact .inl ⟨failure, rfl, ran⟩
  | ok found =>
      rw [ended] at ran
      exact .inr ⟨found, found, rfl, rfl, ran⟩

theorem simulates_bind {fits : α → β → Prop} {suits : γ → δ → Prop} {action : Act α} {answer : Except Failure β}
    {next : α → Act γ} {then_ : β → Except Failure δ} (first : Simulates disk fits action answer)
    (second : ∀ value found, answer = .ok found → fits value found →
      Simulates disk suits (next value) (then_ found)) :
    Simulates disk suits (action >>= next) (answer >>= then_) := by
  intro world same
  obtain ⟨log, ⟨failure, failed, ran⟩ | ⟨value, found, answered, fit, ran⟩⟩ := first world same
  · refine ⟨log, .inl ⟨failure, ?_, bind_failed ran next⟩⟩
    rw [failed]
    rfl
  · have rest := second value found answered fit { world with log } same
    rw [bind_ran ran, answered]
    exact rest

theorem simulates_look_bind {suits : γ → δ → Prop} {action : Act α} {answer : Disk → Except Failure α}
    {next : α → Act γ} {then_ : α → Except Failure δ} (looks : Looks action answer)
    (second : ∀ found, answer disk = .ok found → Simulates disk suits (next found) (then_ found)) :
    Simulates disk suits (action >>= next) (answer disk >>= then_) := by
  apply simulates_bind (simulates_of_looks looks)
  rintro found _ answered rfl
  exact second found answered

theorem outcome_of_simulates {action : Act α} {world : World} {answer : Except Failure α}
    (simulates : Simulates world.disk Eq action answer) : action.outcome world = answer := by
  obtain ⟨log, ⟨failure, failed, ran⟩ | ⟨value, found, answered, rfl, ran⟩⟩ := simulates world rfl
  · rw [outcome, ran, failed]
  · rw [outcome, ran, answered]

end Simulates

def Sorts (value : Except Failure α) (bad : Prop) : Prop :=
  (bad ∧ ∃ failure, failure.isContained = false ∧ value = .error failure) ∨
    (¬ bad ∧ ∃ found, value = .ok found)

/-- On a disk the action changes at most the log. It fails exactly if `bad` holds, and then with a failure
that is not contained; otherwise its answer is `good`. -/
def Shows (disk : Disk) (action : Act α) (bad : Prop) (good : α → Prop) : Prop :=
  ∀ world, world.disk = disk → ∃ log,
    (bad ∧ ∃ failure, failure.isContained = false ∧ action world = .error failure { world with log }) ∨
      (¬ bad ∧ ∃ value, good value ∧ action world = .ok value { world with log })

theorem sorts_pure (value : α) : Sorts (pure value) False := .inr ⟨id, value, rfl⟩

theorem Sorts.congr {value : Except Failure α} {bad other : Prop} (sorts : Sorts value bad)
    (same : bad ↔ other) : Sorts value other := by
  rw [← propext same]
  exact sorts

theorem sorts_bind {first : Except Failure α} {next : α → Except Failure β} {bad later : Prop}
    (sorts : Sorts first bad) (rest : ∀ value, first = .ok value → Sorts (next value) later) :
    Sorts (first >>= next) (bad ∨ later) := by
  rcases sorts with ⟨isBad, failure, escapes, failed⟩ | ⟨notBad, value, answered⟩
  · exact .inl ⟨.inl isBad, failure, escapes, by rw [failed]; rfl⟩
  · rcases rest value answered with ⟨isLater, failure, escapes, failed⟩ | ⟨notLater, found, ended⟩
    · exact .inl ⟨.inr isLater, failure, escapes, by rw [answered]; exact failed⟩
    · exact .inr ⟨fun either => either.elim notBad notLater, found, by rw [answered]; exact ended⟩

variable {disk : Disk}

theorem Shows.congr {action : Act α} {bad other : Prop} {good : α → Prop}
    (shows_ : Shows disk action bad good) (same : bad ↔ other) : Shows disk action other good := by
  rw [← propext same]
  exact shows_

theorem Shows.weaken {action : Act α} {bad : Prop} {good fine : α → Prop}
    (shows_ : Shows disk action bad good) (suits : ∀ value, good value → fine value) :
    Shows disk action bad fine := by
  intro world same
  obtain ⟨log, answer⟩ := shows_ world same
  exact ⟨log, answer.imp_right fun ⟨notBad, value, holds, ran⟩ =>
    ⟨notBad, value, suits value holds, ran⟩⟩

theorem shows_pure (value : α) (good : α → Prop) (holds : good value) :
    Shows disk (pure value) False good :=
  fun world _ => ⟨world.log, .inr ⟨id, value, holds, rfl⟩⟩

theorem shows_note (level : Level) (message : String) :
    Shows disk (note level message) False fun _ => True :=
  fun world _ => ⟨world.log.add level message, .inr ⟨id, (), trivial, rfl⟩⟩

theorem shows_disk : Shows disk Act.disk False (· = disk) :=
  fun world same => ⟨world.log, .inr ⟨id, world.disk, same, rfl⟩⟩

theorem shows_ofExcept {value : Except Failure α} {bad : Prop} (sorts : Sorts value bad) :
    Shows disk (ofExcept value) bad fun found => value = .ok found := by
  intro world _
  refine ⟨world.log, ?_⟩
  rcases sorts with ⟨isBad, failure, escapes, failed⟩ | ⟨notBad, found, answered⟩
  · exact .inl ⟨isBad, failure, escapes, by rw [failed]; rfl⟩
  · exact .inr ⟨notBad, found, answered, by rw [answered]; rfl⟩

theorem shows_bind {action : Act α} {next : α → Act β} {bad later : Prop} {good : α → Prop}
    {fine : β → Prop} (first : Shows disk action bad good)
    (second : ∀ value, good value → Shows disk (next value) later fine) :
    Shows disk (action >>= next) (bad ∨ later) fine := by
  intro world same
  obtain ⟨log, ⟨isBad, failure, escapes, failed⟩ | ⟨notBad, value, holds, answered⟩⟩ := first world same
  · refine ⟨log, .inl ⟨.inl isBad, failure, escapes, ?_⟩⟩
    simp only [bind, EStateM.bind, failed]
  · obtain ⟨after, rest⟩ := second value holds { world with log } same
    refine ⟨after, ?_⟩
    rw [bind_ran answered]
    rcases rest with ⟨isLater, failure, escapes, failed⟩ | ⟨notLater, found, suits, ended⟩
    · exact .inl ⟨.inr isLater, failure, escapes, failed⟩
    · exact .inr ⟨fun either => either.elim notBad notLater, found, suits, ended⟩

theorem shows_of_looks {action : Act α} {answer : Disk → Except Failure α} {bad : Prop}
    (looks : Looks action answer) (sorts : Sorts (answer disk) bad) :
    Shows disk action bad fun value => answer disk = .ok value := by
  intro world same
  obtain ⟨log, ran⟩ := looks world
  refine ⟨log, ?_⟩
  rw [ran, same]
  rcases sorts with ⟨isBad, failure, escapes, failed⟩ | ⟨notBad, found, answered⟩
  · exact .inl ⟨isBad, failure, escapes, by rw [failed]; rfl⟩
  · exact .inr ⟨notBad, found, answered, by rw [answered]; rfl⟩

theorem shows_mapM {each : α → Act β} {bad : α → Prop} (items : List α)
    (every : ∀ item ∈ items, Shows disk (each item) (bad item) fun _ => True) :
    Shows disk (items.mapM each) (∃ item ∈ items, bad item) fun _ => True := by
  induction items with
  | nil =>
      rw [List.mapM_nil]
      exact (shows_pure [] _ trivial).congr (by simp)
  | cons item rest ih =>
      rw [List.mapM_cons]
      have head := every item List.mem_cons_self
      have tail := ih fun other inside => every other (List.mem_cons_of_mem _ inside)
      refine Shows.congr (shows_bind head fun made _ => shows_bind tail fun others _ =>
        shows_pure (made :: others) _ trivial) ?_
      simp only [or_false, List.mem_cons, exists_eq_or_imp]

def left (action : Act α) (world : World) : World :=
  match action world with
  | .ok _ after => after
  | .error _ after => after

def Frames (relation : World → World → Prop) (action : Act α) : Prop :=
  ∀ world, relation world (action.left world)

theorem left_of_ran {action : Act α} {world after : World} {value : α}
    (ran : action world = .ok value after) : action.left world = after := by
  rw [left, ran]

theorem left_of_failed {action : Act α} {world after : World} {failure : Failure}
    (failed : action world = .error failure after) : action.left world = after := by
  rw [left, failed]

theorem ran_of_outcome {action : Act α} {world : World} {value : α}
    (answered : action.outcome world = .ok value) : action world = .ok value (action.left world) := by
  unfold outcome at answered
  cases ran : action world with
  | ok found after =>
      rw [ran] at answered
      cases answered
      rw [left_of_ran ran]
  | error failure after => rw [ran] at answered; cases answered

theorem outcome_of_ran {action : Act α} {world after : World} {value : α}
    (ran : action world = .ok value after) : action.outcome world = .ok value := by
  rw [outcome, ran]

theorem failed_of_outcome {action : Act α} {world : World} {failure : Failure}
    (answered : action.outcome world = .error failure) :
    action world = .error failure (action.left world) := by
  unfold outcome at answered
  cases ran : action world with
  | ok found after => rw [ran] at answered; cases answered
  | error other after =>
      rw [ran] at answered
      cases answered
      rw [left_of_failed ran]

theorem bind_congr_of_outcome {action : Act α} {next other : α → Act β}
    (same : ∀ world value, action.outcome world = .ok value → next value = other value) :
    action >>= next = action >>= other := by
  funext world
  cases ended : action.outcome world with
  | ok value => rw [bind_ran (ran_of_outcome ended), bind_ran (ran_of_outcome ended), same world value ended]
  | error failure => rw [bind_failed (failed_of_outcome ended), bind_failed (failed_of_outcome ended)]

theorem outcome_ofExcept_bind (value : Except Failure α) (next : α → Act β) (world : World) :
    (ofExcept value >>= next).outcome world = value >>= fun result => (next result).outcome world := by
  cases value <;> rfl

section Preorder

variable {relation : World → World → Prop} (refl : ∀ world, relation world world)
  (trans : ∀ first second third, relation first second → relation second third → relation first third)

include refl in
theorem frames_pure (value : α) : Frames relation (pure value) := refl

include refl in
theorem frames_throw (failure : Failure) : Frames relation (throw failure : Act α) := refl

include refl in
theorem frames_disk : Frames relation Act.disk := refl

include trans in
theorem frames_bind {action : Act α} {next : α → Act β} (first : Frames relation action)
    (second : ∀ value, Frames relation (next value)) : Frames relation (action >>= next) := by
  intro world
  have early := first world
  cases ran : action world with
  | ok value after =>
      have late := second value after
      rw [left_of_ran ran] at early
      rw [left, bind_ran ran, ← left]
      exact trans _ _ _ early late
  | error failure after =>
      rw [left_of_failed ran] at early
      rw [left_of_failed (bind_failed ran next)]
      exact early

end Preorder

end LogtalkNavigation.Act
