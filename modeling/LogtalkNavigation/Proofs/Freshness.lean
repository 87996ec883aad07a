import LogtalkNavigation.Freshness
import LogtalkNavigation.Proofs.Reading
import Mathlib.Data.List.Induction

/-! What is known about the age of results is decided by what has happened. Each flag, whether of a kind of
results or of a document, is raised by some events and lowered by others, so that it is up exactly if the last
of these raised it. Which events these are is said by the events alone, without the flags. -/

namespace LogtalkNavigation

section Flags

variable {α : Type} (raises lowers : List α → α → Prop)

/-- One of the events raised a flag, and none after it lowered the flag again. What an event does to the flag
may depend on the events before it. -/
def Standing (events : List α) : Prop :=
  ∃ before event later, events = before ++ event :: later ∧ raises before event ∧
    ∀ between other rest, later = between ++ other :: rest → ¬ lowers (before ++ event :: between) other

variable {raises lowers}

theorem not_standing_nil : ¬ Standing raises lowers [] := by
  rintro ⟨before, event, later, divided, _⟩
  cases before <;> cases divided

theorem standing_of_concat {events : List α} {event : α}
    (standing : Standing raises lowers (events ++ [event])) :
    raises events event ∨ (Standing raises lowers events ∧ ¬ lowers events event) := by
  obtain ⟨before, raiser, later, divided, raised, kept⟩ := standing
  induction later using List.reverseRecOn with
  | nil =>
      obtain ⟨rfl, same⟩ := List.append_inj' divided rfl
      cases same
      exact .inl raised
  | append_singleton later last _ =>
      rw [← List.cons_append, ← List.append_assoc] at divided
      obtain ⟨rfl, same⟩ := List.append_inj' divided rfl
      cases same
      refine .inr ⟨⟨before, raiser, later, rfl, raised, ?_⟩, kept later event [] rfl⟩
      intro between other rest split
      exact kept between other (rest ++ [event]) (by rw [split, List.append_assoc, List.cons_append])

theorem standing_concat (events : List α) (event : α) :
    Standing raises lowers (events ++ [event]) ↔
      raises events event ∨ (Standing raises lowers events ∧ ¬ lowers events event) := by
  constructor
  · exact standing_of_concat
  · rintro (raised | ⟨⟨before, raiser, later, rfl, raised, kept⟩, spared⟩)
    · exact ⟨events, event, [], rfl, raised, fun between other rest divided => by cases between <;> cases divided⟩
    · refine ⟨before, raiser, later ++ [event], by simp, raised, ?_⟩
      intro between other rest divided
      induction rest using List.reverseRecOn with
      | nil =>
          obtain ⟨rfl, same⟩ := List.append_inj' divided rfl
          cases same
          exact spared
      | append_singleton rest last _ =>
          rw [← List.cons_append, ← List.append_assoc] at divided
          obtain ⟨split, _⟩ := List.append_inj' divided rfl
          exact kept between other rest split

-- From the step to the run: a flag that each event raises, lowers or leaves is up exactly if it stands.
theorem flag_iff_standing (flag : List α → Prop) (opens : ¬ flag [])
    (steps : ∀ events event, flag (events ++ [event]) ↔
      raises events event ∨ (flag events ∧ ¬ lowers events event)) (events : List α) :
    flag events ↔ Standing raises lowers events := by
  induction events using List.reverseRecOn with
  | nil => exact iff_of_false opens not_standing_nil
  | append_singleton events event ih => rw [steps, standing_concat, ih]

end Flags

def isSource (uri : Text) (language : Option String) : Bool :=
  match isLogtalk uri language with
  | .ok source => source
  | .error _ => false

namespace Freshness

inductive Event where
  | configured
  | changed (uri : Text) (language : Option String)
  | aboutToSave (uri : Text) (language : Option String)
  | saved (uri : Text)
  | closed (uri : Text)
  | succeeded (kind : Report)
deriving DecidableEq

namespace Event

def tell (freshness : Freshness) : Event → Act Freshness
  | .configured => freshness.configurationChanged
  | .changed uri language => Act.ofExcept (freshness.documentChanged uri language)
  | .aboutToSave uri language => return (← freshness.willSave uri language).2
  | .saved uri => return freshness.settled uri
  | .closed uri => return freshness.settled uri
  | .succeeded kind => return freshness.renew kind

def Edits (uri : Text) : Event → Prop
  | .changed other language => other = uri ∧ isSource uri language = true
  | _ => False

def Settles (uri : Text) : Event → Prop
  | .saved other => other = uri
  | .closed other => other = uri
  | _ => False

end Event

def experience : Freshness → List Event → Act Freshness
  | freshness, [] => return freshness
  | freshness, event :: rest => do
    match ← Act.attempt (event.tell freshness) with
    | .ok later => experience later rest
    | .error _ => experience freshness rest

def Edited (uri : Text) : List Event → Prop :=
  Standing (fun _ event => event.Edits uri) fun _ event => event.Settles uri

/-- After some events, an event makes results outdated: the configuration changes, or a document that is
source is about to be saved and has been edited. -/
def Invalidates (before : List Event) : Event → Prop
  | .configured => True
  | .aboutToSave uri language => isSource uri language = true ∧ Edited uri before
  | _ => False

/-- The results of a kind have been made outdated since the last time that new ones were made. -/
def Outdated (kind : Report) : List Event → Prop :=
  Standing Invalidates fun _ event => event = .succeeded kind

def next (freshness : Freshness) : Event → Freshness
  | .configured => freshness.outdateAll
  | .changed uri language =>
      if isSource uri language then { freshness with modified := freshness.modified.insert uri } else freshness
  | .aboutToSave uri language =>
      if isSource uri language && freshness.hasChanges uri then freshness.outdateAll else freshness
  | .saved uri => freshness.settled uri
  | .closed uri => freshness.settled uri
  | .succeeded kind => freshness.renew kind

def Raises (freshness : Freshness) : Event → Prop
  | .configured => True
  | .aboutToSave uri language => isSource uri language = true ∧ freshness.hasChanges uri = true
  | _ => False

theorem isSource_of_read {uri : Text} {language : Option String} {source : Bool}
    (read : isLogtalk uri language = .ok source) : isSource uri language = source := by
  simp only [isSource, read]

theorem isSource_of_unread {uri : Text} {language : Option String} {failure : Failure}
    (unread : isLogtalk uri language = .error failure) : isSource uri language = false := by
  simp only [isSource, unread]

theorem documentChanged_ends (freshness : Freshness) (uri : Text) (language : Option String) :
    ((∃ failure, freshness.documentChanged uri language = .error failure) ∧
        freshness.next (.changed uri language) = freshness) ∨
      freshness.documentChanged uri language = .ok (freshness.next (.changed uri language)) := by
  unfold documentChanged
  cases read : isLogtalk uri language with
  | error failure => exact .inl ⟨⟨failure, rfl⟩, by simp [next, isSource_of_unread read]⟩
  | ok source =>
      simp only [next, isSource_of_read read]
      cases source <;> exact .inr rfl

theorem willSave_ends (freshness : Freshness) (uri : Text) (language : Option String) (world : World) :
    (∃ failure, isLogtalk uri language = .error failure ∧
        freshness.willSave uri language world = .error failure world) ∨
      ∃ source log, isLogtalk uri language = .ok source ∧ freshness.willSave uri language world =
        .ok (isSource uri language && freshness.hasChanges uri, freshness.next (.aboutToSave uri language))
          { world with log } := by
  unfold willSave
  cases read : isLogtalk uri language with
  | error failure => exact .inl ⟨failure, rfl, rfl⟩
  | ok source =>
      have ran : Act.ofExcept (.ok source) world = .ok source world := rfl
      rw [Act.bind_ran ran]
      simp only [next, isSource_of_read read]
      cases source && freshness.hasChanges uri with
      | true => exact .inr ⟨source, _, rfl, rfl⟩
      | false => exact .inr ⟨source, world.log, rfl, rfl⟩

theorem tell_ends (freshness : Freshness) (event : Event) (world : World) :
    (∃ failure, event.tell freshness world = .error failure world ∧ freshness.next event = freshness) ∨
      ∃ log, event.tell freshness world = .ok (freshness.next event) { world with log } := by
  cases event with
  | configured => exact .inr ⟨_, rfl⟩
  | changed uri language =>
      rcases freshness.documentChanged_ends uri language with ⟨⟨failure, failed⟩, same⟩ | changed
      · exact .inl ⟨failure, by rw [Event.tell, failed]; rfl, same⟩
      · exact .inr ⟨world.log, by rw [Event.tell, changed]; rfl⟩
  | aboutToSave uri language =>
      rcases freshness.willSave_ends uri language world with
        ⟨failure, unread, failed⟩ | ⟨source, log, _, answered⟩
      · refine .inl ⟨failure, Act.bind_failed failed _, ?_⟩
        simp [next, isSource_of_unread unread]
      · exact .inr ⟨log, Act.bind_ran answered _⟩
  | saved uri | closed uri | succeeded kind => exact .inr ⟨world.log, rfl⟩

theorem experience_ran (freshness : Freshness) (events : List Event) (world : World) :
    ∃ log, freshness.experience events world = .ok (events.foldl next freshness) { world with log } := by
  induction events generalizing freshness world with
  | nil => exact ⟨world.log, rfl⟩
  | cons event rest ih =>
      rw [experience, List.foldl_cons]
      rcases freshness.tell_ends event world with ⟨failure, failed, same⟩ | ⟨log, told⟩
      · rw [Act.bind_ran (Act.attempt_failed failed), same]
        exact ih freshness world
      · rw [Act.bind_ran (Act.attempt_ran told)]
        exact ih _ { world with log }

theorem mem_watched_outdate (freshness : Freshness) (kind other : Report) :
    other ∈ (freshness.outdate kind).watched ↔ other = kind ∨ other ∈ freshness.watched :=
  List.mem_insert_iff

theorem isOutdated_outdate (freshness : Freshness) (kind other : Report) :
    (freshness.outdate kind).isOutdated other = true ↔
      other = kind ∨ freshness.isOutdated other = true := by
  simp [isOutdated, outdate, watch]

theorem outdate_all (kinds : List Report) (freshness : Freshness) :
    (kinds.foldl outdate freshness).modified = freshness.modified ∧
      ∀ kind, (kind ∈ (kinds.foldl outdate freshness).watched ↔ kind ∈ kinds ∨ kind ∈ freshness.watched) ∧
        ((kinds.foldl outdate freshness).isOutdated kind = true ↔
          kind ∈ kinds ∨ freshness.isOutdated kind = true) := by
  induction kinds generalizing freshness with
  | nil => simp
  | cons first rest ih =>
      obtain ⟨modified, flags⟩ := ih (freshness.outdate first)
      refine ⟨modified, fun kind => ?_⟩
      rw [List.foldl_cons, (flags kind).1, (flags kind).2, mem_watched_outdate, isOutdated_outdate,
        List.mem_cons]
      constructor
      · exact or_left_comm.trans or_assoc.symm
      · exact or_left_comm.trans or_assoc.symm

@[simp] theorem modified_outdateAll (freshness : Freshness) :
    freshness.outdateAll.modified = freshness.modified :=
  (outdate_all freshness.watched freshness).1

@[simp] theorem mem_watched_outdateAll (freshness : Freshness) (kind : Report) :
    kind ∈ freshness.outdateAll.watched ↔ kind ∈ freshness.watched :=
  ((outdate_all freshness.watched freshness).2 kind).1.trans or_self_iff

theorem isOutdated_outdateAll (freshness : Freshness) (kind : Report) :
    freshness.outdateAll.isOutdated kind = true ↔
      kind ∈ freshness.watched ∨ freshness.isOutdated kind = true :=
  ((outdate_all freshness.watched freshness).2 kind).2

theorem mem_watched_next {freshness : Freshness} {kind : Report} (event : Event)
    (watched : kind ∈ freshness.watched) : kind ∈ (freshness.next event).watched := by
  cases event with
  | configured => exact (freshness.mem_watched_outdateAll kind).mpr watched
  | changed uri language =>
      simp only [next]
      split <;> exact watched
  | aboutToSave uri language =>
      simp only [next]
      split
      · exact (freshness.mem_watched_outdateAll kind).mpr watched
      · exact watched
  | saved uri | closed uri => exact watched
  | succeeded other => exact List.mem_insert_of_mem watched

theorem hasChanges_settled (freshness : Freshness) (uri other : Text) :
    (freshness.settled other).hasChanges uri = true ↔ freshness.hasChanges uri = true ∧ other ≠ uri := by
  simp [hasChanges, settled, ne_comm]

theorem hasChanges_next (freshness : Freshness) (uri : Text) (event : Event) :
    (freshness.next event).hasChanges uri = true ↔
      event.Edits uri ∨ (freshness.hasChanges uri = true ∧ ¬ event.Settles uri) := by
  cases event with
  | configured => simp [next, hasChanges, Event.Edits, Event.Settles]
  | changed other language =>
      by_cases same : other = uri
      · subst same
        cases source : isSource other language <;> simp [next, hasChanges, Event.Edits, Event.Settles, source]
      · cases source : isSource other language <;>
          simp [next, hasChanges, Event.Edits, Event.Settles, source, same, Ne.symm same]
  | aboutToSave other language =>
      simp only [next]
      split <;> simp [hasChanges, Event.Edits, Event.Settles]
  | saved other | closed other =>
      simp only [next, hasChanges_settled, Event.Edits, Event.Settles, false_or, ne_eq]
  | succeeded kind => simp [next, renew, watch, hasChanges, Event.Edits, Event.Settles]

theorem isOutdated_renew (freshness : Freshness) (kind other : Report) :
    (freshness.renew other).isOutdated kind = true ↔ freshness.isOutdated kind = true ∧ other ≠ kind := by
  simp [isOutdated, renew, watch, ne_comm]

theorem isOutdated_next {freshness : Freshness} {kind : Report} (watched : kind ∈ freshness.watched)
    (event : Event) : (freshness.next event).isOutdated kind = true ↔
      freshness.Raises event ∨ (freshness.isOutdated kind = true ∧ event ≠ .succeeded kind) := by
  have raised : freshness.outdateAll.isOutdated kind = true :=
    (freshness.isOutdated_outdateAll kind).mpr (.inl watched)
  cases event with
  | configured => exact iff_of_true raised (.inl trivial)
  | changed uri language =>
      simp only [next]
      split <;> simp [Raises, isOutdated]
  | aboutToSave uri language =>
      simp only [next]
      split
      case isTrue both => exact iff_of_true raised (.inl (by simpa [Raises] using both))
      case isFalse either =>
        have calm : ¬ freshness.Raises (.aboutToSave uri language) := by simpa [Raises] using either
        simp [calm]
  | saved uri | closed uri => simp [next, settled, Raises, isOutdated]
  | succeeded other => simp [next, isOutdated_renew, Raises]

theorem mem_watched_history (events : List Event) (kind : Report) :
    kind ∈ (events.foldl next ({} : Freshness)).watched := by
  induction events using List.reverseRecOn with
  | nil => cases kind <;> decide
  | append_singleton events event ih =>
      rw [List.foldl_append, List.foldl_cons, List.foldl_nil]
      exact mem_watched_next event ih

theorem hasChanges_history (events : List Event) (uri : Text) :
    (events.foldl next ({} : Freshness)).hasChanges uri = true ↔ Edited uri events := by
  refine flag_iff_standing (fun events => (events.foldl next ({} : Freshness)).hasChanges uri = true)
    ?_ ?_ events
  · exact Bool.false_ne_true
  · intro events event
    rw [List.foldl_append, List.foldl_cons, List.foldl_nil]
    exact hasChanges_next _ uri event

theorem raises_history (events : List Event) (event : Event) :
    (events.foldl next ({} : Freshness)).Raises event ↔ Invalidates events event := by
  cases event with
  | aboutToSave uri language => exact and_congr_right fun _ => hasChanges_history events uri
  | configured | changed | saved | closed | succeeded => rfl

theorem isOutdated_history (events : List Event) (kind : Report) :
    (events.foldl next ({} : Freshness)).isOutdated kind = true ↔ Outdated kind events := by
  refine flag_iff_standing (fun events => (events.foldl next ({} : Freshness)).isOutdated kind = true)
    ?_ ?_ events
  · exact Bool.false_ne_true
  · intro events event
    rw [List.foldl_append, List.foldl_cons, List.foldl_nil, isOutdated_next (mem_watched_history events kind),
      raises_history]

theorem titled_iff (freshness : Freshness) (title : Text) (kind : Report) (uri : Text) :
    (freshness.titled title kind uri = title ++ outdatedMark ↔
        freshness.isOutdated kind = true ∨ freshness.hasChanges uri = true) ∧
      (freshness.titled title kind uri = title ↔
        ¬ (freshness.isOutdated kind = true ∨ freshness.hasChanges uri = true)) := by
  have filled : outdatedMark ≠ [] := by decide
  have marked : title ++ outdatedMark ≠ title := fun same => filled (List.append_right_eq_self.mp same)
  unfold titled
  split
  case isTrue old =>
    rw [Bool.or_eq_true] at old
    exact ⟨iff_of_true rfl old, iff_of_false marked (not_not_intro old)⟩
  case isFalse new =>
    rw [Bool.or_eq_true] at new
    exact ⟨iff_of_false marked.symm new, iff_of_true rfl new⟩

/-- What is known after any events, however they failed. Results of a kind are outdated exactly if something has
invalidated them since new ones were last made. A document has changes exactly if the last event that edits,
saves or closes it edits it. An event before a save says that it makes results outdated exactly if it does: then
all kinds are, and otherwise nothing changes. A title is marked exactly if its kind is outdated or its document
has changes. -/
theorem decided_by_history (events : List Event) (world : World) :
    ∃ freshness log, experience {} events world = .ok freshness { world with log } ∧
      (∀ kind, freshness.isOutdated kind = true ↔ Outdated kind events) ∧
      (∀ uri, freshness.hasChanges uri = true ↔ Edited uri events) ∧
      (∀ uri language world,
        (∃ failure, isLogtalk uri language = .error failure ∧
            freshness.willSave uri language world = .error failure world) ∨
          ∃ answer later log, freshness.willSave uri language world = .ok (answer, later) { world with log } ∧
            (answer = true ↔ Invalidates events (.aboutToSave uri language)) ∧
            (answer = true → later.modified = freshness.modified ∧ ∀ kind, later.isOutdated kind = true) ∧
            (answer = false → later = freshness)) ∧
      ∀ title kind uri,
        (freshness.titled title kind uri = title ++ outdatedMark ↔ Outdated kind events ∨ Edited uri events) ∧
          (freshness.titled title kind uri = title ↔ ¬ (Outdated kind events ∨ Edited uri events)) := by
  obtain ⟨log, ran⟩ := experience_ran {} events world
  refine ⟨_, log, ran, isOutdated_history events, hasChanges_history events, ?_, ?_⟩
  · intro uri language world
    rcases willSave_ends (events.foldl next {}) uri language world with failed | ⟨source, log, _, answered⟩
    · exact .inl failed
    · refine .inr ⟨_, _, log, answered, ?_, ?_, ?_⟩
      · rw [← raises_history, Raises, Bool.and_eq_true]
      · intro raised
        simp only [next, raised, ↓reduceIte]
        refine ⟨modified_outdateAll _, fun kind => ?_⟩
        exact (isOutdated_outdateAll _ kind).mpr (.inl (mem_watched_history events kind))
      · intro calm
        simp [next, calm]
  · intro title kind uri
    rw [← isOutdated_history, ← hasChanges_history]
    exact titled_iff _ title kind uri

end Freshness

end LogtalkNavigation
