import LogtalkNavigation.Proofs.Artifact.Taking
import LogtalkNavigation.Proofs.Record.Fitness
import LogtalkNavigation.Proofs.Service.Jobs
import LogtalkNavigation.Service.Handlers

/-! Which failures cross the boundary of the service. A request answers with nothing when the service, the
engine or the operating system fails. The main theorem says exactly when it is ended by another failure
all the same: when it cannot be made out of what the client sent, when its workspace has a name that no
call on files takes, when the engine is ended by such a failure, and when what the engine left cannot be
shown. -/

namespace LogtalkNavigation

open Act Hierarchy

def Request.Unshowable (request : Request) (disk : Disk) (content : List UInt8) : Prop :=
  let lines := Text.lines (Utf8.decode content)
  match request.kind with
  | .incomingCalls => Record.stop? .callers lines ≠ none ∨
      ∃ record ∈ Record.latest callKey (calls (Record.recorded .callers lines)),
        CallUnplaced disk record ∨
          SiteUnplaced disk (Path.ofText record.file, record.line, request.symbol)
  | .outgoingCalls => Record.stop? .callees lines ≠ none ∨
      ∃ record ∈ Record.latest callKey (calls (Record.recorded .callees lines)),
        CallUnplaced disk record ∨ SiteUnplaced disk (request.file, request.line + 1, record.name)
  | .supertypes => Record.stop? .ancestors lines ≠ none ∨
      ∃ record ∈ Record.latest entityKey (entities (Record.recorded .ancestors lines)),
        EntityUnplaced disk record
  | .subtypes => Record.stop? .descendants lines ≠ none ∨
      ∃ record ∈ Record.latest entityKey (entities (Record.recorded .descendants lines)),
        EntityUnplaced disk record
  | .references => Record.Faulty .references UnplacedLocation lines
  | .typeDefinition => DefinitionUnplaced lines

theorem shows_answer (disk : Disk) (request : Request) (content : List UInt8) :
    Shows disk (request.answer content) (request.Unshowable disk content) fun _ => True := by
  obtain ⟨kind, file, line, character, symbol⟩ := request
  cases kind with
  | incomingCalls =>
      refine shows_bind (Record.shows_ofText .callers _) fun records same => ?_
      subst same
      exact Shows.congr (shows_bind (shows_incomingCalls disk symbol _) fun found _ =>
        shows_pure _ _ trivial) (iff_of_eq (or_false _))
  | outgoingCalls =>
      refine shows_bind (Record.shows_ofText .callees _) fun records same => ?_
      subst same
      exact Shows.congr (shows_bind (shows_outgoingCalls disk file (line + 1) _) fun found _ =>
        shows_pure _ _ trivial) (iff_of_eq (or_false _))
  | supertypes =>
      refine shows_bind (Record.shows_ofText .ancestors _) fun records same => ?_
      subst same
      exact Shows.congr (shows_bind (shows_typeItems disk _
        (Record.typed_of_fit fun _ => Record.fit_of_recorded)) fun found _ => shows_pure _ _ trivial)
          (iff_of_eq (or_false _))
  | subtypes =>
      refine shows_bind (Record.shows_ofText .descendants _) fun records same => ?_
      subst same
      exact Shows.congr (shows_bind (shows_typeItems disk _
        (Record.typed_of_fit fun _ => Record.fit_of_recorded)) fun found _ => shows_pure _ _ trivial)
          (iff_of_eq (or_false _))
  | references =>
      exact Shows.congr (shows_bind (shows_placesOfText disk _) fun found _ => shows_pure _ _ trivial)
        (iff_of_eq (or_false _))
  | typeDefinition =>
      exact Shows.congr (shows_bind (shows_typeDefinitionOfText disk _) fun found _ =>
        shows_pure _ _ trivial) (iff_of_eq (or_false _))

def Office.sessionOf (office : Office) (root : Path) : Session :=
  (office.sessions.lookup root).getD ⟨office.made, root, office.settings.engine⟩

namespace Job

variable {α β : Type}

def Raises (job : Job α) (office : Office) : Prop :=
  ∃ failure later, job office = .error failure later ∧ failure.isContained = false

theorem sessionFor_ran (root : Path) (office : Office) :
    ∃ later, sessionFor root office = .ok (office.sessionOf root) later ∧ later.world = office.world ∧
      later.sessions.lookup root = some (office.sessionOf root) := by
  have read : (get : Job Office) office = .ok office office := rfl
  unfold sessionFor engineFor Office.sessionOf
  rw [bind_ran read]
  cases found : office.sessions.lookup root with
  | some session => exact ⟨office, rfl, rfl, found⟩
  | none =>
      let session : Session := ⟨office.made, root, office.settings.engine⟩
      refine ⟨{ office with sessions := office.sessions ++ [(root, session)], made := office.made + 1 },
        rfl, rfl, ?_⟩
      simp [List.lookup_append, found, session]

end Job

namespace Errand

open Job

variable {errand : Errand} {office later : Office}

theorem contain_ran {work : Job Answer} {answer : Answer} (ran : work office = .ok answer later) :
    errand.contain work office = .ok answer later := by
  unfold contain
  rw [bind_ran (Job.attempt_ran ran)]
  rfl

theorem contain_contained {work : Job Answer} {failure : Failure} {feature : String}
    (named : errand.feature = some feature) (failed : work office = .error failure later)
    (contained : failure.isContained = true) :
    ∃ log, errand.contain work office =
      .ok errand.emptyAnswer { later with world := { later.world with log } } := by
  unfold contain
  rw [bind_ran (Job.attempt_failed failed), named]
  dsimp only
  rw [if_pos contained]
  exact ⟨_, rfl⟩

theorem contain_escaped {work : Job Answer} {failure : Failure}
    (failed : work office = .error failure later) (escapes : failure.isContained = false) :
    errand.contain work office = .error failure later := by
  unfold contain
  rw [bind_ran (Job.attempt_failed failed)]
  cases errand.feature with
  | none => rfl
  | some feature =>
      dsimp only
      rw [escapes]
      rfl

theorem contain_fails_iff {feature : String} (named : errand.feature = some feature)
    (work : Job Answer) (office : Office) :
    (∃ failure later, errand.contain work office = .error failure later) ↔ Raises work office := by
  cases worked : work office with
  | ok answer later =>
      rw [contain_ran worked]
      simp [Raises, worked]
  | error failure later =>
      cases contained : failure.isContained with
      | true =>
          obtain ⟨after, answered⟩ := contain_contained named worked contained
          rw [answered]
          simp [Raises, worked, contained]
      | false =>
          rw [contain_escaped worked contained]
          simp [Raises, worked, contained]

-- What is left of an errand when the engine is done with it: its ending is a failure exactly if `work`
-- raises one.
theorem finish_ends {feature : String} (named : errand.feature = some feature) (work : Job Answer)
    (office : Office) :
    ∃ result later, (do return .ended (← Job.attempt (errand.contain work)) : Job Progress) office =
        .ok (.ended result) later ∧
      ((∃ failure, result = .error failure) ↔ Raises work office) := by
  have fails := contain_fails_iff named work office
  cases worked : errand.contain work office with
  | ok answer later =>
      refine ⟨.ok answer, later, bind_ran (Job.attempt_ran worked) _, ?_⟩
      rw [← fails, worked]
      simp
  | error failure later =>
      refine ⟨.error failure, later, bind_ran (Job.attempt_failed worked) _, ?_⟩
      rw [← fails, worked]
      simp

def ending (errand : Errand) (runner : Runner) (office : Office) : Option (Except Failure Answer) :=
  match errand.proceed (errand.launch runner) office with
  | .ok (.ended result) _ => some result
  | .ok (.asleep _) _ => none
  | .error failure _ => some (.error failure)

theorem ending_fails_iff {feature : String} (named : errand.feature = some feature) (runner : Runner)
    (office : Office) :
    (∃ failure, errand.ending runner office = some (.error failure)) ↔
      Raises (errand.launch runner) office ∨
        ∃ later, errand.launch runner office = .ok none later ∧ Raises errand.conclude later := by
  unfold ending proceed
  cases worked : errand.launch runner office with
  | error failure later =>
      obtain ⟨result, last, ended, fails⟩ := finish_ends named (throw failure) later
      rw [bind_ran (Job.attempt_failed worked)]
      dsimp only
      rw [ended]
      have thrown : (throw failure : Job Answer) later = .error failure later := rfl
      simp only [Option.some.injEq, fails, Raises, worked, thrown]
      simp
  | ok found later =>
      rw [bind_ran (Job.attempt_ran worked)]
      cases found with
      | some run => simp [Raises, worked, pure, EStateM.pure]
      | none =>
          obtain ⟨result, last, ended, fails⟩ := finish_ends named errand.conclude later
          dsimp only
          rw [ended]
          simp only [Option.some.injEq, fails, Raises, worked]
          simp

section Fetch
variable (request : Request) (root : Path)

def RootChokes (disk : Disk) : Prop := Artifact.TakeChokes disk (artifactOf request root)

theorem artifactOf_eq : artifactOf request root = root.child request.kind.artifact.resultName :=
  Path.join_name root request.kind.artifact.resultName

theorem prepare_ends (office : Office) :
    (RootChokes request root office.world.disk ∧ Raises (prepare request root) office) ∨
      (¬ RootChokes request root office.world.disk ∧
        (('\x00' ∉ (artifactOf request root).text ∧
            ∃ session later, prepare request root office = .ok session later) ∨
          ∃ error later, prepare request root office = .error (.os error) later)) := by
  have last : (artifactOf request root).name? = some request.kind.artifact.resultName := by
    rw [artifactOf_eq, Path.name?_child]
  unfold prepare
  rcases Artifact.take_ends _ _ last office.world with
    ⟨chokes, world, failed⟩ | ⟨fine, ⟨clean, found, world, taken⟩ | ⟨error, world, failed⟩⟩
  · exact .inl ⟨chokes, _, _, bind_failed (act_failed failed) _, rfl⟩
  · refine .inr ⟨fine, .inl ⟨clean, ?_⟩⟩
    rw [bind_ran (act_ran taken)]
    split
    · obtain ⟨later, seated, _⟩ := sessionFor_ran root _
      exact ⟨_, later, seated⟩
    · obtain ⟨later, seated, _⟩ := sessionFor_ran root _
      exact ⟨_, later, seated⟩
  · exact .inr ⟨fine, .inr ⟨error, _, bind_failed (act_failed failed) _⟩⟩

theorem withEngine_ran {errand : Errand} {work : Act (Option Run)} {found : Option Run}
    {world after : World} (ran : work world = .ok found after) :
    errand.withEngine work world = .ok found after := by
  unfold withEngine
  rw [bind_ran (Act.attempt_ran ran)]
  rfl

theorem withEngine_failed {work : Act (Option Run)} {failure : Failure} {world after : World}
    (clean : '\x00' ∉ (artifactOf request root).text) (failed : work world = .error failure after) :
    ∃ later, (Errand.fetch request (some root)).withEngine work world = .error failure later := by
  unfold withEngine
  rw [bind_ran (Act.attempt_failed failed)]
  dsimp only
  split
  · obtain ⟨later, removed⟩ := Artifact.discard_ends (artifactOf request root) after clean
    have discarded : ∃ later, discardResult (.fetch request (some root)) after = .ok () later :=
      ⟨_, bind_ran removed _⟩
    obtain ⟨last, gone⟩ := discarded
    exact ⟨last, bind_ran gone _⟩
  · exact ⟨after, rfl⟩

def run (runner : Runner) (session : Session) : Act (Option Run) :=
  runner session (Goal.ofRequest request session.root)
    (sentinelOf request.kind.artifact session.root)

theorem launch_fetch (runner : Runner) : (Errand.fetch request (some root)).launch runner =
    prepare request root >>= fun session =>
      Job.act ((Errand.fetch request (some root)).withEngine (run request runner session)) := by
  funext office
  rfl

theorem launch_raises_iff (runner : Runner) (office : Office) :
    Raises ((Errand.fetch request (some root)).launch runner) office ↔
      RootChokes request root office.world.disk ∨
        ∃ session later, prepare request root office = .ok session later ∧
          ∃ failure after, run request runner session later.world = .error failure after ∧
            failure.isContained = false := by
  rw [launch_fetch]
  rcases prepare_ends request root office with
    ⟨chokes, failure, later, failed, escapes⟩ |
      ⟨fine, ⟨clean, session, later, prepared⟩ | ⟨error, later, failed⟩⟩
  · exact iff_of_true ⟨failure, later, bind_failed failed _, escapes⟩ (.inl chokes)
  · have only : (∃ other next, prepare request root office = .ok other next ∧
        ∃ failure after, run request runner other next.world = .error failure after ∧
          failure.isContained = false) ↔
          ∃ failure after, run request runner session later.world = .error failure after ∧
            failure.isContained = false := by
      rw [prepared]
      constructor
      · rintro ⟨_, _, same, rest⟩
        cases same
        exact rest
      · exact fun rest => ⟨session, later, rfl, rest⟩
    rw [only, Raises, bind_ran prepared]
    cases ran : run request runner session later.world with
    | ok found after =>
        rw [act_ran (withEngine_ran ran)]
        simp [fine]
    | error failure after =>
        obtain ⟨last, failed⟩ := withEngine_failed request root clean ran
        rw [act_failed failed]
        simp [fine]
  · refine iff_of_false ?_ ?_
    · rintro ⟨other, next, ended, escapes⟩
      rw [bind_failed failed] at ended
      cases ended
      cases escapes
    · rintro (chokes | ⟨session, next, prepared, _⟩)
      · exact fine chokes
      · rw [failed] at prepared
        cases prepared

theorem launch_found_iff (runner : Runner) (office later : Office) :
    (Errand.fetch request (some root)).launch runner office = .ok none later ↔
      ∃ session middle world, prepare request root office = .ok session middle ∧
        run request runner session middle.world = .ok none world ∧ later = { middle with world } := by
  rw [launch_fetch]
  constructor
  · intro found
    rcases prepare_ends request root office with
      ⟨_, failure, next, failed, _⟩ | ⟨_, ⟨clean, session, middle, prepared⟩ | ⟨error, next, failed⟩⟩
    · rw [bind_failed failed] at found
      cases found
    · rw [bind_ran prepared] at found
      cases ran : run request runner session middle.world with
      | ok result world =>
          rw [act_ran (withEngine_ran ran)] at found
          cases found
          exact ⟨session, middle, world, prepared, ran, rfl⟩
      | error failure world =>
          obtain ⟨last, failed⟩ := withEngine_failed request root clean ran
          rw [act_failed failed] at found
          cases found
    · rw [bind_failed failed] at found
      cases found
  · rintro ⟨session, middle, world, prepared, ran, rfl⟩
    rw [bind_ran prepared, act_ran (withEngine_ran ran)]

theorem collect_ran {office : Office} {found : Option (List UInt8)} {world : World}
    (taken : Artifact.take (artifactOf request root) office.world = .ok found world) :
    ∃ log, collect request root office = .ok found { office with world := { world with log } } := by
  unfold collect
  dsimp only
  rw [bind_ran (act_ran taken)]
  cases found with
  | none => exact ⟨_, rfl⟩
  | some content => exact ⟨_, rfl⟩

theorem collect_failed {office : Office} {failure : Failure} {world : World}
    (failed : Artifact.take (artifactOf request root) office.world = .error failure world) :
    collect request root office = .error failure { office with world } := by
  unfold collect
  exact bind_failed (act_failed failed) _

theorem conclude_raises_iff (office : Office) (clean : '\x00' ∉ (artifactOf request root).text) :
    Raises (Errand.fetch request (some root)).conclude office ↔
      ∃ content world, Artifact.take (artifactOf request root) office.world = .ok (some content) world ∧
        request.Unshowable world.disk content := by
  have last : (artifactOf request root).name? = some request.kind.artifact.resultName := by
    rw [artifactOf_eq, Path.name?_child]
  unfold conclude Raises
  dsimp only
  rcases Artifact.take_ends _ _ last office.world with
    ⟨chokes, _⟩ | ⟨_, ⟨_, found, world, taken⟩ | ⟨error, world, failed⟩⟩
  · exact absurd chokes.1 clean
  · obtain ⟨log, collected⟩ := collect_ran request root taken
    rw [bind_ran collected, taken]
    cases found with
    | none =>
        refine iff_of_false ?_ ?_
        · rintro ⟨failure, next, ended, _⟩
          cases ended
        · rintro ⟨content, next, same, _⟩
          cases same
    | some content =>
        obtain ⟨later, ⟨bad, failure, escapes, failed⟩ | ⟨fine, answer, _, answered⟩⟩ :=
          shows_answer world.disk request content { world with log } rfl
        · exact iff_of_true ⟨failure, _, act_failed failed, escapes⟩ ⟨content, world, rfl, bad⟩
        · refine iff_of_false ?_ ?_
          · rintro ⟨failure, next, ended, _⟩
            cases ended.symm.trans (act_ran answered)
          · rintro ⟨other, next, same, bad⟩
            cases same
            exact fine bad
  · rw [bind_failed (collect_failed request root failed), failed]
    refine iff_of_false ?_ ?_
    · rintro ⟨other, next, ended, escapes⟩
      cases ended
      cases escapes
    · rintro ⟨content, next, same, _⟩
      cases same

/-- The request is ended by a failure that is not contained. Either its workspace has a name that no call
on files takes, or the engine ends with such a failure, or it leaves an artifact that cannot be shown. -/
def Breaks (runner : Runner) (office : Office) : Prop :=
  RootChokes request root office.world.disk ∨
    ∃ session later, prepare request root office = .ok session later ∧
      ((∃ failure after, run request runner session later.world = .error failure after ∧
          failure.isContained = false) ∨
        ∃ world content after, run request runner session later.world = .ok none world ∧
          Artifact.take (artifactOf request root) world = .ok (some content) after ∧
          request.Unshowable after.disk content)

theorem fetch_fails_iff (runner : Runner) (office : Office) :
    (∃ failure, (Errand.fetch request (some root)).ending runner office = some (.error failure)) ↔
      Breaks request root runner office := by
  rw [ending_fails_iff rfl, launch_raises_iff]
  have clean {session later} (prepared : prepare request root office = .ok session later) :
      '\x00' ∉ (artifactOf request root).text := by
    rcases prepare_ends request root office with
      ⟨_, _, _, failed, _⟩ | ⟨_, ⟨clean, _⟩ | ⟨_, _, failed⟩⟩
    · cases failed.symm.trans prepared
    · exact clean
    · cases failed.symm.trans prepared
  constructor
  · rintro ((chokes | ⟨session, later, prepared, failed⟩) | ⟨later, found, raises⟩)
    · exact .inl chokes
    · exact .inr ⟨session, later, prepared, .inl failed⟩
    · obtain ⟨session, middle, world, prepared, ran, rfl⟩ :=
        (launch_found_iff request root runner office later).mp found
      obtain ⟨content, after, taken, bad⟩ :=
        (conclude_raises_iff request root _ (clean prepared)).mp raises
      exact .inr ⟨session, middle, prepared, .inr ⟨world, content, after, ran, taken, bad⟩⟩
  · rintro (chokes | ⟨session, later, prepared, failed | ⟨world, content, after, ran, taken, bad⟩⟩)
    · exact .inl (.inl chokes)
    · exact .inl (.inr ⟨session, later, prepared, failed⟩)
    · refine .inr ⟨{ later with world }, ?_, ?_⟩
      · exact (launch_found_iff request root runner office _).mpr
          ⟨session, later, world, prepared, ran, rfl⟩
      · exact (conclude_raises_iff request root _ (clean prepared)).mpr ⟨content, after, taken, bad⟩

end Fetch

end Errand

def Cursor.OverlongArity (document : Text) (line character : Int) : Prop :=
  ∃ word digits, ((row? (Text.rows document) line).bind fun row => touched? character (calls row)) = some word ∧
    isVariableName word.text = false ∧
    writtenArity? ((remainder (Text.rows document) line.toNat word.start).drop word.text.length) = some digits ∧
    maxDigits < digits.length

theorem Cursor.arityOf_ends (behind : Text) :
    ((∃ digits, writtenArity? behind = some digits ∧ maxDigits < digits.length) ∧
        ∃ failure, arityOf behind = .error failure) ∨
      ((¬ ∃ digits, writtenArity? behind = some digits ∧ maxDigits < digits.length) ∧
        ∃ arity, arityOf behind = .ok arity) := by
  unfold arityOf
  split
  · refine .inr ⟨?_, _, rfl⟩
    rintro ⟨digits, written, _⟩
    cases written
  · cases written : writtenArity? behind with
    | none =>
        refine .inr ⟨?_, 0, rfl⟩
        rintro ⟨digits, same, _⟩
        cases same
    | some digits =>
        by_cases long : maxDigits < digits.length
        · exact .inl ⟨⟨digits, rfl, long⟩, _, if_pos long⟩
        · refine .inr ⟨?_, _, if_neg long⟩
          rintro ⟨_, same, overlong⟩
          cases same
          exact long overlong

theorem Cursor.call?_ends (document : Text) (line character : Int) :
    (OverlongArity document line character ∧
        ∃ failure, call? document line character = .error failure) ∨
      (¬ OverlongArity document line character ∧ ∃ found, call? document line character = .ok found) := by
  unfold OverlongArity call?
  dsimp only
  cases touched : (row? (Text.rows document) line).bind fun row => touched? character (calls row) with
  | none =>
      refine .inr ⟨?_, none, rfl⟩
      rintro ⟨word, _, same, _⟩
      cases same
  | some word =>
      cases variable_ : isVariableName word.text with
      | true =>
          refine .inr ⟨?_, none, by simp only [variable_]; rfl⟩
          rintro ⟨_, _, same, named, _⟩
          cases same
          cases variable_.symm.trans named
      | false =>
          dsimp only
          simp only [variable_, Bool.false_eq_true, if_false]
          rcases arityOf_ends ((remainder (Text.rows document) line.toNat word.start).drop word.text.length)
            with ⟨⟨digits, written, long⟩, failure, failed⟩ | ⟨short, arity, found⟩
          · exact .inl ⟨⟨word, digits, rfl, variable_, written, long⟩, failure, by rw [failed]; rfl⟩
          · refine .inr ⟨?_, _, by rw [found]; rfl⟩
            rintro ⟨_, digits, same, _, written, long⟩
            cases same
            exact short ⟨digits, written, long⟩

inductive Entry where
  | related (kind : Query) (item : Item)
  | references (p : Path) (document : Text) (position : Position)
  | typeDefinition (p : Path) (document : Text) (position : Position)

namespace Entry

variable (entry : Entry) (root : Option Path)

def reply : Except Failure Reply :=
  match entry with
  | .related kind item => Reply.related kind item root
  | .references p document position => Reply.references p document position root
  | .typeDefinition p document position => .ok (Reply.typeDefinition p document position root)

def outcome (runner : Errand.Runner) (office : Office) : Option (Except Failure Answer) :=
  match entry.reply root with
  | .error failure => some (.error failure)
  | .ok (.now answer) => some (.ok answer)
  | .ok (.errand errand) => errand.ending runner office

def Unaskable : Prop :=
  match entry with
  | .related _ item => ∃ fault, Uri.toPath item.uri = .error fault
  | .references _ document position =>
      Cursor.OverlongArity document position.line position.character
  | .typeDefinition _ _ _ => False

theorem reply_ends (entry : Entry) (root : Option Path) :
    (entry.Unaskable ∧ ∃ failure, entry.reply root = .error failure) ∨
      (¬ entry.Unaskable ∧ ((∃ answer, entry.reply root = .ok (.now answer)) ∨
        ∃ request, entry.reply root = .ok (.errand (.fetch request root)))) := by
  cases entry with
  | related kind item =>
      cases found : Uri.toPath item.uri with
      | error fault =>
          refine .inl ⟨⟨fault, found⟩, .uri fault, ?_⟩
          simp only [reply, Reply.related, Request.ofItem, pathOfUri, found]
          rfl
      | ok p =>
          refine .inr ⟨?_, .inr ⟨⟨kind, p, item.range.start.line, item.range.start.character, item.name⟩, ?_⟩⟩
          · rintro ⟨fault, failed⟩
            cases found.symm.trans failed
          · simp only [reply, Reply.related, Request.ofItem, pathOfUri, found]
            rfl
  | references p document position =>
      simp only [reply, Unaskable, Reply.references]
      rcases Cursor.call?_ends document position.line position.character with
        ⟨overlong, failure, failed⟩ | ⟨fine, found, ended⟩
      · exact .inl ⟨overlong, failure, by rw [failed]; rfl⟩
      · refine .inr ⟨fine, ?_⟩
        rw [ended]
        cases found with
        | none => exact .inl ⟨_, rfl⟩
        | some symbol => exact .inr ⟨_, rfl⟩
  | typeDefinition p document position =>
      refine .inr ⟨id, ?_⟩
      simp only [reply, Reply.typeDefinition]
      cases Cursor.entity? document position.line position.character with
      | none => exact .inl ⟨_, rfl⟩
      | some symbol => exact .inr ⟨_, rfl⟩

-- A request is ended by a failure exactly if no request can be made of what the client sent, or its
-- workspace, its engine or its artifact ends it with a failure that is not contained.
theorem boundary_crossed_iff (entry : Entry) (root : Option Path) (runner : Errand.Runner)
    (office : Office) :
    (∃ failure, entry.outcome root runner office = some (.error failure)) ↔
      entry.Unaskable ∨
        ∃ request workspace, entry.reply root = .ok (.errand (.fetch request (some workspace))) ∧
          Errand.Breaks request workspace runner office := by
  unfold outcome
  rcases reply_ends entry root with
    ⟨unaskable, failure, failed⟩ | ⟨askable, ⟨answer, answered⟩ | ⟨request, asked⟩⟩
  · rw [failed]
    exact iff_of_true ⟨failure, rfl⟩ (.inl unaskable)
  · rw [answered]
    refine iff_of_false ?_ ?_
    · rintro ⟨failure, same⟩
      cases same
    · rintro (unaskable | ⟨_, _, same, _⟩)
      · exact askable unaskable
      · cases same
  · rw [asked]
    cases root with
    | none =>
        rw [Errand.ending_fails_iff rfl]
        refine iff_of_false ?_ ?_
        · rintro (⟨failure, later, failed, escapes⟩ | ⟨later, found, _⟩)
          · cases failed
            cases escapes
          · cases found
        · rintro (unaskable | ⟨_, _, same, _⟩)
          · exact askable unaskable
          · cases same
    | some workspace =>
        rw [Errand.fetch_fails_iff]
        constructor
        · exact fun breaks => .inr ⟨request, workspace, rfl, breaks⟩
        · rintro (unaskable | ⟨_, _, same, breaks⟩)
          · exact absurd unaskable askable
          · cases same
            exact breaks

-- The engine writes down a caller in a file whose name has a NUL character.
theorem nul_in_caller_crosses :
    ((Entry.related .incomingCalls
        ⟨['q', '/', '0'], .predicate, "/a".toList, .empty ⟨0, 0⟩, .empty ⟨0, 0⟩, none⟩).outcome
      (some (Path.ofString "/")) (Run.perform false)
      { world := { disk := ⟨[], [], {}⟩, log := ⟨.off, []⟩, machine := { rules := [⟨"callers".toList, false,
          [(Path.ofString "/.vscode_callers", Utf8.encode "Name:p;File:/\x00;Line:1".toList),
            (Path.ofString "/.vscode_callers_done", [])], 0, none⟩] } } }).map Except.isOk = some false := by
  decide +kernel

end Entry

end LogtalkNavigation
