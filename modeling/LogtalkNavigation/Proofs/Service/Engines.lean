import LogtalkNavigation.Proofs.Engine.Succession
import LogtalkNavigation.Proofs.Service.Jobs

/-! The engines of an office. Engines are asked for, settings are read again, and all engines are closed, in any
order and while files and processes change. If engines are made anew each time and can be closed, then the
engines that are held were made with the settings of now, each for the workspace that it is held for, and the
others have been closed once. -/

namespace LogtalkNavigation

open Act

namespace Settings

-- Nothing has changed but the entries of the log.
def OnlyLogs (old new : World) : Prop :=
  new.disk = old.disk ∧ new.machine = old.machine ∧ new.log.threshold = old.log.threshold

theorem onlyLogs_refl (world : World) : OnlyLogs world world := ⟨rfl, rfl, rfl⟩

theorem onlyLogs_trans (first second third : World) (early : OnlyLogs first second)
    (late : OnlyLogs second third) : OnlyLogs first third :=
  ⟨late.1.trans early.1, late.2.1.trans early.2.1, late.2.2.trans early.2.2⟩

theorem add_threshold (log : Log) (level : Level) (message : String) :
    (log.add level message).threshold = log.threshold := by
  unfold Log.add
  split <;> rfl

theorem onlyLogs_note (level : Level) (message : String) : Frames OnlyLogs (note level message) :=
  fun world => ⟨rfl, rfl, add_threshold world.log level message⟩

theorem onlyLogs_ofExcept {α : Type} (value : Except Failure α) : Frames OnlyLogs (Act.ofExcept value) := by
  cases value with
  | ok value => exact frames_pure onlyLogs_refl value
  | error failure => exact frames_throw onlyLogs_refl failure

theorem onlyLogs_ofToml (p : Path) (text : Text) : Frames OnlyLogs (ofToml p text) := by
  unfold ofToml
  split
  · exact frames_pure onlyLogs_refl _
  · exact frames_bind onlyLogs_trans (onlyLogs_note _ _) fun _ => frames_pure onlyLogs_refl _
  · exact frames_throw onlyLogs_refl _

theorem onlyLogs_ofFile (p : Path) : Frames OnlyLogs (ofFile p) := by
  unfold ofFile
  apply frames_bind onlyLogs_trans (frames_disk onlyLogs_refl)
  intro disk
  split
  · exact frames_bind onlyLogs_trans (onlyLogs_ofExcept _) fun text => onlyLogs_ofToml p text
  · split
    · exact frames_bind onlyLogs_trans (onlyLogs_note _ _) fun _ => frames_pure onlyLogs_refl _
    · exact frames_pure onlyLogs_refl _
  · exact frames_throw onlyLogs_refl _

theorem onlyLogs_load (root file : Option Path) (client : Value) :
    Frames OnlyLogs (load root file client) := by
  have configures : Frames OnlyLogs (configuration root file) := by
    unfold configuration
    split
    · exact onlyLogs_ofFile _
    · exact frames_bind onlyLogs_trans (frames_disk onlyLogs_refl) fun disk => onlyLogs_ofFile _
  unfold load
  apply frames_bind onlyLogs_trans configures
  intro entries
  apply frames_bind onlyLogs_trans (onlyLogs_ofExcept _)
  intro arguments
  apply frames_bind onlyLogs_trans (onlyLogs_ofExcept _)
  intro engine
  apply frames_bind onlyLogs_trans (onlyLogs_ofExcept _)
  intro level
  exact frames_pure onlyLogs_refl _

theorem OnlyLogs.eq {old new : World} (only : OnlyLogs old new) : new = { old with log := new.log } := by
  obtain ⟨disk, machine, _⟩ := only
  cases new
  cases disk
  cases machine
  rfl

end Settings

variable {ε : Type}

namespace Maker

variable (maker : Maker ε)

def Fresh : Prop := ∀ number other root elsewhere settings more,
  maker.make number root settings = maker.make other elsewhere more → number = other

def Gentle : Prop := ∀ engine close, maker.close? engine = some close →
  ∀ world, ∃ after, close world = .ok () after

def closing (engines : List ε) (world : World) : World :=
  (engines.filterMap maker.close?).foldl (fun world close => close.left world) world

def closable (engines : List ε) : List ε := engines.filter fun engine => (maker.close? engine).isSome

theorem closing_closable (engines : List ε) (world : World) :
    maker.closing (maker.closable engines) world = maker.closing engines world := by
  have same : (maker.closable engines).filterMap maker.close? = engines.filterMap maker.close? := by
    rw [closable, List.filterMap_filter]
    congr 1
    funext engine
    cases maker.close? engine <;> rfl
  rw [closing, same, closing]

variable {maker}

theorem closeEach_ran (gentle : maker.Gentle) (engines : List (Path × ε)) (office : Office ε) :
    Job.closeEach maker engines office =
      .ok () { office with world := maker.closing (engines.map Prod.snd) office.world } := by
  induction engines generalizing office with
  | nil => rfl
  | cons held rest ih =>
      obtain ⟨root, engine⟩ := held
      rw [Job.closeEach]
      cases able : maker.close? engine with
      | none =>
          have skipped : maker.closing (((root, engine) :: rest).map Prod.snd) office.world =
              maker.closing (rest.map Prod.snd) office.world := by
            simp [closing, able]
          rw [skipped]
          exact ih office
      | some close =>
          obtain ⟨world, ran⟩ := gentle engine close able office.world
          have closed : maker.closing (((root, engine) :: rest).map Prod.snd) office.world =
              maker.closing (rest.map Prod.snd) world := by
            simp [closing, able, left_of_ran ran]
          rw [closed]
          dsimp only
          rw [bind_ran (Job.act_ran ran)]
          exact ih { office with world }

theorem closeEngines_ran (gentle : maker.Gentle) (office : Office ε) :
    Job.closeEngines maker office = .ok () { office with
      sessions := [], world := maker.closing (office.sessions.map Prod.snd) office.world } :=
  closeEach_ran gentle office.sessions { office with sessions := [] }

end Maker

theorem Session.maker_fresh : Session.maker.Fresh := by
  intro number other root elsewhere settings more same
  exact congrArg Session.number same

theorem Session.maker_gentle : Session.maker.Gentle := by
  intro session close able world
  cases able
  obtain ⟨disk, machine, log, closed, _⟩ := session.close_gives_up world
  exact ⟨_, closed⟩

namespace Office

inductive Call where
  | engineFor (root : Path)
  | reload (root : Option Path) (client : Value)
  | close

namespace Call

def work (maker : Maker ε) : Call → Work ε Unit
  | .engineFor root => do let _ ← Job.engineFor maker root
  | .reload root client => Job.reloadWith maker root client
  | .close => Job.closeEngines maker

def after (maker : Maker ε) (call : Call) (office : Office ε) : Office ε := (call.work maker).left office

def renews (office : Office ε) : Call → Bool
  | .engineFor _ => false
  | .reload root client =>
    match (Settings.load root none client).outcome office.world with
    | .ok _ => true
    | .error _ => false
  | .close => true

def closes (maker : Maker ε) (call : Call) (office : Office ε) : List ε :=
  if call.renews office then maker.closable (office.sessions.map Prod.snd) else []

section Steps

variable {maker : Maker ε} {office : Office ε} {root : Path} {engine : ε}

theorem engineFor_known (known : office.sessions.lookup root = some engine) :
    Job.engineFor maker root office = .ok engine office := by
  have read : (get : Work ε (Office ε)) office = .ok office office := rfl
  rw [Job.engineFor, bind_ran read, known]
  rfl

theorem engineFor_new (unknown : office.sessions.lookup root = none) :
    Job.engineFor maker root office = .ok (maker.make office.made root office.settings) { office with
      sessions := office.sessions ++ [(root, maker.make office.made root office.settings)]
      made := office.made + 1 } := by
  have read : (get : Work ε (Office ε)) office = .ok office office := rfl
  rw [Job.engineFor, bind_ran read, unknown]
  rfl

theorem after_engineFor {after : Office ε} (made : Job.engineFor maker root office = .ok engine after) :
    (Call.engineFor root).after maker office = after :=
  Work.left_of_ran (bind_ran made _)

theorem after_close (gentle : maker.Gentle) : Call.close.after maker office = { office with
    sessions := [], world := maker.closing (office.sessions.map Prod.snd) office.world } :=
  Work.left_of_ran (Maker.closeEngines_ran gentle office)

variable {workspace : Option Path} {client : Value}

theorem reload_work : (Call.reload workspace client).work maker = Job.reloadWith maker workspace client := rfl

theorem after_reload (gentle : maker.Gentle) {settings : Settings}
    (loaded : (Settings.load workspace none client).outcome office.world = .ok settings) :
    ∃ log, (Call.reload workspace client).after maker office = { office with
      settings, sessions := [],
      world := maker.closing (office.sessions.map Prod.snd) { office.world with log } } := by
  have ran := ran_of_outcome loaded
  have only := (Settings.onlyLogs_load workspace none client office.world).eq
  generalize (Settings.load workspace none client).left office.world = world at ran only
  rw [only] at ran
  have attempted := Job.attempt_ran (Job.act_ran ran)
  have stored : (modify fun office => { office with settings } : Work ε Unit)
      { office with world := { office.world with log := world.log } } =
      .ok () { office with settings, world := { office.world with log := world.log } } := rfl
  have leveled : Job.setLevel settings.level
      { office with settings, world := { office.world with log := world.log } } =
      .ok () { office with settings, world := { office.world with
        log := { world.log with threshold := Level.ofName settings.level } } } := rfl
  refine ⟨{ world.log with threshold := Level.ofName settings.level }, ?_⟩
  rw [after, reload_work, Job.reloadWith, Work.left_bind attempted]
  dsimp only
  rw [Work.left_bind stored, Work.left_bind leveled]
  exact Work.left_of_ran (Maker.closeEngines_ran gentle _)

-- Whether the settings have faults or cannot be read at all, only the log tells of it.
theorem after_failed_reload {failure : Failure}
    (failed : (Settings.load workspace none client).outcome office.world = .error failure) :
    ∃ log, log.threshold = office.world.log.threshold ∧
      (Call.reload workspace client).after maker office = { office with
        world := { office.world with log } } := by
  have ran := failed_of_outcome failed
  have only := Settings.onlyLogs_load workspace none client office.world
  generalize (Settings.load workspace none client).left office.world = world at ran only
  have level := only.2.2
  rw [only.eq] at ran
  have attempted := Job.attempt_failed (Job.act_failed ran)
  rw [after, reload_work, Job.reloadWith, Work.left_bind attempted]
  cases failure with
  | invalidSettings errors =>
      refine ⟨_, (Settings.add_threshold world.log .warning "invalid settings ignored").trans level, ?_⟩
      exact Work.left_of_ran (Job.act_ran (note_ran _ _ _))
  | _ => exact ⟨world.log, level, rfl⟩

/-- What a call can do: nothing but log, make an engine, or end all engines. -/
theorem after_cases (gentle : maker.Gentle) (call : Call) (office : Office ε) :
    (call.renews office = false ∧ ∃ log, call.after maker office = { office with
        world := { office.world with log } }) ∨
      (call.renews office = false ∧ ∃ root, call.after maker office = { office with
        sessions := office.sessions ++ [(root, maker.make office.made root office.settings)]
        made := office.made + 1 }) ∨
      (call.renews office = true ∧ ∃ settings log, call.after maker office = { office with
        settings, sessions := [],
        world := maker.closing (office.sessions.map Prod.snd) { office.world with log } }) := by
  cases call with
  | engineFor root =>
      cases known : office.sessions.lookup root with
      | some engine => exact .inl ⟨rfl, office.world.log, after_engineFor (engineFor_known known)⟩
      | none => exact .inr (.inl ⟨rfl, root, after_engineFor (engineFor_new known)⟩)
  | reload workspace client =>
      cases loaded : (Settings.load workspace none client).outcome office.world with
      | ok settings =>
          obtain ⟨log, renewed⟩ := after_reload gentle loaded
          exact .inr (.inr ⟨by simp only [renews, loaded], settings, log, renewed⟩)
      | error failure =>
          left
          refine ⟨by simp only [renews, loaded], ?_⟩
          obtain ⟨log, _, kept⟩ := after_failed_reload loaded
          exact ⟨log, kept⟩
  | close => exact .inr (.inr ⟨rfl, office.settings, office.world.log, after_close gentle⟩)

theorem closes_of_renews {call : Call} (renewed : call.renews office = true) :
    call.closes maker office = maker.closable (office.sessions.map Prod.snd) := by
  rw [closes, renewed]
  rfl

theorem closes_of_spares {call : Call} (spared : call.renews office = false) :
    call.closes maker office = [] := by
  rw [closes, spared]
  rfl

end Steps

end Call

section Visits

variable (maker : Maker ε)

/-- The offices that calls lead to, with the engines that have been closed on the way. Files and processes may
change between calls. -/
inductive Visits (start : Office ε) : List ε → Office ε → Prop
  | here : Visits start [] start
  | call {closed : List ε} {office : Office ε} (before : Visits start closed office) (call : Call) :
      Visits start (closed ++ call.closes maker office) (call.after maker office)
  | meanwhile {closed : List ε} {office : Office ε} (before : Visits start closed office) (world : World) :
      Visits start closed { office with world }

inductive Spares (start : Office ε) : Office ε → Prop
  | here : Spares start start
  | call {office : Office ε} (before : Spares start office) (call : Call)
      (spares : call.renews office = false) : Spares start (call.after maker office)
  | meanwhile {office : Office ε} (before : Spares start office) (world : World) :
      Spares start { office with world }

/-- The engines that are held are made for their workspaces with the settings of now, those that have been
closed were made once, and no engine is among them twice. -/
structure Tidy (closed : List ε) (office : Office ε) : Prop where
  current : ∀ root engine, (root, engine) ∈ office.sessions →
    ∃ number < office.made, engine = maker.make number root office.settings
  past : ∀ engine ∈ closed, ∃ number < office.made, ∃ root settings, engine = maker.make number root settings
  once : (closed ++ office.sessions.map Prod.snd).Nodup

variable {maker} {closed : List ε} {office : Office ε}

theorem Tidy.new (fresh : maker.Fresh) (tidy : Tidy maker closed office) (root : Path) :
    Tidy maker closed { office with
      sessions := office.sessions ++ [(root, maker.make office.made root office.settings)]
      made := office.made + 1 } where
  current place engine held := by
    rcases List.mem_append.mp held with before | new
    · obtain ⟨number, bound, made⟩ := tidy.current place engine before
      exact ⟨number, Nat.lt_succ_of_lt bound, made⟩
    · cases List.mem_singleton.mp new
      exact ⟨office.made, Nat.lt_succ_self _, rfl⟩
  past engine listed := by
    obtain ⟨number, bound, made⟩ := tidy.past engine listed
    exact ⟨number, Nat.lt_succ_of_lt bound, made⟩
  once := by
    -- All other engines were made before.
    have unknown : maker.make office.made root office.settings ∉
        closed ++ office.sessions.map Prod.snd := by
      intro inside
      rcases List.mem_append.mp inside with past | held
      · obtain ⟨number, bound, other, settings, made⟩ := tidy.past _ past
        exact absurd (fresh _ _ _ _ _ _ made) (Nat.ne_of_gt bound)
      · obtain ⟨⟨place, engine⟩, listed, same⟩ := List.mem_map.mp held
        obtain ⟨number, bound, made⟩ := tidy.current place engine listed
        exact absurd (fresh _ _ _ _ _ _ (same.symm.trans made)) (Nat.ne_of_gt bound)
    have added := List.Nodup.concat unknown tidy.once
    rw [List.concat_eq_append, List.append_assoc] at added
    rw [List.map_append]
    exact added

theorem Tidy.renewed (tidy : Tidy maker closed office) (settings : Settings) (world : World) :
    Tidy maker (closed ++ maker.closable (office.sessions.map Prod.snd)) { office with
      settings, sessions := [], world } where
  current root engine held := nomatch held
  past engine listed := by
    rcases List.mem_append.mp listed with before | ended
    · exact tidy.past engine before
    · obtain ⟨⟨root, same⟩, held, rfl⟩ := List.mem_map.mp (List.mem_of_mem_filter ended)
      obtain ⟨number, bound, made⟩ := tidy.current root same held
      exact ⟨number, bound, root, office.settings, made⟩
  once := by
    rw [List.map_nil, List.append_nil]
    exact (List.Sublist.append_left List.filter_sublist closed).nodup tidy.once

theorem Tidy.call (fresh : maker.Fresh) (gentle : maker.Gentle) (tidy : Tidy maker closed office)
    (call : Call) : Tidy maker (closed ++ call.closes maker office) (call.after maker office) := by
  rcases call.after_cases gentle office with
    ⟨spared, log, after⟩ | ⟨spared, root, after⟩ | ⟨renewed, settings, log, after⟩
  · rw [Call.closes_of_spares spared, List.append_nil, after]
    exact ⟨tidy.current, tidy.past, tidy.once⟩
  · rw [Call.closes_of_spares spared, List.append_nil, after]
    exact tidy.new fresh root
  · rw [Call.closes_of_renews renewed, after]
    exact tidy.renewed settings _

theorem tidy_of_visits (fresh : maker.Fresh) (gentle : maker.Gentle) {start : Office ε}
    (tidy : Tidy maker closed start) {more : List ε} (visits : Visits maker start more office) :
    Tidy maker (closed ++ more) office := by
  induction visits with
  | here =>
      rw [List.append_nil]
      exact tidy
  | call before call ih =>
      rw [← List.append_assoc]
      exact ih.call fresh gentle call
  | meanwhile before world ih => exact ⟨ih.current, ih.past, ih.once⟩

theorem tidy_of_empty (office : Office ε) (empty : office.sessions = []) : Tidy maker [] office where
  current root engine held := by
    rw [empty] at held
    cases held
  past engine listed := nomatch listed
  once := by
    rw [empty]
    exact List.nodup_nil

-- An engine that is not held any more has been closed on the way.
theorem held_or_closed (gentle : maker.Gentle) {start : Office ε} (visits : Visits maker start closed office)
    {root : Path} {engine : ε} (held : (root, engine) ∈ start.sessions)
    (able : (maker.close? engine).isSome = true) :
    (root, engine) ∈ office.sessions ∨ engine ∈ closed := by
  induction visits with
  | here => exact .inl held
  | @call earlier office before call ih =>
      rcases ih with still | gone
      · rcases call.after_cases gentle office with
          ⟨_, log, after⟩ | ⟨_, place, after⟩ | ⟨renewed, settings, log, after⟩
        · rw [after]
          exact .inl still
        · rw [after]
          exact .inl (List.mem_append_left _ still)
        · rw [Call.closes_of_renews renewed]
          have listed : engine ∈ maker.closable (office.sessions.map Prod.snd) :=
            List.mem_filter.mpr ⟨List.mem_map.mpr ⟨(root, engine), still, rfl⟩, able⟩
          exact .inr (List.mem_append_right _ listed)
      · exact .inr (List.mem_append_left _ gone)
  | meanwhile before world ih => exact ih

theorem lookup_of_spares (gentle : maker.Gentle) {start : Office ε} (spares : Spares maker start office)
    {root : Path} {engine : ε} (known : start.sessions.lookup root = some engine) :
    office.sessions.lookup root = some engine := by
  induction spares with
  | here => exact known
  | @call office before call spared ih =>
      rcases call.after_cases gentle office with
        ⟨_, log, after⟩ | ⟨_, place, after⟩ | ⟨renewed, _⟩
      · rw [after]
        exact ih
      · rw [after]
        simp only [List.lookup_append, ih, Option.some_or]
      · cases spared.symm.trans renewed
  | meanwhile before world ih => exact ih

theorem world_of_call (gentle : maker.Gentle) (call : Call) (office : Office ε) :
    ∃ log, (call.after maker office).world =
      maker.closing (call.closes maker office) { office.world with log } := by
  rcases call.after_cases gentle office with
    ⟨spared, log, after⟩ | ⟨spared, root, after⟩ | ⟨renewed, settings, log, after⟩
  · rw [Call.closes_of_spares spared, after]
    exact ⟨log, rfl⟩
  · rw [Call.closes_of_spares spared, after]
    exact ⟨office.world.log, rfl⟩
  · rw [Call.closes_of_renews renewed, after]
    exact ⟨log, (maker.closing_closable _ _).symm⟩

theorem engineFor_ran (root : Path) (office : Office ε) :
    ∃ engine after, Job.engineFor maker root office = .ok engine after ∧
      after.sessions.lookup root = some engine := by
  cases known : office.sessions.lookup root with
  | some engine => exact ⟨engine, office, Call.engineFor_known known, known⟩
  | none =>
      refine ⟨_, _, Call.engineFor_new known, ?_⟩
      simp [List.lookup_append, known]

end Visits

-- Two workspaces ask for engines, settings with a fault are sent, and then others without.
namespace Renewal

def first : Path := Path.ofString "/first"

def second : Path := Path.ofString "/second"

def opening : Office where
  world := { disk := ⟨[], [], {}⟩, log := ⟨.warning, []⟩ }

def timeout (milliseconds : Int) : Value :=
  .table [("engine", .table [("timeout_ms", .int milliseconds)])]

def asked : Office :=
  (Call.engineFor second).after Session.maker ((Call.engineFor first).after Session.maker opening)

def kept : Office := (Call.reload none (timeout 0)).after Session.maker asked

def renewed : Office := (Call.reload none (timeout 5)).after Session.maker kept

def last : Office := (Call.engineFor first).after Session.maker renewed

def closed : List Session := [⟨0, first, {}⟩, ⟨1, second, {}⟩]

theorem last_visited : Visits Session.maker opening closed last := by
  have visits : Visits Session.maker opening _ last :=
    .call (.call (.call (.call (.call .here (.engineFor first)) (.engineFor second))
      (.reload none (timeout 0))) (.reload none (timeout 5))) (.engineFor first)
  refine cast (congrArg (fun list => Visits Session.maker opening list last) ?_) visits
  decide +kernel

end Renewal

/-- Let engines be made anew each time, and let none fail when it is closed. Let an office begin without engines.
Then each engine that it holds was made for its workspace with the settings of now. A workspace gets the same
engine until engines are ended. What a call does to files and processes is to close the engines of the call, and
no engine is ever closed twice. An engine that is held has not been closed, and one that is not held any more has
been closed if it can be. Settings that are read make all engines end, and settings with faults, or that cannot be
read, change nothing, not even the level of the log. -/
theorem engines_match_settings {maker : Maker ε} (fresh : maker.Fresh) (gentle : maker.Gentle)
    {start office : Office ε} {closed : List ε} (empty : start.sessions = [])
    (visits : Visits maker start closed office) :
    (∀ root engine, (root, engine) ∈ office.sessions →
      ∃ number < office.made, engine = maker.make number root office.settings) ∧
    (∀ root, ∃ engine after, Job.engineFor maker root office = .ok engine after ∧
      ∀ later, Spares maker after later → Job.engineFor maker root later = .ok engine later) ∧
    (∀ call : Call, ∃ log, (call.after maker office).world =
      maker.closing (call.closes maker office) { office.world with log }) ∧
    (∀ root engine, (root, engine) ∈ office.sessions → engine ∉ closed) ∧
    (∀ more later, Visits maker office more later → (closed ++ more).Nodup ∧
      ∀ root engine, (root, engine) ∈ office.sessions → (root, engine) ∉ later.sessions →
        (maker.close? engine).isSome = true → engine ∈ more) ∧
    ∀ root client,
      (∀ settings, (Settings.load root none client).outcome office.world = .ok settings →
        ((Call.reload root client).after maker office).settings = settings ∧
        ((Call.reload root client).after maker office).sessions = []) ∧
      ∀ failure, (Settings.load root none client).outcome office.world = .error failure →
        ∃ log, log.threshold = office.world.log.threshold ∧
          (Call.reload root client).after maker office = { office with
            world := { office.world with log } } := by
  have tidy : Tidy maker closed office := tidy_of_visits fresh gentle (tidy_of_empty start empty) visits
  refine ⟨tidy.current, ?_, fun call => world_of_call gentle call office, ?_, ?_, ?_⟩
  · intro root
    obtain ⟨engine, after, made, known⟩ := engineFor_ran root office
    refine ⟨engine, after, made, fun later spares => ?_⟩
    exact Call.engineFor_known (lookup_of_spares gentle spares known)
  · intro root engine held past
    have apart := (List.nodup_append.mp tidy.once).2.2
    exact apart engine past engine (List.mem_map.mpr ⟨(root, engine), held, rfl⟩) rfl
  · intro more later onwards
    have after := tidy_of_visits fresh gentle tidy onwards
    refine ⟨(List.nodup_append.mp after.once).1, fun root engine held gone able => ?_⟩
    exact (held_or_closed gentle onwards held able).resolve_left gone
  · intro root client
    constructor
    · intro settings loaded
      obtain ⟨log, renewed⟩ := Call.after_reload gentle loaded
      rw [renewed]
      exact ⟨rfl, rfl⟩
    · intro failure failed
      exact Call.after_failed_reload failed

theorem engine_made_again_after_reload :
    Visits Session.maker Renewal.opening Renewal.closed Renewal.last ∧
      Renewal.kept.sessions = Renewal.asked.sessions ∧
      Renewal.last.sessions.map Prod.fst = [Renewal.first] ∧
      Renewal.last.settings.engine.timeout.1 = 5 ∧
      ∀ root session, (root, session) ∈ Renewal.last.sessions →
        session.settings = Renewal.last.settings.engine ∧ session ∉ Renewal.closed := by
  obtain ⟨current, _, _, apart, _⟩ :=
    engines_match_settings Session.maker_fresh Session.maker_gentle rfl Renewal.last_visited
  refine ⟨Renewal.last_visited, by decide +kernel, by decide +kernel, by decide +kernel, ?_⟩
  intro root session held
  obtain ⟨number, _, made⟩ := current root session held
  exact ⟨congrArg Session.settings made, apart root session held⟩

end Office

end LogtalkNavigation
