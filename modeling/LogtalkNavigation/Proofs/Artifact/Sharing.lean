import LogtalkNavigation.Proofs.Artifact.Taking
import Mathlib.Logic.Function.Basic

/-! Several takers of one artifact. Taking is three steps: the artifact is renamed, read under its private name
and removed there. Takers and the engine, which writes one artifact after another, may come between each other
at any step. Still no artifact is given to two takers, and nothing is left under a private name. -/

namespace LogtalkNavigation.Artifact

open Act

inductive Taker where
  | ready
  -- The file is theirs, under a private path.
  | claimed (own : Path)
  | read (own : Path) (content : Except Failure (List UInt8))
  | done (result : Except Failure (Option (List UInt8)))

namespace Taker

def claim (p own : Path) : Act Taker := do
  match (← Act.disk).rename p own with
  | .ok disk =>
    Act.setDisk disk
    return .claimed own
  | .error (.os error) =>
    if error.code = .notFound then return .done (.ok none)
    else
      Act.note .warning s!"Cannot claim {p} ({error.message}), reading in place"
      return .done (← Act.attempt (readInPlace p))
  | .error failure => return .done (.error failure)

def proceed : Taker → Act Taker
  | .ready => return .ready
  | .claimed own => return .read own ((← Act.disk).read own)
  | .read own content => do
    discard own
    return .done (content.map some)
  | .done result => return .done result

def result : Taker → Act (Option (List UInt8))
  | .done result => Act.ofExcept result
  | _ => return none

-- The private path of a taker who is in between.
def own? : Taker → Option Path
  | .claimed own => some own
  | .read own _ => some own
  | _ => none

end Taker

def takeAlone (p : Path) : Act (Option (List UInt8)) := do
  let own ← Act.ofExcept (privatePath (← Act.disk) p)
  let first ← Taker.claim p own
  let second ← first.proceed
  let third ← second.proceed
  third.result

section Alone

variable {p own : Path} {world : World}

theorem claim_moved {disk : Disk} (renamed : world.disk.rename p own = .ok disk) :
    Taker.claim p own world = .ok (.claimed own) { world with disk } := by
  rw [Taker.claim, disk_bind, renamed]
  rfl

theorem claim_missing {error : OsError} (failed : world.disk.rename p own = .error (.os error))
    (missing : error.code = .notFound) : Taker.claim p own world = .ok (.done (.ok none)) world := by
  rw [Taker.claim, disk_bind, failed]
  dsimp only
  rw [if_pos missing]
  rfl

theorem claim_failed {failure : Failure} (failed : world.disk.rename p own = .error failure)
    (other : ∀ error, failure ≠ .os error) :
    Taker.claim p own world = .ok (.done (.error failure)) world := by
  rw [Taker.claim, disk_bind, failed]
  cases failure with
  | os error => exact absurd rfl (other error)
  | _ => rfl

theorem readClaimed_proceed (own : Path) (world : World) :
    (do return some (← readClaimed own) : Act (Option (List UInt8))) world =
      ((Taker.read own (world.disk.read own)).proceed >>= Taker.result) world := by
  cases removed : discard own world with
  | ok _ later =>
      have read : readClaimed own world = Act.ofExcept (world.disk.read own) later := bind_ran removed _
      have ended : (Taker.read own (world.disk.read own)).proceed world =
        .ok (.done ((world.disk.read own).map some)) later := bind_ran removed _
      rw [bind_ran ended]
      cases content : world.disk.read own with
      | ok bytes =>
          rw [content] at read
          exact bind_ran read _
      | error failure =>
          rw [content] at read
          exact bind_failed read _
  | error failure later =>
      have read : readClaimed own world = .error failure later := bind_failed removed _
      have ended : (Taker.read own (world.disk.read own)).proceed world = .error failure later :=
        bind_failed removed _
      rw [bind_failed read, bind_failed ended]

-- A file that cannot be renamed is read in place at once.
theorem claim_refused {error : OsError} (failed : world.disk.rename p own = .error (.os error))
    (other : error.code ≠ .notFound) :
    ∃ result later, Taker.claim p own world = .ok (.done result) later ∧ Act.ofExcept result later = (do
      Act.note .warning s!"Cannot claim {p} ({error.message}), reading in place"
      readInPlace p) world := by
  rw [Taker.claim, disk_bind, failed]
  dsimp only
  rw [if_neg other, bind_ran (note_ran _ _ _), bind_ran (note_ran _ _ _)]
  generalize world.log.add _ _ = log
  cases ended : readInPlace p { world with log } with
  | ok value later => exact ⟨.ok value, later, bind_ran (attempt_ran ended) _, rfl⟩
  | error failure later => exact ⟨.error failure, later, bind_ran (attempt_failed ended) _, rfl⟩

theorem take_eq_takeAlone (p : Path) : take p = takeAlone p := by
  funext world
  rw [take, takeAlone, disk_bind, disk_bind]
  cases privatePath world.disk p with
  | error failure => rfl
  | ok own =>
      have chosen : Act.ofExcept (.ok own) world = .ok own world := rfl
      rw [bind_ran chosen, bind_ran chosen]
      cases renamed : world.disk.rename p own with
      | ok disk =>
          have read : (Taker.claimed own).proceed { world with disk } = .ok (.read own (disk.read own)) _ := rfl
          rw [bind_ran (claim_moved renamed), bind_ran read]
          exact (bind_ran (setDisk_ran disk world) _).trans (readClaimed_proceed own { world with disk })
      | error failure =>
          by_cases known : ∃ error, failure = .os error
          · obtain ⟨error, rfl⟩ := known
            by_cases missing : error.code = .notFound
            · rw [bind_ran (claim_missing renamed missing)]
              dsimp only
              rw [if_pos missing]
              rfl
            · obtain ⟨result, later, ended, same⟩ := claim_refused renamed missing
              rw [bind_ran ended]
              dsimp only
              rw [if_neg missing]
              exact same.symm
          · rw [bind_ran (claim_failed renamed (not_exists.mp known))]
            cases failure with
            | os error => exact absurd ⟨error, rfl⟩ known
            | _ => rfl

end Alone

structure Table where
  world : World
  takers : Nat → Taker
  written : List (List UInt8)

namespace Table

def write (table : Table) (p : Path) (content : List UInt8) : Table :=
  { table with
    world := { table.world with disk := table.world.disk.put p content }
    written := table.written ++ [content] }

def advance (table : Table) (number : Nat) (step : Act Taker) : Table :=
  match step table.world with
  | .ok next world => { table with world, takers := Function.update table.takers number next }
  | .error failure world =>
    { table with world, takers := Function.update table.takers number (.done (.error failure)) }

end Table

def Regular (outcome : Except Failure Disk) : Prop :=
  (∃ disk, outcome = .ok disk) ∨ ∃ error, outcome = .error (.os error) ∧ error.code = .notFound

def ownPath (root : Path) (name : Name) (token : Nat) : Path := root.child (privateName name token)

/-- What may happen next: an artifact is written, or one of the takers makes a step. The private path that a
taker renames to is any at which there is nothing, such as `privatePath` yields. -/
inductive Move (root : Path) (name : Name) : Table → Table → Prop where
  | write (table : Table) (content : List UInt8) : Move root name table (table.write (root.child name) content)
  | claim (table : Table) (number token : Nat) (ready : table.takers number = .ready)
      (free : table.world.disk.nodeAt? (ownPath root name token) = none)
      (regular : Regular (table.world.disk.rename (root.child name) (ownPath root name token))) :
      Move root name table (table.advance number (Taker.claim (root.child name) (ownPath root name token)))
  | proceed (table : Table) (number : Nat) :
      Move root name table (table.advance number (table.takers number).proceed)

inductive Moves (root : Path) (name : Name) (start : Table) : Table → Prop where
  | start : Moves root name start start
  | move {table later : Table} : Moves root name start table → Move root name table later →
      Moves root name start later

structure Opens (root : Path) (name : Name) (base : Location) (table : Table) : Prop where
  sound : table.world.disk.faults = {}
  leads : table.world.disk.Leads (root.child name) (base ++ [name])
  empty : ∀ rest, table.world.disk.node? (base ++ [name] ++ rest) = none
  unclaimed : ∀ token, table.world.disk.node? (base ++ [privateName name token]) = none
  ready : ∀ number, table.takers number = .ready
  unwritten : table.written = []

section Keeping

variable {root : Path} {name : Name} {base : Location}

-- A file is under a private name of the artifact, and its private path leads there.
structure Stores (root : Path) (name : Name) (base : Location) (disk : Disk) (token : Nat)
    (content : List UInt8) : Prop where
  leads : disk.Leads (ownPath root name token) (base ++ [privateName name token])
  file : disk.node? (base ++ [privateName name token]) = some (.file content)

/-- A taker who holds what was written at an index, or nothing. Between the first step and the last the file is
under the taker's private name. -/
def Fits (root : Path) (name : Name) (base : Location) (disk : Disk) (written : List (List UInt8))
    (held : Option Nat) : Taker → Prop
  | .ready => held = none
  | .claimed own => ∃ token index content, own = ownPath root name token ∧ held = some index ∧
      written[index]? = some content ∧ Stores root name base disk token content
  | .read own found => ∃ token index content, own = ownPath root name token ∧ held = some index ∧
      written[index]? = some content ∧ Stores root name base disk token content ∧ found = .ok content
  | .done result => (held = none ∧ result = .ok none) ∨
      ∃ index content, held = some index ∧ written[index]? = some content ∧ result = .ok (some content)

def Lies (disk : Disk) (place : Location) (written : List (List UInt8)) (lying : Option Nat) : Prop :=
  (lying = none ∧ disk.node? place = none) ∨
    ∃ index content, lying = some index ∧ written[index]? = some content ∧
      disk.node? place = some (.file content)

/-- The state of a table, where `lying` is the index of what lies at the place and `held` the index of what each
taker has got. -/
structure Orderly (root : Path) (name : Name) (base : Location) (disk : Disk) (written : List (List UInt8))
    (takers : Nat → Taker) (lying : Option Nat) (held : Nat → Option Nat) : Prop where
  sound : disk.faults = {}
  leads : disk.Leads (root.child name) (base ++ [name])
  alone : ∀ rest, rest ≠ [] → disk.node? (base ++ [name] ++ rest) = none
  lies : Lies disk (base ++ [name]) written lying
  fits : ∀ number, Fits root name base disk written (held number) (takers number)
  once : ∀ left right index, held left = some index → held right = some index → left = right
  gone : ∀ number index, held number = some index → lying ≠ some index
  latest : ∀ last, written.length = last + 1 → lying = some last ∨ ∃ number, held number = some last
  owned : ∀ token, disk.node? (base ++ [privateName name token]) ≠ none →
    ∃ number, (takers number).own? = some (ownPath root name token)
  apart : ∀ left right own, (takers left).own? = some own → (takers right).own? = some own → left = right

theorem ownPath_injective {left right : Nat} (same : ownPath root name left = ownPath root name right) :
    left = right := by
  have names := congrArg Path.name? same
  rw [ownPath, ownPath, Path.name?_child, Path.name?_child] at names
  exact privateName_injective name left right (Option.some.inj names)

theorem privateName_ne (name : Name) (token : Nat) : privateName name token ≠ name := by
  intro same
  have sizes := congrArg (fun name : Name => name.1.length) same
  simp [privateName, Name.append, claimMark] at sizes

theorem private_ne_place (token : Nat) : base ++ [privateName name token] ≠ base ++ [name] := by
  intro same
  exact privateName_ne name token (by simpa using same)

theorem private_apart {left right : Nat} (apart : left ≠ right) :
    base ++ [privateName name left] ≠ base ++ [privateName name right] := by
  intro same
  exact apart (privateName_injective name left right (by simpa using same))

theorem below_ne_private (token : Nat) {rest : List Name} (more : rest ≠ []) :
    base ++ [name] ++ rest ≠ base ++ [privateName name token] := by
  intro same
  have lengths := congrArg List.length same
  simp at lengths
  exact more lengths

theorem own?_update (takers : Nat → Taker) (number other : Nat) (next : Taker) :
    (Function.update takers number next other).own? =
      Function.update (fun other => (takers other).own?) number next.own? other :=
  Function.apply_update (fun _ => Taker.own?) takers number next other

-- Where no two have the same, one of them may be given what nobody has.
theorem apart_update {α : Type} {given : Nat → Option α}
    (apart : ∀ left right value, given left = some value → given right = some value → left = right)
    (number : Nat) {new : Option α} (fresh : ∀ other value, new = some value → given other ≠ some value)
    (left right : Nat) (value : α) (first : Function.update given number new left = some value)
    (second : Function.update given number new right = some value) : left = right := by
  rw [Function.update_apply] at first second
  split at first <;> split at second
  case isTrue.isTrue one two => rw [one, two]
  case isTrue.isFalse => exact absurd second (fresh right value first)
  case isFalse.isTrue => exact absurd first (fresh left value second)
  case isFalse.isFalse => exact apart left right value first second

theorem orderly_opens {table : Table} (opens : Opens root name base table) :
    Orderly root name base table.world.disk table.written table.takers none fun _ => none := by
  have place : table.world.disk.node? (base ++ [name]) = none := by simpa using opens.empty []
  refine ⟨opens.sound, opens.leads, fun rest _ => opens.empty rest, .inl ⟨rfl, place⟩, ?_, nofun, nofun, ?_, ?_, ?_⟩
  · intro number
    rw [opens.ready number]
    rfl
  · intro last counted
    rw [opens.unwritten] at counted
    cases counted
  · intro token there
    exact absurd (opens.unclaimed token) there
  · intro left right own between
    rw [opens.ready left] at between
    cases between

theorem Fits.kept {disk after : Disk} {written more : List (List UInt8)} {held : Option Nat} {taker : Taker}
    (fits : Fits root name base disk written held taker)
    (longer : ∀ (index : Nat) content, written[index]? = some content → more[index]? = some content)
    (same : Disk.SameDirectories disk after) (home : after.home = disk.home)
    (still : ∀ token, taker.own? = some (ownPath root name token) →
      after.node? (base ++ [privateName name token]) = disk.node? (base ++ [privateName name token])) :
    Fits root name base after more held taker := by
  have stores {token : Nat} {content : List UInt8} (own : taker.own? = some (ownPath root name token))
      (stored : Stores root name base disk token content) : Stores root name base after token content :=
    ⟨stored.leads.kept same home, (still token own).trans stored.file⟩
  cases taker with
  | ready => exact fits
  | claimed own =>
      obtain ⟨token, index, content, rfl, got, listed, stored⟩ := fits
      exact ⟨token, index, content, rfl, got, longer index content listed, stores rfl stored⟩
  | read own found =>
      obtain ⟨token, index, content, rfl, got, listed, stored, read⟩ := fits
      exact ⟨token, index, content, rfl, got, longer index content listed, stores rfl stored, read⟩
  | done result =>
      rcases fits with nothing | ⟨index, content, got, listed, ended⟩
      · exact .inl nothing
      · exact .inr ⟨index, content, got, longer index content listed, ended⟩

theorem Fits.listed {disk : Disk} {written : List (List UInt8)} {index : Nat} {taker : Taker}
    (fits : Fits root name base disk written (some index) taker) : ∃ content, written[index]? = some content := by
  cases taker with
  | ready => cases fits
  | claimed own =>
      obtain ⟨_, _, content, _, got, listed, _⟩ := fits
      cases got
      exact ⟨content, listed⟩
  | read own found =>
      obtain ⟨_, _, content, _, got, listed, _⟩ := fits
      cases got
      exact ⟨content, listed⟩
  | done result =>
      rcases fits with ⟨nothing, _⟩ | ⟨_, content, got, listed, _⟩
      · cases nothing
      · cases got
        exact ⟨content, listed⟩

theorem Fits.stored {disk : Disk} {written : List (List UInt8)} {held : Option Nat} {taker : Taker} {token : Nat}
    (fits : Fits root name base disk written held taker) (own : taker.own? = some (ownPath root name token)) :
    ∃ content, Stores root name base disk token content := by
  cases taker with
  | ready | done => cases own
  | claimed path =>
      obtain ⟨other, _, content, rfl, _, _, stored⟩ := fits
      cases ownPath_injective (Option.some.inj own)
      exact ⟨content, stored⟩
  | read path found =>
      obtain ⟨other, _, content, rfl, _, _, stored, _⟩ := fits
      cases ownPath_injective (Option.some.inj own)
      exact ⟨content, stored⟩

theorem Lies.plain {disk : Disk} {place : Location} {written : List (List UInt8)} {lying : Option Nat}
    (lies : Lies disk place written lying) : disk.node? place ≠ some .directory := by
  rcases lies with ⟨_, missing⟩ | ⟨_, _, _, _, file⟩
  · rw [missing]
    nofun
  · rw [file]
    nofun

variable {disk : Disk} {written : List (List UInt8)} {takers : Nat → Taker} {lying : Option Nat}
  {held : Nat → Option Nat}

theorem orderly_write (proper : name ≠ Name.up) (orderly : Orderly root name base disk written takers lying held)
    (content : List UInt8) :
    Orderly root name base (disk.put (root.child name) content) (written ++ [content]) takers
      (some written.length) held := by
  have becomes : disk.Becomes (disk.put (root.child name) content) (base ++ [name]) (some (.file content)) := by
    rw [Disk.put_child orderly.leads proper]
    exact Disk.becomes_set _ _ _ (by simp)
  have same := becomes.sameDirectories orderly.lies.plain nofun
  have longer (index : Nat) (old : List UInt8) (listed : written[index]? = some old) :
      (written ++ [content])[index]? = some old := by
    rw [List.getElem?_append_left (List.getElem?_eq_some_iff.mp listed).1, listed]
  constructor
  case sound => exact becomes.faults.trans orderly.sound
  case leads => exact orderly.leads.kept same becomes.home
  case alone =>
    intro rest more
    rw [becomes.away (by simpa using more), orderly.alone rest more]
  case lies => exact .inr ⟨_, content, rfl, List.getElem?_concat_length, becomes.here⟩
  case fits =>
    intro number
    exact (orderly.fits number).kept longer same becomes.home fun token _ => becomes.away (private_ne_place token)
  case once => exact orderly.once
  case gone =>
    intro number index got new
    obtain ⟨old, listed⟩ := (got ▸ orderly.fits number).listed
    cases new
    exact absurd (List.getElem?_eq_some_iff.mp listed).1 (Nat.lt_irrefl _)
  case latest =>
    intro last counted
    have newest : written.length = last := by simpa using counted
    exact .inl (congrArg some newest)
  case owned =>
    intro token there
    rw [becomes.away (private_ne_place token)] at there
    exact orderly.owned token there
  case apart => exact orderly.apart

theorem Orderly.idle (orderly : Orderly root name base disk written takers lying held) {number : Nat}
    (ready : takers number = .ready) : held number = none := by
  have fits := orderly.fits number
  rw [ready] at fits
  exact fits

-- A step that leaves the disk and the private path of the taker as they are.
theorem Orderly.replaced (orderly : Orderly root name base disk written takers lying held) {number : Nat}
    {next : Taker} (fits : Fits root name base disk written (held number) next)
    (own : next.own? = (takers number).own?) :
    Orderly root name base disk written (Function.update takers number next) lying held := by
  have owns (other : Nat) : (Function.update takers number next other).own? = (takers other).own? := by
    rw [own?_update, own, Function.update_eq_self]
  refine { orderly with fits := ?_, owned := ?_, apart := ?_ }
  · intro other
    by_cases here : other = number
    · rw [here, Function.update_self]
      exact fits
    · rw [Function.update_of_ne here]
      exact orderly.fits other
  · intro token there
    obtain ⟨other, between⟩ := orderly.owned token there
    exact ⟨other, (owns other).trans between⟩
  · intro left right path first second
    exact orderly.apart left right path ((owns left).symm.trans first) ((owns right).symm.trans second)

/-- The file at the place goes to a private place that was free, and to the taker. -/
theorem orderly_moved (orderly : Orderly root name base disk written takers lying held)
    {number token index : Nat} {content : List UInt8} (ready : takers number = .ready) (here : lying = some index)
    (listed : written[index]? = some content) (file : disk.node? (base ++ [name]) = some (.file content))
    (claimed : disk.Leads (ownPath root name token) (base ++ [privateName name token]))
    (free : disk.node? (base ++ [privateName name token]) = none) :
    Orderly root name base (disk.move (base ++ [name]) (base ++ [privateName name token])) written
      (Function.update takers number (.claimed (ownPath root name token))) none
      (Function.update held number (some index)) := by
  have moved := Disk.node?_move_spare (by simp) file orderly.alone (by simp) free
  have same := Disk.sameDirectories_move (by simp) file orderly.alone (by simp) free
  have idle := orderly.idle ready
  -- Nobody else has the private path, for there is nothing at it.
  have unowned (other : Nat) : (takers other).own? ≠ some (ownPath root name token) := by
    intro own
    obtain ⟨old, stored⟩ := (orderly.fits other).stored own
    rw [stored.file] at free
    cases free
  have away (other : Nat) (apart : other ≠ token) :
      (disk.move (base ++ [name]) (base ++ [privateName name token])).node? (base ++ [privateName name other]) =
        disk.node? (base ++ [privateName name other]) := by
    rw [moved, if_neg (private_apart apart), if_neg (private_ne_place other)]
  constructor
  case sound => exact orderly.sound
  case leads => exact orderly.leads.kept same rfl
  case alone =>
    intro rest more
    rw [moved, if_neg (below_ne_private token more), if_neg (by simpa using more), orderly.alone rest more]
  case lies =>
    refine .inl ⟨rfl, ?_⟩
    rw [moved, if_neg (Ne.symm (private_ne_place token)), if_pos rfl]
  case fits =>
    intro other
    by_cases mine : other = number
    · rw [mine, Function.update_self, Function.update_self]
      exact ⟨token, index, content, rfl, rfl, listed, claimed.kept same rfl, (moved _).trans (if_pos rfl)⟩
    · rw [Function.update_of_ne mine, Function.update_of_ne mine]
      refine (orderly.fits other).kept (fun _ _ listed => listed) same rfl fun held own => away held ?_
      rintro rfl
      exact unowned other own
  case once =>
    refine apart_update orderly.once number fun other found new got => ?_
    cases new
    exact orderly.gone other index got here
  case gone => nofun
  case latest =>
    intro last counted
    rcases orderly.latest last counted with lies | ⟨other, got⟩
    · exact .inr ⟨number, by rw [Function.update_self, ← here, lies]⟩
    · refine .inr ⟨other, ?_⟩
      rw [Function.update_of_ne, got]
      rintro rfl
      rw [idle] at got
      cases got
  case owned =>
    intro other there
    by_cases mine : other = token
    · exact ⟨number, by rw [Function.update_self, mine]; rfl⟩
    · rw [away other mine] at there
      obtain ⟨owner, own⟩ := orderly.owned other there
      refine ⟨owner, ?_⟩
      rw [Function.update_of_ne, own]
      rintro rfl
      rw [ready] at own
      cases own
  case apart =>
    simp only [own?_update]
    refine apart_update orderly.apart number fun other own new => ?_
    cases new
    exact unowned other

/-- The file under a private name is removed, and its taker is done. -/
theorem orderly_removed (orderly : Orderly root name base disk written takers lying held)
    {number token : Nat} {content : List UInt8}
    (mine : takers number = .read (ownPath root name token) (.ok content))
    (got : ∃ index, held number = some index ∧ written[index]? = some content) :
    Orderly root name base (disk.erase (base ++ [privateName name token])) written
      (Function.update takers number (.done (.ok (some content)))) lying held := by
  have own : (takers number).own? = some (ownPath root name token) := by
    rw [mine]
    rfl
  obtain ⟨old, stored⟩ := (orderly.fits number).stored own
  have becomes := Disk.becomes_erase disk (base ++ [privateName name token]) (by simp)
  have same := becomes.sameDirectories (by rw [stored.file]; nofun) nofun
  have place := Ne.symm (@private_ne_place name base token)
  constructor
  case sound => exact orderly.sound
  case leads => exact orderly.leads.kept same rfl
  case alone =>
    intro rest more
    rw [becomes.away (below_ne_private token more), orderly.alone rest more]
  case lies =>
    unfold Lies
    rw [becomes.away place]
    exact orderly.lies
  case fits =>
    intro other
    by_cases here : other = number
    · obtain ⟨index, held, listed⟩ := got
      rw [here, Function.update_self]
      exact .inr ⟨index, content, held, listed, rfl⟩
    · rw [Function.update_of_ne here]
      refine (orderly.fits other).kept (fun _ _ listed => listed) same rfl fun held owns => becomes.away ?_
      refine private_apart ?_
      rintro rfl
      exact here (orderly.apart other number _ owns own)
  case once => exact orderly.once
  case gone => exact orderly.gone
  case latest => exact orderly.latest
  case owned =>
    intro other there
    by_cases removed : other = token
    · rw [removed, becomes.here] at there
      exact absurd rfl there
    · rw [becomes.away (private_apart removed)] at there
      obtain ⟨owner, owns⟩ := orderly.owned other there
      refine ⟨owner, ?_⟩
      rw [Function.update_of_ne, owns]
      rintro rfl
      exact removed (ownPath_injective (Option.some.inj (owns.symm.trans own)))
  case apart =>
    simp only [own?_update]
    exact apart_update orderly.apart number nofun

theorem own_clean (leads : disk.Leads (root.child name) (base ++ [name])) (token : Nat) :
    '\x00' ∉ (ownPath root name token).text := by
  have alike := nul_mem_private (root.child name) name (Path.name?_child root name) token
  rw [Path.parent_child] at alike
  exact fun nul => leads.clean (alike.mp nul)

theorem locate_own (proper : name ≠ Name.up) (leads : disk.Leads (root.child name) (base ++ [name])) (token : Nat) :
    disk.locate (ownPath root name token) = .ok (base ++ [privateName name token]) ∨
      disk.locate (ownPath root name token) = .error .nameTooLong := by
  obtain ⟨above, walked, entered, placed⟩ := leads.above proper
  obtain ⟨rfl, _⟩ := List.append_inj' placed rfl
  exact Disk.locate_child walked entered (privateName_ne_up name token)

theorem advance_ran {table : Table} {number : Nat} {step : Act Taker} {next : Taker} {world : World}
    (ran : step table.world = .ok next world) :
    table.advance number step = { table with world, takers := Function.update table.takers number next } := by
  rw [Table.advance, ran]

def Table.InOrder (root : Path) (name : Name) (base : Location) (table : Table) : Prop :=
  ∃ lying held, Orderly root name base table.world.disk table.written table.takers lying held

theorem inOrder_claim {table : Table} (proper : name ≠ Name.up)
    (orderly : Orderly root name base table.world.disk table.written table.takers lying held)
    {number token : Nat} (ready : table.takers number = .ready)
    (free : table.world.disk.nodeAt? (ownPath root name token) = none)
    (regular : Regular (table.world.disk.rename (root.child name) (ownPath root name token))) :
    (table.advance number (Taker.claim (root.child name) (ownPath root name token))).InOrder root name base := by
  have clean := own_clean orderly.leads token
  have named : (root.child name).name? ≠ some Name.up := by
    rw [Path.name?_child]
    exact fun same => proper (Option.some.inj same)
  have renamed := Disk.rename_of_leads orderly.sound orderly.leads clean named (by simp)
  rcases orderly.lies with ⟨_, missing⟩ | ⟨index, content, here, listed, file⟩
  · rw [missing, Option.isNone_none, if_pos rfl] at renamed
    rw [advance_ran (claim_missing renamed rfl)]
    exact ⟨lying, held, orderly.replaced (.inl ⟨orderly.idle ready, rfl⟩) (by rw [ready]; rfl)⟩
  · rw [file, Option.isNone_some, if_neg Bool.false_ne_true] at renamed
    rcases locate_own proper orderly.leads token with located | long
    · rw [located] at renamed
      rw [advance_ran (claim_moved renamed)]
      have empty : table.world.disk.node? (base ++ [privateName name token]) = none := by
        simpa only [Disk.nodeAt?, located] using free
      exact ⟨none, _, orderly_moved orderly ready here listed file ⟨clean, located⟩ empty⟩
    · -- The private name is too long: then the rename is not done, nor does it find nothing.
      rw [long] at renamed
      rw [renamed] at regular
      rcases regular with ⟨_, done⟩ | ⟨error, failed, missing⟩
      · cases done
      · cases failed
        cases missing

theorem inOrder_proceed {table : Table}
    (orderly : Orderly root name base table.world.disk table.written table.takers lying held) (number : Nat) :
    (table.advance number (table.takers number).proceed).InOrder root name base := by
  have fits := orderly.fits number
  cases stage : table.takers number with
  | ready =>
      have ran : Taker.ready.proceed table.world = .ok .ready table.world := rfl
      rw [advance_ran ran]
      rw [stage] at fits
      exact ⟨lying, held, orderly.replaced fits (by rw [stage])⟩
  | claimed own =>
      rw [stage] at fits
      obtain ⟨token, index, content, rfl, got, listed, stored⟩ := fits
      have read : table.world.disk.read (ownPath root name token) = .ok content := by
        rw [Disk.read_of_leads orderly.sound stored.leads, stored.file]
      have ran : (Taker.claimed (ownPath root name token)).proceed table.world =
          .ok (.read (ownPath root name token) (.ok content)) table.world := by
        rw [← read]
        rfl
      rw [advance_ran ran]
      refine ⟨lying, held, orderly.replaced ?_ (by rw [stage]; rfl)⟩
      exact ⟨token, index, content, rfl, got, listed, stored, rfl⟩
  | read own found =>
      rw [stage] at fits
      obtain ⟨token, index, content, rfl, got, listed, stored, rfl⟩ := fits
      have removed := discard_file table.world _ _ content orderly.sound stored.leads stored.file
      have ran : (Taker.read (ownPath root name token) (.ok content)).proceed table.world =
        .ok (.done (.ok (some content))) _ := bind_ran removed _
      rw [advance_ran ran]
      exact ⟨lying, held, orderly_removed orderly stage ⟨index, got, listed⟩⟩
  | done result =>
      have ran : (Taker.done result).proceed table.world = .ok (.done result) table.world := rfl
      rw [advance_ran ran]
      rw [stage] at fits
      exact ⟨lying, held, orderly.replaced fits (by rw [stage])⟩

theorem inOrder_move {table later : Table} (proper : name ≠ Name.up) (inOrder : table.InOrder root name base)
    (move : Move root name table later) : later.InOrder root name base := by
  obtain ⟨lying, held, orderly⟩ := inOrder
  cases move with
  | write content => exact ⟨_, held, orderly_write proper orderly content⟩
  | claim number token ready free regular => exact inOrder_claim proper orderly ready free regular
  | proceed number => exact inOrder_proceed orderly number

theorem inOrder_moves {start table : Table} (proper : name ≠ Name.up) (opens : Opens root name base start)
    (moves : Moves root name start table) : table.InOrder root name base := by
  induction moves with
  | start => exact ⟨_, _, orderly_opens opens⟩
  | move _ move ih => exact inOrder_move proper ih move

theorem nodeAt?_own (proper : name ≠ Name.up) (leads : disk.Leads (root.child name) (base ++ [name])) {token : Nat}
    (missing : disk.node? (base ++ [privateName name token]) = none) :
    disk.nodeAt? (ownPath root name token) = none := by
  rcases locate_own proper leads token with located | long
  · simp only [Disk.nodeAt?, located, missing]
  · simp only [Disk.nodeAt?, long]

end Keeping

/-- However the steps of takers and the writing of artifacts come between each other, what takers get can be
told by the number of the artifact: no two takers have the same one, a taker who is done has all of the content
of one, or nothing, and the last artifact that was written is still there or somebody has got it. When nobody is
between two steps there is nothing under a private name. The steps of one taker alone are those of `take`. -/
theorem artifact_taken_once {root : Path} {name : Name} {base : Location} {start table : Table}
    (proper : name ≠ Name.up) (opens : Opens root name base start) (moves : Moves root name start table) :
    (∃ held : Nat → Option Nat,
      (∀ left right index, held left = some index → held right = some index → left = right) ∧
      (∀ number result, table.takers number = .done result →
        (held number = none ∧ result = .ok none) ∨
          ∃ index content, held number = some index ∧ table.written[index]? = some content ∧
            result = .ok (some content)) ∧
      (∀ content, table.written.getLast? = some content →
        table.world.disk.node? (base ++ [name]) = some (.file content) ∨
          ∃ number, held number = some (table.written.length - 1))) ∧
    ((∀ number, table.takers number = .ready ∨ ∃ result, table.takers number = .done result) →
      ∀ token, table.world.disk.nodeAt? (ownPath root name token) = none) ∧
    take (root.child name) = takeAlone (root.child name) := by
  obtain ⟨lying, held, orderly⟩ := inOrder_moves proper opens moves
  refine ⟨⟨held, orderly.once, ?_, ?_⟩, ?_, take_eq_takeAlone _⟩
  · intro number result done
    have fits := orderly.fits number
    rw [done] at fits
    exact fits
  · intro content newest
    rw [List.getLast?_eq_getElem?] at newest
    have filled := (List.getElem?_eq_some_iff.mp newest).1
    rcases orderly.latest (table.written.length - 1) (by omega) with lies | got
    · rcases orderly.lies with ⟨nothing, _⟩ | ⟨index, found, here, listed, file⟩
      · rw [nothing] at lies
        cases lies
      · cases here.symm.trans lies
        cases listed.symm.trans newest
        exact .inl file
    · exact .inr got
  · intro settled token
    refine nodeAt?_own proper orderly.leads ?_
    by_contra there
    obtain ⟨number, own⟩ := orderly.owned token there
    rcases settled number with ready | ⟨result, done⟩
    · rw [ready] at own
      cases own
    · rw [done] at own
      cases own

namespace Overlap

def root : Path := ⟨.root, []⟩

def name : Name := Kind.callers.resultName

def opening : Table := ⟨⟨⟨[], [], {}⟩, ⟨.off, []⟩, {}⟩, fun _ => .ready, []⟩

def claims (table : Table) (number token : Nat) : Table :=
  table.advance number (Taker.claim (root.child name) (ownPath root name token))

def goesOn (table : Table) (number : Nat) : Table := table.advance number (table.takers number).proceed

-- The second artifact is written while the first is being read.
def first : Table := claims (opening.write (root.child name) [1]) 0 0

def second : Table := claims (goesOn (first.write (root.child name) [2]) 0) 1 1

def third : Table := claims second 2 2

def settled : Table := goesOn (goesOn (goesOn third 1) 0) 1

theorem opens : Opens root name [] opening where
  sound := rfl
  leads := ⟨by decide +kernel, by decide +kernel⟩
  empty rest := by simp [opening, Disk.node?]
  unclaimed token := by simp [opening, Disk.node?]
  ready _ := rfl
  unwritten := rfl

theorem moves : Moves root name opening settled := by
  have one : Moves root name opening first :=
    .move (.move .start (.write _ [1])) (.claim _ 0 0 rfl (by decide +kernel) (.inl ⟨_, rfl⟩))
  have two : Moves root name opening second :=
    .move (.move (.move one (.write _ [2])) (.proceed _ 0)) (.claim _ 1 1 rfl (by decide +kernel) (.inl ⟨_, rfl⟩))
  have three : Moves root name opening third :=
    .move two (.claim _ 2 2 rfl (by decide +kernel) (.inr ⟨_, rfl, rfl⟩))
  exact .move (.move (.move three (.proceed _ 1)) (.proceed _ 0)) (.proceed _ 1)

theorem takers_settled (number : Nat) :
    settled.takers number = .ready ∨ ∃ result, settled.takers number = .done result := by
  match number with
  | 0 | 1 | 2 => exact .inr ⟨_, rfl⟩
  | _ + 3 => exact .inl rfl

end Overlap

theorem overlapping_takers_apart :
    Opens Overlap.root Overlap.name [] Overlap.opening ∧
      Moves Overlap.root Overlap.name Overlap.opening Overlap.settled ∧
      Overlap.settled.takers 0 = .done (.ok (some [1])) ∧ Overlap.settled.takers 1 = .done (.ok (some [2])) ∧
      Overlap.settled.takers 2 = .done (.ok none) ∧
      ∀ token, Overlap.settled.world.disk.nodeAt? (ownPath Overlap.root Overlap.name token) = none := by
  obtain ⟨_, clear, _⟩ := artifact_taken_once (by decide) Overlap.opens Overlap.moves
  exact ⟨Overlap.opens, Overlap.moves, rfl, rfl, rfl, clear Overlap.takers_settled⟩

end LogtalkNavigation.Artifact
