import LogtalkNavigation.Proofs.Source.Answers

/-! What is remembered of source files changes no answer. The items of an answer share what has been read of files, and
that a file could not be read is remembered as well. On a disk that stays as it is, each item is nevertheless the one that
is made when its files are read for it alone, and if one cannot be made, the answer fails as that one does. -/

namespace LogtalkNavigation

open Act

namespace Source

-- What is known has been read, and what is read becomes known.
theorem simulates_knownRows (disk : Disk) (known : Known) (p : Path) (faithful : Faithful disk known) :
    Simulates disk (fun found rows => found.1 = rows ∧ Faithful disk found.2) (knownRows known p)
      (rowsRead disk p) := by
  unfold knownRows
  cases before : known.lookup p with
  | some rows =>
      rw [(rowsRead_eq_ok_iff disk p rows).mpr (faithful p rows before)]
      exact simulates_pure ⟨rfl, faithful⟩
  | none =>
      rw [← bind_pure (rowsRead disk p)]
      apply simulates_look_bind (looks_rows p)
      intro found read
      obtain ⟨rfl, fine⟩ := (rowsRead_eq_ok_iff disk p found).mp read
      exact simulates_pure ⟨rfl, faithful_append disk known p faithful fine⟩

end Source

namespace Hierarchy

open Source

theorem looks_uriOf (file : Text) : Looks (uriOf file) fun disk => disk.uriOf (Path.ofText file) :=
  looks_disk_bind fun disk => looks_ofExcept (disk.uriOf (Path.ofText file))

def callItem (record : CallFact) : Act Item := do
  let located ← locate (Path.ofText record.file) record.line record.name
  let uri ← uriOf record.file
  return ⟨record.name, .predicate, uri, located.range, located.selection, none⟩

def entityItem (record : EntityFact) : Act Item := do
  let located ← locateEntity (Path.ofText record.file) record.line record.name
  let kind ← Act.ofExcept (ItemKind.ofEntityType record.entityType)
  let uri ← uriOf record.file
  return ⟨record.name, kind, uri, located.range, located.selection, some record.entityType⟩

def callOf (record : CallFact) (p : Path) (line : Int) (symbol : Text) : Act Call := do
  let item ← callItem record
  let ranges ← sites p line symbol
  return ⟨item, ranges⟩

def callItemOn (disk : Disk) (record : CallFact) : Except Failure Item := do
  let found ← rowsRead disk (Path.ofText record.file)
  let located ← placed (record.line - 1) (symbolSpan found (record.line - 1) record.name)
  let uri ← disk.uriOf (Path.ofText record.file)
  return ⟨record.name, .predicate, uri, located.range, located.selection, none⟩

def entityItemOn (disk : Disk) (record : EntityFact) : Except Failure Item := do
  let found ← rowsRead disk (Path.ofText record.file)
  let located ← placed (record.line - 1) (entitySpan found (record.line - 1) record.name)
  let kind ← ItemKind.ofEntityType record.entityType
  let uri ← disk.uriOf (Path.ofText record.file)
  return ⟨record.name, kind, uri, located.range, located.selection, some record.entityType⟩

def callOn (disk : Disk) (record : CallFact) (p : Path) (line : Int) (symbol : Text) : Except Failure Call := do
  let item ← callItemOn disk record
  let found ← rowsRead disk p
  let sites ← ranges found line symbol
  return ⟨item, sites⟩

section Alone

variable (disk : Disk)

theorem simulates_callItem (record : CallFact) :
    Simulates disk Eq (callItem record) (callItemOn disk record) := by
  unfold callItemOn
  rw [← bind_assoc]
  apply simulates_look_bind (looks_locate _ _ _)
  intro located _
  apply simulates_look_bind (looks_uriOf _)
  intro uri _
  exact simulates_pure rfl

theorem simulates_entityItem (record : EntityFact) :
    Simulates disk Eq (entityItem record) (entityItemOn disk record) := by
  unfold entityItemOn
  rw [← bind_assoc]
  apply simulates_bind (simulates_locateEntity disk _ _ _)
  rintro located _ _ rfl
  apply simulates_look_bind (looks_ofExcept _)
  intro kind _
  apply simulates_look_bind (looks_uriOf _)
  intro uri _
  exact simulates_pure rfl

theorem simulates_callOf (record : CallFact) (p : Path) (line : Int) (symbol : Text) :
    Simulates disk Eq (callOf record p line symbol) (callOn disk record p line symbol) := by
  apply simulates_bind (simulates_callItem disk record)
  rintro item _ _ rfl
  rw [← bind_assoc]
  apply simulates_look_bind (looks_sites p line symbol)
  intro ranges _
  exact simulates_pure rfl

end Alone

section Shared

variable (disk : Disk) (known : Known) (faithful : Faithful disk known)
include faithful

theorem simulates_itemOfCall (record : CallFact) :
    Simulates disk (fun made item => made.1 = item ∧ Faithful disk made.2) (itemOfCall known record)
      (callItemOn disk record) := by
  apply simulates_bind (simulates_knownRows disk known _ faithful)
  rintro ⟨_, later⟩ found _ ⟨rfl, still⟩
  apply simulates_look_bind (looks_locatedOr _ _ _)
  intro located _
  apply simulates_look_bind (looks_uriOf _)
  intro uri _
  exact simulates_pure ⟨rfl, still⟩

theorem simulates_itemOfEntity (record : EntityFact) :
    Simulates disk (fun made item => made.1 = item ∧ Faithful disk made.2) (itemOfEntity known record)
      (entityItemOn disk record) := by
  apply simulates_bind (simulates_knownRows disk known _ faithful)
  rintro ⟨_, later⟩ found _ ⟨rfl, still⟩
  apply simulates_look_bind (looks_locatedOr _ _ _)
  intro located _
  apply simulates_look_bind (looks_ofExcept _)
  intro kind _
  apply simulates_look_bind (looks_uriOf _)
  intro uri _
  exact simulates_pure ⟨rfl, still⟩

theorem simulates_callsAt (site : CallFact → Path × Int × Text) (records : List CallFact) :
    Simulates disk Eq (callsAt site known records)
      (records.mapM fun record => callOn disk record (site record).1 (site record).2.1 (site record).2.2) := by
  induction records generalizing known with
  | nil => exact simulates_pure rfl
  | cons record rest ih =>
      rw [List.mapM_cons, callOn, bind_assoc]
      apply simulates_bind (simulates_itemOfCall disk known faithful record)
      rintro ⟨item, later⟩ _ _ ⟨rfl, still⟩
      rw [bind_assoc]
      apply simulates_bind (simulates_knownRows disk later _ still)
      rintro ⟨_, last⟩ found _ ⟨rfl, again⟩
      rw [bind_assoc]
      apply simulates_look_bind (looks_callSites _ _ _ _)
      intro ranges _
      rw [pure_bind]
      apply simulates_bind (ih last again)
      rintro calls _ _ rfl
      exact simulates_pure rfl

theorem simulates_itemsOfEntities (records : List EntityFact) :
    Simulates disk Eq (itemsOfEntities known records) (records.mapM (entityItemOn disk)) := by
  induction records generalizing known with
  | nil => exact simulates_pure rfl
  | cons record rest ih =>
      rw [List.mapM_cons]
      apply simulates_bind (simulates_itemOfEntity disk known faithful record)
      rintro ⟨item, later⟩ _ _ ⟨rfl, still⟩
      apply simulates_bind (ih later still)
      rintro items _ _ rfl
      exact simulates_pure rfl

end Shared

section Outcomes

variable (world : World)

theorem outcome_callOf (record : CallFact) (p : Path) (line : Int) (symbol : Text) :
    (callOf record p line symbol).outcome world = callOn world.disk record p line symbol :=
  outcome_of_simulates (simulates_callOf world.disk record p line symbol)

theorem outcome_entityItem (record : EntityFact) :
    (entityItem record).outcome world = entityItemOn world.disk record :=
  outcome_of_simulates (simulates_entityItem world.disk record)

theorem outcome_callsAt (site : CallFact → Path × Int × Text) (records : List CallFact) :
    (callsAt site [] records).outcome world = records.mapM fun record =>
      callOn world.disk record (site record).1 (site record).2.1 (site record).2.2 :=
  outcome_of_simulates (simulates_callsAt world.disk [] (faithful_nil world.disk) site records)

theorem outcome_itemsOfEntities (records : List EntityFact) :
    (itemsOfEntities [] records).outcome world = records.mapM (entityItemOn world.disk) :=
  outcome_of_simulates (simulates_itemsOfEntities world.disk [] (faithful_nil world.disk) records)

end Outcomes

/-- Each of the three answers is the list of what is made for the kept records one by one, every time from the
disk alone, or the first failure among these. -/
theorem memo_changes_no_answer (world : World) :
    (∀ symbol records, (incomingCalls symbol records).outcome world =
      (Record.latest callKey records).mapM fun record =>
        (callOf record (Path.ofText record.file) record.line symbol).outcome world) ∧
    (∀ p line records, (outgoingCalls p line records).outcome world =
      (Record.latest callKey records).mapM fun record => (callOf record p line record.name).outcome world) ∧
    ∀ records, (typeItems records).outcome world =
      (Record.latest entityKey records).mapM fun record => (entityItem record).outcome world := by
  refine ⟨fun symbol records => ?_, fun p line records => ?_, fun records => ?_⟩
  · simp only [outcome_callOf]
    exact outcome_callsAt world _ _
  · simp only [outcome_callOf]
    exact outcome_callsAt world _ _
  · simp only [outcome_entityItem]
    exact outcome_itemsOfEntities world _

end Hierarchy

end LogtalkNavigation
