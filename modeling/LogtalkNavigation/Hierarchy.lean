import LogtalkNavigation.Cursor.Symbol
import LogtalkNavigation.Record.Artifact
import LogtalkNavigation.Source

namespace LogtalkNavigation

inductive ItemKind where
  | predicate
  | object
  | protocol
  | category
deriving DecidableEq, Repr

namespace ItemKind

-- The number by which clients know a kind: function, class, interface and struct.
def number : ItemKind → Nat
  | .predicate => 12
  | .object => 5
  | .protocol => 11
  | .category => 23

def ofEntityType (entityType : Text) : Except Failure ItemKind :=
  if entityType = "object".toList then .ok .object
  else if entityType = "protocol".toList then .ok .protocol
  else if entityType = "category".toList then .ok .category
  else .error (.unknownEntityType entityType)

end ItemKind

structure Item where
  name : Text
  kind : ItemKind
  uri : Text
  range : Range
  selection : Range
  detail : Option Text
deriving DecidableEq, Repr

/-- The other end of a call, and where on the caller's line the callee is named. -/
structure Call where
  item : Item
  sites : List Range
deriving DecidableEq, Repr

structure Place where
  uri : Text
  range : Range
deriving DecidableEq, Repr

/-- The URI of a path. A relative path is resolved first, which a NUL in it prevents. -/
def Disk.uriOf (disk : Disk) (p : Path) : Except Failure Text :=
  if p.isAbsolute then .ok p.uri
  else if p.text.contains '\x00' then .error .nulInPath
  else .ok (p.resolve disk.home).uri

namespace Hierarchy

structure SameFact where
  name : Text
  file : Text
  line : Int
deriving DecidableEq

def callKey (record : CallFact) : SameFact :=
  ⟨record.name, Text.fold (Record.tidy record.file), record.line⟩

def entityKey (record : EntityFact) : SameFact :=
  ⟨record.name, Text.fold (Record.tidy record.file), record.line⟩

def uriOf (file : Text) : Act Text := do
  Act.ofExcept ((← Act.disk).uriOf (Path.ofText file))

def focalItem (kind : ItemKind) (p : Path) (position : Position) (symbol : Text) : Act Item := do
  let range := Range.empty position
  return ⟨symbol, kind, ← Act.ofExcept ((← Act.disk).uriOf p), range, range, none⟩

def prepareCall (p : Path) (document : Text) (position : Position) : Act (Option (List Item)) := do
  match ← Act.ofExcept (Cursor.call? document position.line position.character) with
  | some symbol => return some [← focalItem .predicate p position symbol]
  | none => return none

def prepareType (p : Path) (document : Text) (position : Position) : Act (Option (List Item)) := do
  match Cursor.entity? document position.line position.character with
  | some entity => return some [← focalItem .object p position entity]
  | none => return none

def itemOfCall (known : Source.Known) (record : CallFact) : Act (Item × Source.Known) := do
  let p := Path.ofText record.file
  let (rows, known) ← Source.knownRows known p
  let located ← Source.findSymbol p rows record.line record.name
  let uri ← uriOf record.file
  return (⟨record.name, .predicate, uri, located.range, located.selection, none⟩, known)

def itemOfEntity (known : Source.Known) (record : EntityFact) : Act (Item × Source.Known) := do
  let p := Path.ofText record.file
  let (rows, known) ← Source.knownRows known p
  let located ← Source.findEntity p rows record.line record.name
  let kind ← Act.ofExcept (ItemKind.ofEntityType record.entityType)
  let uri ← uriOf record.file
  return (⟨record.name, kind, uri, located.range, located.selection, some record.entityType⟩, known)

/-- The calls of some records. `site` gives for each record where its call is: in which file, on
which line, and of which symbol. -/
def callsAt (site : CallFact → Path × Int × Text) :
    Source.Known → List CallFact → Act (List Call)
  | _, [] => return []
  | known, record :: rest => do
    let (item, known) ← itemOfCall known record
    let (p, line, symbol) := site record
    let (rows, known) ← Source.knownRows known p
    let sites ← Source.callSites p rows line symbol
    return ⟨item, sites⟩ :: (← callsAt site known rest)

def incomingCalls (symbol : Text) (records : List CallFact) : Act (List Call) :=
  callsAt (fun record => (Path.ofText record.file, record.line, symbol)) []
    (Record.latest callKey records)

def outgoingCalls (p : Path) (line : Int) (records : List CallFact) : Act (List Call) :=
  callsAt (fun record => (p, line, record.name)) [] (Record.latest callKey records)

def itemsOfEntities : Source.Known → List EntityFact → Act (List Item)
  | _, [] => return []
  | known, record :: rest => do
    let (item, known) ← itemOfEntity known record
    return item :: (← itemsOfEntities known rest)

def typeItems (records : List EntityFact) : Act (List Item) :=
  itemsOfEntities [] (Record.latest entityKey records)

def place (record : PlaceFact) : Act Place := do
  let uri ← uriOf record.file
  return ⟨uri, Range.empty (← Act.ofExcept (Position.ofInts (record.line - 1) 0))⟩

def places (records : List PlaceFact) : Act (List Place) := records.mapM place

def typeDefinition (record : Option PlaceFact) : Act (Option Place) := do
  match record with
  | some record => return some (← place record)
  | none =>
    Act.note .info "type definition not found"
    return none

def calls (records : List Record) : List CallFact :=
  records.filterMap fun
    | .call record => some record
    | _ => none

def entities (records : List Record) : List EntityFact :=
  records.filterMap fun
    | .entity record => some record
    | _ => none

def placesOfText (text : Text) : Act (List Place) :=
  Record.collect .references
    (fun
      | .location record => return [← place record]
      | _ => return [])
    (Text.lines text)

def typeDefinitionOfText (text : Text) : Act (Option Place) := do
  match ← Record.first? .typeDefinition (Text.lines text) with
  | some (.location record) => typeDefinition (some record)
  | _ => typeDefinition none

end Hierarchy

end LogtalkNavigation
