import LogtalkNavigation.Toml.Scalar

/-! TOML documents. A document is a sequence of statements: entries, and headers that say which table
the following entries belong to. What may be opened again, and what is closed, is kept beside the
tables: tables that a header has opened, tables that a dotted key has opened under an earlier header,
and lists and tables that are written out as values. -/

namespace LogtalkNavigation.Toml

abbrev Entries := List (String × Value)

def need {α : Type} : Option α → Except Fault α
  | some value => .ok value
  | none => .error .invalid

/-- Changes the table at a key, and makes tables on the way that are missing. If `throughLists`, a
list stands for its last item. -/
def atKey (throughLists : Bool) : Key → (Entries → Option Entries) → Entries → Option Entries
  | [], change, entries => change entries
  | part :: key, change, entries =>
    match entries.lookup part with
    | none => do
      let inner ← atKey throughLists key change []
      some (setEntry part (.table inner) entries)
    | some (.table inner) => do
      let inner ← atKey throughLists key change inner
      some (setEntry part (.table inner) entries)
    | some (.list items) =>
      match throughLists, items.getLast? with
      | true, some (.table inner) => do
        let inner ← atKey throughLists key change inner
        some (setEntry part (.list (items.dropLast ++ [.table inner])) entries)
      | _, _ => none
    | some _ => none

def addNew (name : String) (value : Value) (entries : Entries) : Option Entries :=
  if (entries.lookup name).isSome then none else some (entries ++ [(name, value)])

def addAt (throughLists : Bool) (parent key : Key) (value : Value) (entries : Entries) :
    Option Entries := do
  let name ← key.getLast?
  atKey throughLists (parent ++ key.dropLast) (addNew name value) entries

def addItem (key : Key) (entries : Entries) : Option Entries := do
  let name ← key.getLast?
  let append (entries : Entries) : Option Entries :=
    match entries.lookup name with
    | none => some (entries ++ [(name, .list [.table []])])
    | some (.list items) => some (setEntry name (.list (items ++ [.table []])) entries)
    | some _ => none
  atKey true key.dropLast append entries

def isBelow (keys : List Key) (key : Key) : Bool := keys.any (·.isPrefixOf key)

def isCompound : Value → Bool
  | .list _ | .table _ => true
  | _ => false

mutual

/-- Reads a value. The fuel bounds how many values, items and entries are read. -/
def value : Nat → Text → Except Fault (Value × Text)
  | 0, _ => .error .invalid
  | fuel + 1, text =>
    match string? text with
    | some reading => do
      let (content, rest) ← need reading
      return (.string (String.ofList content), rest)
    | none =>
      match text with
      | 't' :: 'r' :: 'u' :: 'e' :: rest => .ok (.bool true, rest)
      | 'f' :: 'a' :: 'l' :: 's' :: 'e' :: rest => .ok (.bool false, rest)
      | '[' :: rest => do
        match ← need (skipFiller rest) with
        | ']' :: rest => return (.list [], rest)
        | rest => items fuel [] rest
      | '{' :: rest =>
        match skipBlanks rest with
        | '}' :: rest => .ok (.table [], rest)
        | rest => entries fuel [] [] rest
      | _ => scalar text

def items : Nat → List Value → Text → Except Fault (Value × Text)
  | 0, _, _ => .error .invalid
  | fuel + 1, read, text => do
    let (item, rest) ← value fuel text
    let read := read ++ [item]
    match ← need (skipFiller rest) with
    | ']' :: rest => return (.list read, rest)
    | ',' :: rest =>
      match ← need (skipFiller rest) with
      | ']' :: rest => return (.list read, rest)
      | rest => items fuel read rest
    | _ => .error .invalid

def entries : Nat → (closed : List Key) → Entries → Text → Except Fault (Value × Text)
  | 0, _, _, _ => .error .invalid
  | fuel + 1, closed, read, text => do
    let (key, rest) ← need (key text)
    match rest with
    | '=' :: rest =>
      let (entry, rest) ← value fuel (skipBlanks rest)
      if isBelow closed key then .error .invalid
      else
        let read ← need (addAt false [] key entry read)
        match skipBlanks rest with
        | '}' :: rest => return (.table read, rest)
        | ',' :: rest =>
          entries fuel (if isCompound entry then key :: closed else closed) read (skipBlanks rest)
        | _ => .error .invalid
    | _ => .error .invalid

end

def entry (text : Text) : Except Fault ((Key × Value) × Text) := do
  let (key, rest) ← need (key text)
  match rest with
  | '=' :: rest =>
    let text := skipBlanks rest
    let (value, rest) ← value (2 * text.length + 2) text
    return ((key, value), rest)
  | _ => .error .invalid

structure Draft where
  entries : Entries := []
  header : Key := []
  -- Tables that no header or dotted key may open again.
  opened : List Key := []
  -- Tables that dotted keys have opened since the last header.
  dotted : List Key := []
  -- Lists and tables that are written out.
  closed : List Key := []

namespace Draft

def settle (draft : Draft) : Draft :=
  { draft with opened := draft.dotted ++ draft.opened, dotted := [] }

def openTable (draft : Draft) (key : Key) : Option Draft := do
  if draft.opened.contains key || isBelow draft.closed key then none
  else
    let entries ← atKey true key some draft.entries
    some { draft with entries, header := key, opened := key :: draft.opened }

def openItem (draft : Draft) (key : Key) : Option Draft := do
  if isBelow draft.closed key then none
  else
    let outside (other : Key) : Bool := !key.isPrefixOf other
    let entries ← addItem key draft.entries
    some { draft with
      entries
      header := key
      opened := key :: draft.opened.filter outside
      closed := draft.closed.filter outside }

def opens (draft : Draft) (key : Key) : List Key :=
  (List.range (key.length - 1)).map fun count => draft.header ++ key.take (count + 1)

def addEntry (draft : Draft) (key : Key) (value : Value) : Option Draft := do
  let opens := draft.opens key
  if opens.any draft.opened.contains || isBelow draft.closed (draft.header ++ key.dropLast) then none
  else
    let entries ← addAt true draft.header key value draft.entries
    some { draft with
      entries
      dotted := opens ++ draft.dotted
      closed := if isCompound value then (draft.header ++ key) :: draft.closed else draft.closed }

end Draft

def header (draft : Draft) : Text → Except Fault (Draft × Text)
  | '[' :: text => do
    let (key, rest) ← need (key (skipBlanks text))
    let draft ← need (draft.openItem key)
    match rest with
    | ']' :: ']' :: rest => return (draft, rest)
    | _ => .error .invalid
  | text => do
    let (key, rest) ← need (key (skipBlanks text))
    let draft ← need (draft.openTable key)
    match rest with
    | ']' :: rest => return (draft, rest)
    | _ => .error .invalid

def statement (draft : Draft) : Text → Except Fault (Draft × Text)
  | '[' :: text => header draft.settle text
  | c :: text =>
    if c = '#' || c = '\n' then .ok (draft, c :: text)
    else do
      let ((key, value), rest) ← entry (c :: text)
      return (← need (draft.addEntry key value), rest)
  | [] => .ok (draft, [])

def linesFuel : Nat → Draft → Text → Except Fault Entries
  | 0, _, _ => .error .invalid
  | fuel + 1, draft, text => do
    let (draft, rest) ← statement draft (skipBlanks text)
    match ← need (skipComment (skipBlanks rest)) with
    | [] => return draft.entries
    | '\n' :: rest => linesFuel fuel draft rest
    | _ => .error .invalid

def ofText (text : Text) : Except Fault Entries := linesFuel (text.length + 1) {} text

end LogtalkNavigation.Toml
