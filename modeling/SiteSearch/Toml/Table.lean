-- TOML tables and how keys and headers build them up. Where a table comes from decides what
-- may still be added to it.
namespace SiteSearch.Toml

inductive Origin where
  | header
  -- was passed through by the header of a table inside it
  | implied
  -- was passed through by a dotted key, whatever came before it
  | dotted
  | braced
  deriving DecidableEq

inductive Item where
  | text (value : String)
  | integer (value : Int)
  -- a boolean, float, date, time or badly spelled integer
  | other
  -- `ofTables` if headers in double brackets add to it
  | array (items : List Item) (ofTables : Bool)
  | table (entries : List (String × Item)) (origin : Origin)

abbrev Entries := List (String × Item)

def Entries.has (entries : Entries) (key : String) : Bool :=
  (entries.lookup key).isSome

def Entries.replace (entries : Entries) (key : String) (item : Item) : Entries :=
  if entries.has key then
    entries.map fun entry => if entry.1 = key then (key, item) else entry
  else entries ++ [(key, item)]

def Entries.remove (entries : Entries) (key : String) : Entries :=
  entries.filter (·.1 ≠ key)

inductive Walk where
  | byKey
  | byHeader
  deriving DecidableEq

def Walk.origin : Walk → Origin
  | .byKey => .dotted
  | .byHeader => .implied

-- A dotted key does not reopen a table with a header, and it claims one that has none.
def Walk.enter? : Walk → Origin → Option Origin
  | _, .braced => none
  | .byKey, .header => none
  | .byKey, .implied => some .dotted
  | _, origin => some origin

def Entries.alter (walk : Walk) (change : Origin → Entries → Option Entries) (origin : Origin)
    (entries : Entries) : List String → Option Entries
  | [] => change origin entries
  | key :: path =>
    match entries.lookup key with
    | none => do
      let inner ← Entries.alter walk change walk.origin [] path
      some (entries.replace key (.table inner walk.origin))
    | some (.table inner origin) => do
      let origin ← walk.enter? origin
      let inner ← Entries.alter walk change origin inner path
      some (entries.replace key (.table inner origin))
    | some (.array items true) =>
      match items.getLast? with
      | some (.table inner origin) => do
        let inner ← Entries.alter walk change origin inner path
        some (entries.replace key (.array (items.dropLast ++ [.table inner origin]) true))
      | _ => none
    | some _ => none

-- Only dotted keys write to a table that they made or claimed, and they write to no other.
def Entries.assign (entries : Entries) (path : List String) (key : String) (value : Item) :
    Option Entries :=
  entries.alter .byKey (fun origin entries =>
    if (origin == .dotted) == path.isEmpty || entries.has key then none
    else some (entries ++ [(key, value)])) .header path

def Entries.find? (entries : Entries) (key : String) : List String → Option Item
  | [] => entries.lookup key
  | first :: path =>
    match entries.lookup first with
    | some (.table inner _) => Entries.find? inner key path
    | some (.array items true) =>
      match items.getLast? with
      | some (.table inner _) => Entries.find? inner key path
      | _ => none
    | _ => none

def Entries.openTable (entries : Entries) (path : List String) (key : String) :
    Option (Entries × Entries) := do
  let held := (entries.find? key path)
  let rest ← entries.alter .byHeader (fun _ entries =>
    match entries.lookup key with
    | none => some entries
    | some (.table _ .implied) => some (entries.remove key)
    | some _ => none) .header path
  match held with
  | some (.table inner _) => some (inner, rest)
  | _ => some ([], rest)

def Entries.closeTable (entries : Entries) (path : List String) (key : String) (inner : Entries) :
    Option Entries :=
  entries.alter .byHeader (fun _ entries => some (entries ++ [(key, .table inner .header)]))
    .header path

def Entries.openElement (entries : Entries) (path : List String) (key : String) : Option Entries :=
  entries.alter .byHeader (fun _ entries =>
    match entries.lookup key with
    | none => some (entries ++ [(key, .array [] true)])
    | some (.array _ true) => some entries
    | some _ => none) .header path

def Entries.closeElement (entries : Entries) (path : List String) (key : String)
    (inner : Entries) : Option Entries :=
  entries.alter .byHeader (fun _ entries =>
    match entries.lookup key with
    | some (.array items true) =>
      some (entries.replace key (.array (items ++ [.table inner .header]) true))
    | _ => none) .header path

structure Section where
  element : Bool
  path : List String
  key : String

-- A text as far as it is read: the table under the last header stands apart from the rest.
structure Draft where
  root : Entries := []
  current? : Option (Section × Entries) := none

def Draft.entries (draft : Draft) : Entries :=
  match draft.current? with
  | some (_, entries) => entries
  | none => draft.root

def Draft.assign (draft : Draft) (path : List String) (key : String) (value : Item) :
    Option Draft := do
  let entries ← draft.entries.assign path key value
  match draft.current? with
  | some (heading, _) => some { draft with current? := some (heading, entries) }
  | none => some { draft with root := entries }

def Draft.close (draft : Draft) : Option Entries :=
  match draft.current? with
  | none => some draft.root
  | some (heading, entries) =>
    if heading.element then draft.root.closeElement heading.path heading.key entries
    else draft.root.closeTable heading.path heading.key entries

def Draft.open (draft : Draft) (heading : Section) : Option Draft := do
  let root ← draft.close
  if heading.element then
    some { root := ← root.openElement heading.path heading.key, current? := some (heading, []) }
  else
    let (inner, root) ← root.openTable heading.path heading.key
    some { root, current? := some (heading, inner) }

end SiteSearch.Toml
