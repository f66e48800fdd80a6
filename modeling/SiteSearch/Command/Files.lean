import SiteSearch.Config.Source
import SiteSearch.Metrics
import SiteSearch.Session
import SiteSearch.Text.Basic
import SiteSearch.Wire.Snapshot

-- Files as a command finds them: where a path leads, what stands there and what is loaded from it.
-- A file that is found can be measured and read; faults of the system in between are left out.
namespace SiteSearch.Command

inductive Content where
  | written (bytes : List UInt8)
  | gap (size : Nat)
  deriving DecidableEq

def Content.size : Content → Nat
  | .written bytes => bytes.length
  | .gap size => size

def Content.bytes : Content → List UInt8
  | .written bytes => bytes
  | .gap size => List.replicate size 0

inductive Entry where
  | folder
  | file (content : Content)
  deriving DecidableEq

abbrev Lookup := String → Except PathFault Entry

def maxNameBytes : Nat := 255

def maxPathBytes : Nat := 4095

inductive Place where
  | below (names : List String)
  | outside
  deriving DecidableEq

def Place.parent : Place → Place
  | .below (_ :: names) => .below names
  | _ => .outside

def Place.child? (name : String) : Place → Option Place
  | .below names => some (.below (name :: names))
  | .outside => none

-- A folder by the files and folders below it, each under its names from the top.
structure Folder where
  entries : List (List String × Entry)

namespace Folder

-- What stands at a place; a folder need not be listed if something below it is.
def entry? (folder : Folder) : Place → Option Entry
  | .outside => some .folder
  | .below [] => some .folder
  | .below names =>
    match folder.entries.lookup names.reverse with
    | some entry => some entry
    | none => if folder.entries.any (names.reverse.isPrefixOf ·.1) then some .folder else none

def entryAt (folder : Folder) (place : Place) : Except PathFault Entry :=
  match folder.entry? place with
  | some entry => .ok entry
  | none => .error .missing

-- One name further. Any name, even an empty one, needs a folder to start from.
def step (folder : Folder) (place : Place) (name : String) : Except PathFault Place := do
  match ← folder.entryAt place with
  | .file _ => throw .throughFile
  | .folder =>
    if name = "" ∨ name = "." then pure place
    else if name = ".." then pure place.parent
    else if name.utf8ByteSize > maxNameBytes then throw .tooLong
    else
      match place.child? name with
      | some place => pure place
      | none => throw .missing

def follow (folder : Folder) (path : String) : Except PathFault Entry := do
  let names := (Text.divide '/' path.toList).map String.ofList
  let start := if path.startsWith "/" then Place.outside else .below []
  folder.entryAt (← names.foldlM folder.step start)

-- A path is resolved name by name, so it may be of any length.
def lookup (folder : Folder) : Lookup := fun path =>
  if path.contains '\x00' then .error .embeddedNul
  else if path.isEmpty then .error .missing
  else folder.follow path

end Folder

structure Surroundings where
  look : Lookup
  -- settings that outweigh the configured ones
  origins : Option String := none
  rate : Option String := none
  key : Option String := none
  -- whether a server can listen at its address
  listens : ServerConfig → Bool

-- A gap is refused without writing its bytes out.
def storeOfContent : Content → Except SearchError Store
  | .written bytes => Wire.storeOfBytes bytes
  | .gap _ => .error (.unreadable .malformedSnapshot)

theorem storeOfContent_eq (content : Content) :
    storeOfContent content = Wire.storeOfBytes content.bytes := by
  cases content with
  | written bytes => rfl
  | gap size =>
    rw [Content.bytes, Wire.storeOfBytes, Json.Document.ofBytes_gap]
    rfl

def loadStore (look : Lookup) (path : String) : Except SearchError Store :=
  match look path with
  | .error fault => .error (.inaccessible (.unreachable path fault))
  | .ok .folder => .error (.inaccessible (.dataNotRegular path))
  | .ok (.file content) =>
    if content.size > maxSnapshotBytes then .error (.invalidSnapshot (.oversized content.size))
    else storeOfContent content

def configOfEntry (path : String) : Entry → Except SearchError Config
  | .folder => .error (.inaccessible (.configNotRegular path))
  | .file content =>
    if content.size > maxConfigBytes then .error (.inaccessible (.configOversized content.size))
    else
      match Text.ofBytes? content.bytes with
      | some text => Config.ofText text
      | none => .error (.inaccessible .configNotText)

-- The path is opened as it is written. A configuration that cannot be found is the stock one.
def loadConfigFile (look : Lookup) (path : String) : Except SearchError Config :=
  if path.utf8ByteSize > maxPathBytes then .ok {}
  else
    match look path with
    | .error _ => .ok {}
    | .ok entry => configOfEntry path entry

def loadConfig (around : Surroundings) (path : String) (data : Option String) :
    Except SearchError Config := do
  let config ← loadConfigFile around.look path
  pure ((config.withOverrides around.origins around.rate).withData data)

def loadSession (look : Lookup) (config : Config) : Except SearchError Session := do
  let weights ← config.weightTable
  let store ← loadStore look config.search.data
  Session.ofWeights store weights

def loadMetrics (look : Lookup) (config : Config) : Except SearchError Metrics :=
  Metrics.ofStore <$> loadStore look config.search.data

end SiteSearch.Command
