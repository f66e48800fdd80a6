import SiteSearch.Schema

-- Why an operation is refused. Every refusal is a cause; its wording is in `message`.
namespace SiteSearch

def maxQueryBytes : Nat := 256

def maxSnapshotBytes : Nat := 64 * 1024 * 1024

def maxConfigBytes : Nat := 1024 * 1024

inductive QueryFault where
  | empty
  | tooLong (bytes : Nat)
  deriving DecidableEq

inductive SnapshotFault where
  | emptyId (kind : Kind)
  | strayNode (id : String) (kind : Kind) (placed : Kind)
  | oversized (bytes : Nat)
  deriving DecidableEq

inductive ContentFault where
  | malformedSnapshot
  | malformedConfig
  | unknownField (name : String)
  | noResultsAllowed
  | defaultAboveMaximum (topK : Nat) (maxTopK : Nat)
  deriving DecidableEq

inductive PathFault where
  | missing
  | throughFile
  | tooLong
  | embeddedNul
  deriving DecidableEq

inductive AccessFault where
  | unreachable (path : String) (fault : PathFault)
  | dataNotRegular (path : String)
  | configNotRegular (path : String)
  | configOversized (bytes : Nat)
  | configNotText
  | bindFailed
  deriving DecidableEq

inductive SearchError where
  | dataNotLoaded (kind : Kind)
  | schemaMismatch (kind : Kind) (field : Field)
  | relationMisconfigured (relation : Relation) (foreignKey : Field)
  | invalidQuery (fault : QueryFault)
  | invalidSnapshot (fault : SnapshotFault)
  | unreadable (fault : ContentFault)
  | inaccessible (fault : AccessFault)
  deriving DecidableEq

def QueryFault.message : QueryFault → String
  | .empty => "query must not be empty"
  | .tooLong bytes => s!"query length {bytes} exceeds maximum {maxQueryBytes} bytes"

def SnapshotFault.message : SnapshotFault → String
  | .emptyId kind => s!"a record in '{kind.collection}' has an empty id"
  | .strayNode id kind placed =>
      s!"node '{id}' of kind '{kind.name}' placed in '{placed.collection}'"
  | .oversized bytes =>
      s!"File size {bytes} bytes exceeds maximum allowed {maxSnapshotBytes} bytes"

-- A text that is not JSON or not TOML is named without the reader's own remarks.
def ContentFault.message : ContentFault → String
  | .malformedSnapshot => "Snapshot JSON:"
  | .malformedConfig => "Invalid config:"
  | .unknownField name => s!"Unknown field name: {name}"
  | .noResultsAllowed => "search.max_top_k must be at least 1"
  | .defaultAboveMaximum topK maxTopK =>
      s!"search.top_k {topK} exceeds search.max_top_k {maxTopK}"

def PathFault.message : PathFault → String
  | .missing => "No such file or directory (os error 2)"
  | .throughFile => "Not a directory (os error 20)"
  | .tooLong => "File name too long (os error 36)"
  | .embeddedNul => "file name contained an unexpected NUL byte"

def AccessFault.message : AccessFault → String
  | .unreachable path fault => s!"Invalid file path '{path}': {fault.message}"
  | .dataNotRegular path => s!"Path '{path}' is not a regular file"
  | .configNotRegular path => s!"Config path '{path}' is not a regular file"
  | .configOversized bytes =>
      s!"Config file size {bytes} bytes exceeds maximum allowed {maxConfigBytes} bytes"
  | .configNotText => "Read config: stream did not contain valid UTF-8"
  | .bindFailed => "Bind failed:"

def SearchError.message : SearchError → String
  | .dataNotLoaded kind =>
      s!"The initial data was not loaded: collection '{kind.collection}' is absent"
  | .schemaMismatch kind field =>
      s!"Node kind '{kind.name}' does not have a field '{field.key}'"
  | .relationMisconfigured relation foreignKey =>
      s!"Relation {relation.text} is misconfigured: '{foreignKey.key}' is not a foreign key "
        ++ s!"of '{relation.acceptor.name}'"
  | .invalidQuery fault => "Invalid query: " ++ fault.message
  | .invalidSnapshot fault => "Invalid snapshot: " ++ fault.message
  | .unreadable fault => "Deserialization error: " ++ fault.message
  | .inaccessible fault => "I/O error: " ++ fault.message

end SiteSearch
