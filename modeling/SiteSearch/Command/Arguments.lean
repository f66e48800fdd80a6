import SiteSearch.Text.Basic

-- The words of a command line. Settings and flags that every command knows may stand before
-- the command and after it; a command's own stand after it.
namespace SiteSearch.Command

inductive Verb where
  | server
  | search
  | status
  | validate
  | weights
  | hash
  deriving DecidableEq

inductive Flag where
  | quiet
  | json
  | help
  | version
  deriving DecidableEq

inductive Setting where
  | config
  | data
  | host
  | port
  | limit
  deriving DecidableEq

inductive Mark where
  | flag (flag : Flag)
  | setting (setting : Setting)
  deriving DecidableEq

inductive Task where
  | serve (host : Option String) (port : Option UInt16)
  | search (query : String) (limit : Option Nat)
  | status
  | validate
  | weights
  | hash
  deriving DecidableEq

structure Invocation where
  quiet : Bool := false
  json : Bool := false
  configPath : String := "lockscout.toml"
  -- in place of the path that is configured
  dataPath : Option String := none
  task : Task := .status
  deriving DecidableEq

inductive Halt where
  | help
  | version
  | usage
  deriving DecidableEq

def Verb.ofName? : String → Option Verb
  | "server" => some .server
  | "search" => some .search
  | "status" => some .status
  | "validate" => some .validate
  | "weights" => some .weights
  | "hash" => some .hash
  | _ => none

abbrev Scope := Option Verb

namespace Mark

def ofName? (scope : Scope) (name : String) : Option Mark :=
  match scope, name with
  | _, "quiet" => some (.flag .quiet)
  | _, "json-mode" => some (.flag .json)
  | _, "help" => some (.flag .help)
  | none, "version" => some (.flag .version)
  | _, "config" => some (.setting .config)
  | _, "data" => some (.setting .data)
  | some .server, "host" => some (.setting .host)
  | some .server, "port" => some (.setting .port)
  | some .search, "limit" => some (.setting .limit)
  | _, _ => none

def ofLetter? (scope : Scope) (letter : Char) : Option Mark :=
  match scope, letter with
  | _, 'q' => some (.flag .quiet)
  | _, 'h' => some (.flag .help)
  | none, 'V' => some (.flag .version)
  | _, 'c' => some (.setting .config)
  | _, 'D' => some (.setting .data)
  | some .server, 'H' => some (.setting .host)
  | some .server, 'p' => some (.setting .port)
  | some .search, 'l' => some (.setting .limit)
  | _, _ => none

end Mark

def path? (text : String) : Option String :=
  if text.isEmpty then none else some text

-- A minus sign is no harm before a zero.
def port? (text : String) : Option UInt16 :=
  let value := match text.toList with
    | '-' :: digits => (Text.decimal? digits).filter (· = 0)
    | digits => Text.signedDecimal? digits
  (value.filter (· < UInt16.size)).map UInt16.ofNat

def limit? (text : String) : Option Nat :=
  (Text.signedDecimal? text.toList).filter (· < UInt64.size)

-- What the words of one scope have said so far. The last setting stays open until the next
-- mark or plain word: only then is its value checked.
structure Draft where
  quiet : Bool := false
  json : Bool := false
  config : Option String := none
  data : Option String := none
  host : Option String := none
  port : Option UInt16 := none
  limit : Option Nat := none
  query : Option String := none
  last : Option (Setting × Option String) := none

def fill {α : Type} (held value : Option α) : Except Halt (Option α) :=
  match held, value with
  | none, some value => .ok (some value)
  | _, _ => .error .usage

namespace Draft

def assign (draft : Draft) (setting : Setting) (text : String) : Except Halt Draft := do
  match setting with
  | .config => pure { draft with config := ← fill draft.config (path? text) }
  | .data => pure { draft with data := ← fill draft.data (path? text) }
  | .host => pure { draft with host := ← fill draft.host (some text) }
  | .port => pure { draft with port := ← fill draft.port (port? text) }
  | .limit => pure { draft with limit := ← fill draft.limit (limit? text) }

-- Whether the next word is the value of the last setting, unless it is a mark itself.
def awaits (draft : Draft) : Bool :=
  match draft.last with
  | some (_, none) => true
  | _ => false

def settle (draft : Draft) : Except Halt Draft :=
  match draft.last with
  | none => .ok draft
  | some (_, none) => .error .usage
  | some (setting, some text) => { draft with last := none }.assign setting text

def raise (draft : Draft) (flag : Flag) : Except Halt Draft := do
  let draft ← draft.settle
  match flag with
  | .help => throw .help
  | .version => throw .version
  | .quiet => if draft.quiet then throw .usage else pure { draft with quiet := true }
  | .json => if draft.json then throw .usage else pure { draft with json := true }

def openSetting (draft : Draft) (setting : Setting) : Except Halt Draft := do
  pure { ← draft.settle with last := some (setting, none) }

def assignNow (draft : Draft) (setting : Setting) (text : String) : Except Halt Draft := do
  (← draft.settle).assign setting text

def takeNamed (scope : Scope) (draft : Draft) (word : List Char) : Except Halt Draft :=
  let name := String.ofList (word.takeWhile (· ≠ '='))
  match Mark.ofName? scope name, word.dropWhile (· ≠ '=') with
  | some (.flag flag), [] => draft.raise flag
  | some (.setting setting), [] => draft.openSetting setting
  | some (.setting setting), _ :: value => draft.assignNow setting (String.ofList value)
  | _, _ => .error .usage

-- Marks by their letters; what follows a setting's letter is its value.
def takeLetters (scope : Scope) (draft : Draft) : List Char → Except Halt Draft
  | [] => .ok draft
  | letter :: rest =>
    match Mark.ofLetter? scope letter with
    | some (.flag flag) => do takeLetters scope (← draft.raise flag) rest
    | some (.setting setting) =>
      match rest with
      | [] => draft.openSetting setting
      | '=' :: value => draft.assignNow setting (String.ofList value)
      | value => draft.assignNow setting (String.ofList value)
    | none => .error .usage

-- Only a search takes a plain word, and only one.
def takePlain (scope : Scope) (draft : Draft) (word : String) : Except Halt Draft := do
  let draft ← draft.settle
  match scope with
  | some .search => pure { draft with query := ← fill draft.query (some word) }
  | _ => throw .usage

def take (scope : Scope) (draft : Draft) (word : String) : Except Halt Draft :=
  match word.toList with
  | '-' :: '-' :: name => draft.takeNamed scope name
  | '-' :: letter :: letters => draft.takeLetters scope (letter :: letters)
  | _ =>
    match draft.last with
    | some (setting, none) => .ok { draft with last := some (setting, some word) }
    | _ => draft.takePlain scope word

def takeAll (scope : Scope) (draft : Draft) : List String → Except Halt Draft
  | [] => .ok draft
  | "--" :: words => words.foldlM (takePlain scope) draft
  | word :: words => do takeAll scope (← draft.take scope word) words

end Draft

-- The word for help may be followed by one command, or by itself.
def askedHelp : List String → Halt
  | [] => .help
  | [word] => if word = "help" ∨ (Verb.ofName? word).isSome then .help else .usage
  | _ => .usage

-- Reads up to the command, if there is one, and leaves the words after it.
def readFront (draft : Draft) : List String → Except Halt (Draft × Option (Verb × List String))
  | [] => .ok (draft, none)
  | word :: words =>
    if draft.awaits then do readFront (← draft.take none word) words
    else if word = "help" then .error (askedHelp words)
    else
      match Verb.ofName? word with
      | some verb => .ok (draft, some (verb, words))
      | none =>
        if word = "--" then do pure (← words.foldlM (Draft.takePlain none) draft, none)
        else do readFront (← draft.take none word) words

def Draft.task (draft : Draft) : Verb → Except Halt Task
  | .server => .ok (.serve draft.host draft.port)
  | .search =>
    match draft.query with
    | some query => .ok (.search query draft.limit)
    | none => .error .usage
  | .status => .ok .status
  | .validate => .ok .validate
  | .weights => .ok .weights
  | .hash => .ok .hash

-- What stands after the command outweighs what stands before it.
def Draft.combine (front own : Draft) (task : Task) : Invocation :=
  let fallback : Invocation := {}
  { quiet := front.quiet || own.quiet
    json := front.json || own.json
    configPath := (own.config <|> front.config).getD fallback.configPath
    dataPath := own.data <|> front.data
    task }

def readArguments (words : List String) : Except Halt Invocation := do
  match ← readFront {} words with
  | (front, none) => pure ((← front.settle).combine {} .status)
  | (front, some (verb, rest)) =>
    let own ← (← Draft.takeAll (some verb) {} rest).settle
    let task ← own.task verb
    pure ((← front.settle).combine own task)

end SiteSearch.Command
