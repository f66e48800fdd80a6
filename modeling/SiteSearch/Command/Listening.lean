import SiteSearch.Command.Files
import SiteSearch.Command.Output
import SiteSearch.Http.Service

-- The server: what it reports before it answers requests, and where a process without privileges
-- can listen.
namespace SiteSearch.Command

def isNumericAddress (host : String) : Bool :=
  let parts := Text.divide '.' host.toList
  parts.length == 4 && parts.all fun part => (Text.decimal? part).any (· < 256)

-- Other names than the machine's own cannot be looked up without a network.
def isReachable (host : String) : Bool :=
  isNumericAddress host || host == "localhost"

-- The lowest port that needs no privilege; port zero stands for any free one.
def firstOpenPort : UInt16 := 1024

def listensUnprivileged (server : ServerConfig) : Bool :=
  isReachable server.host && (server.port == 0 || firstOpenPort ≤ server.port)

inductive Ending where
  | done
  | failed (fault : SearchError)
  | serving (service : Http.Service) (state : Http.State)

structure Report where
  lines : List String
  ending : Ending

namespace Report

def done (lines : List String) : Report := { lines, ending := .done }

def text (report : Report) : String :=
  String.join (report.lines.map (· ++ "\n"))

-- A command that loads something first prints nothing if that fails.
def after {α : Type} (loaded : Except SearchError α) (next : α → Report) : Report :=
  match loaded with
  | .ok value => next value
  | .error fault => { lines := [], ending := .failed fault }

end Report

def Ending.of : Except SearchError Unit → Ending
  | .ok () => .done
  | .error fault => .failed fault

-- A server tells what it serves before it learns whether it can listen.
def runServer (around : Surroundings) (config : Config) : Report :=
  let loaded := do
    config.validate
    loadSession around.look config
  .after loaded fun session =>
    let ending :=
      if around.listens config.server then
        .serving (.ofConfig config around.key) (.ofConfig config session)
      else .failed (.inaccessible .bindFailed)
    { lines := serverLines config, ending }

end SiteSearch.Command
