import SiteSearch.Command.Run

-- The program: reads the command line, finds its files, runs the command and prints.
namespace SiteSearch.Command

def banner : List String := [
  "",
  "  _                _                        _",
  " | |    ___   ___ | | __ ___   ___  ___  _  _| |_",
  " | |__ / _ \\ / __|| |/ // __| / __|/ _ \\| || |  _|",
  " |____|\\___/ \\___||_|\\_\\\\__ \\ \\___|\\___/ \\_,_|\\__|",
  "                         |___/",
  "",
  "  Lockscout Search Server v" ++ Wire.programVersion,
  ""]

def helpLines : List String := [
  "Usage: lockscout [OPTIONS] [COMMAND]",
  "",
  "Commands:",
  "  server    Start HTTP server [-H, --host HOST] [-p, --port PORT]",
  "  search    Run a single search: QUERY [-l, --limit LIMIT]",
  "  status    Show snapshot status",
  "  validate  Validate configuration and snapshot",
  "  weights   Show the effective weight tables",
  "  hash      Compute checksum and BLAKE3 hash of the snapshot",
  "  help      Print this message",
  "",
  "Options:",
  "  -q, --quiet          Suppress banner output",
  "  -c, --config CONFIG  Path to the TOML configuration file",
  "  -D, --data DATA      Path to the JSON snapshot",
  "      --json-mode      Output in JSON format",
  "  -h, --help           Print help",
  "  -V, --version        Print version"]

-- What a fault on opening or reading a file says about its path. A folder opens like a file
-- but cannot be read, and the fault of a reading names no file.
def entryOfFault : IO.Error → Except PathFault Entry
  | .inappropriateType none .. => .ok .folder
  | .inappropriateType (some _) .. => .error .throughFile
  | .invalidArgument .. => .error .tooLong
  | _ => .error .missing

def findEntry (path : String) : IO (Except PathFault Entry) := do
  if path.contains '\x00' then return .error .embeddedNul
  try
    let bytes ← IO.FS.readBinFile (← IO.FS.realPath path)
    pure (.ok (.file (.written bytes.toList)))
  catch fault => pure (entryOfFault fault)

def findSurroundings (invocation : Invocation) : IO Surroundings := do
  let configEntry ← findEntry invocation.configPath
  let origins ← IO.getEnv "LOCKSCOUT_CORS_ORIGINS"
  let rate ← IO.getEnv "LOCKSCOUT_RATE_LIMIT"
  let key ← IO.getEnv "LOCKSCOUT_API_KEY"
  let look : Lookup := fun _ => configEntry
  -- there is no listener in this program
  let around : Surroundings := { look, origins, rate, key, listens := fun _ => false }
  match loadConfig around invocation.configPath invocation.dataPath with
  | .error _ => pure around
  | .ok config =>
    let dataEntry ← findEntry config.search.data
    pure { around with
      look := fun path => if path = invocation.configPath then configEntry else dataEntry }

def printLines (lines : List String) : IO Unit :=
  lines.forM fun line => IO.println line

def perform (invocation : Invocation) : IO UInt32 := do
  if !invocation.quiet && !invocation.json then printLines banner
  let report := run (← findSurroundings invocation) invocation
  IO.print report.text
  match report.ending with
  | .failed fault => do
    IO.eprintln ("Error: " ++ fault.message)
    pure 1
  | _ => pure 0

def start (words : List String) : IO UInt32 := do
  match readArguments words with
  | .ok invocation => perform invocation
  | .error .help => do
    printLines helpLines
    pure 0
  | .error .version => do
    IO.println ("lockscout " ++ Wire.programVersion)
    pure 0
  | .error .usage => do
    IO.eprintln "error: unknown or incomplete arguments; for more information, try '--help'"
    pure 2

end SiteSearch.Command

def main (words : List String) : IO UInt32 :=
  SiteSearch.Command.start words
