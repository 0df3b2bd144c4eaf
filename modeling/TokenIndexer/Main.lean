import TokenIndexer.Startup

namespace TokenIndexer.Program

def settingsFile (path : Option String) : IO SettingsFile := do
  match path with
  | none => return .unnamed
  | some path =>
    try return .contents (← IO.FS.readBinFile path).toList
    catch _ => return .missing

def environment : IO Environment := do
  return ⟨← IO.getEnv "TOKENSCOUT_REMOTE_URL", ← IO.getEnv "TOKENSCOUT_DATADIR"⟩

def usage : String :=
  "Usage: tokenscout [-c <config>] [-d <datadir>] [--remote-url <remote-url>]\n" ++
    "  [--max-slots <max-slots>] [--max-chunk-size <max-chunk-size>] [--json-logs]\n" ++
    "  [-o <overrides...>]\n\n" ++
    "Follows a Tendermint2 chain and registers the token contracts deployed on it"

def openStore (datadir : String) : IO (Except StoreError Unit) := do
  try
    IO.FS.createDirAll (datadir ++ "/sled")
    return .ok ()
  catch e => return .error (.io e.toString)

def finish (ending : ProgramEnd) : IO UInt32 := do
  match ending with
  | .help => IO.println usage
  | .usage => IO.eprintln "Run tokenscout --help for more information."
  | _ => ending.message?.forM fun message => IO.eprintln ("Error: " ++ message)
  return ending.exitCode

def start (arguments : Arguments) : IO UInt32 := do
  let file ← settingsFile arguments.config
  match Startup.configure arguments (← environment) file with
  | .error e => finish (.failed e)
  | .ok settings =>
    let opened ← openStore settings.store.datadir
    match Startup.prepare opened settings with
    | .error ending => finish ending
    | .ok _ =>
      IO.println ((Startup.logger settings).serviceName ++ " is ready")
      return 0

def run (words : List String) : IO UInt32 :=
  match Arguments.read words with
  | .error stop => finish (.ofStop stop)
  | .ok arguments => start arguments

end TokenIndexer.Program

def main (words : List String) : IO UInt32 := TokenIndexer.Program.run words
