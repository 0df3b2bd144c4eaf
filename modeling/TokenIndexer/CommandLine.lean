import TokenIndexer.Settings.Load

namespace TokenIndexer

structure Arguments where
  /-- The settings file. -/
  config : Option String
  datadir : Option String
  remoteUrl : Option String
  maxSlots : Option UInt64
  maxChunkSize : Option UInt64
  jsonLogs : Bool
  /-- Overrides of the form `key=value`, in order. -/
  overrides : List String
  deriving DecidableEq

inductive UsageStop where
  | help
  | invalid
  deriving DecidableEq, Repr

structure Environment where
  remoteUrl : Option String
  datadir : Option String
  deriving DecidableEq

inductive StartError where
  | flagOutOfRange (flag : String) (value : UInt64)
  | settings (error : SettingsError)
  deriving DecidableEq

def StartError.message : StartError → String
  | .flagOutOfRange flag value =>
    "--" ++ flag ++ " value " ++ Decimal.natText value.toNat ++ " does not fit in a config integer"
  | .settings error => "config: " ++ error.message

namespace Arguments

def empty : Arguments := ⟨none, none, none, none, none, false, []⟩

def once {α : Type} (present : Option α) (value : Option α) : Option (Option α) :=
  if present.isSome then none else value.map some

def word? (text : String) : Option UInt64 :=
  (Decimal.readNat? text.toList).bind fun n => if n < UInt64.size then some (UInt64.ofNat n) else none

def withOption? (arguments : Arguments) (option value : String) : Option Arguments :=
  if option = "-c" ∨ option = "--config" then
    (once arguments.config (some value)).map fun v => { arguments with config := v }
  else if option = "-d" ∨ option = "--datadir" then
    (once arguments.datadir (some value)).map fun v => { arguments with datadir := v }
  else if option = "--remote-url" then
    (once arguments.remoteUrl (some value)).map fun v => { arguments with remoteUrl := v }
  else if option = "--max-slots" then
    (once arguments.maxSlots (word? value)).map fun v => { arguments with maxSlots := v }
  else if option = "--max-chunk-size" then
    (once arguments.maxChunkSize (word? value)).map fun v => { arguments with maxChunkSize := v }
  else if option = "-o" ∨ option = "--overrides" then
    some { arguments with overrides := arguments.overrides ++ [value] }
  else none

def asksForHelp (word : String) : Bool := word == "--help" || word == "help"

/-- Reads the arguments that are left. Once help was asked for no option may follow; after `--`
everything is a positional argument, and there are none. An option takes the next word, whatever it
looks like. -/
def readFrom (help : Bool) (arguments : Arguments) : List String → Except UsageStop Arguments
  | [] => if help then .error .help else .ok arguments
  | word :: words =>
    if asksForHelp word then readFrom true arguments words
    else if word = "--" then
      if words = [] then if help then .error .help else .ok arguments else .error .invalid
    else if help then .error .invalid
    else if word = "--json-logs" then readFrom help { arguments with jsonLogs := true } words
    else
      match words with
      | [] => .error .invalid
      | value :: words =>
        match arguments.withOption? word value with
        | some arguments => readFrom help arguments words
        | none => .error .invalid

def read (words : List String) : Except UsageStop Arguments := readFrom false empty words

/-- A flag's number as a value of the settings, which holds signed numbers of 64 bits. -/
def flagValue (flag : String) (value : UInt64) : Except StartError Toml :=
  if value.toNat ≤ Int64.maxValue.toInt then .ok (.int (Int64.ofUInt64 value))
  else .error (.flagOutOfRange flag value)

def flagOverride (name flag : String) : Option UInt64 → Except StartError (List Override)
  | none => .ok []
  | some value => (flagValue flag value).map fun v => [Override.ofName name v]

def textOverride (name : String) (value : Option String) : List Override :=
  (value.map fun text => Override.ofName name (.string text)).toList

def flagOverrides (arguments : Arguments) : Except StartError (List Override) := do
  let slots ← flagOverride "fetcher.max_slots" "max-slots" arguments.maxSlots
  let chunk ← flagOverride "fetcher.max_chunk_size" "max-chunk-size" arguments.maxChunkSize
  let json := if arguments.jsonLogs then [Override.ofName "logging.json_format" (.bool true)] else []
  .ok (textOverride "db.datadir" arguments.datadir ++
    textOverride "client.remote_url" arguments.remoteUrl ++ slots ++ chunk ++ json)

/-- What the command line assigns: the generic overrides, and the explicit flags after them. -/
def allOverrides (arguments : Arguments) : Except StartError (List Override) := do
  let generic ← (arguments.overrides.mapM Override.parse).mapError .settings
  let flags ← arguments.flagOverrides
  .ok (generic ++ flags)

end Arguments

def Environment.overrides (environment : Environment) : List Override :=
  Arguments.textOverride "client.remote_url" environment.remoteUrl ++
    Arguments.textOverride "db.datadir" environment.datadir

def Arguments.load (arguments : Arguments) (environment : Environment) (file : SettingsFile) :
    Except StartError Settings := do
  let overrides ← arguments.allOverrides
  (Settings.load file (environment.overrides ++ overrides)).mapError .settings

end TokenIndexer
