import TokenIndexer.CommandLine
import TokenIndexer.Ingest.Fetcher
import TokenIndexer.Registration.Registrar
import TokenIndexer.Settings

namespace TokenIndexer

inductive Rotation where
  | daily
  | hourly
  | never
  deriving DecidableEq, Repr

def Rotation.name : Rotation → String
  | .daily => "daily"
  | .hourly => "hourly"
  | .never => "never"

structure LogFile where
  directory : String
  filePrefix : String
  rotation : Rotation
  json : Bool
  deriving DecidableEq

structure Logger where
  serviceName : String
  serviceVersion : Option String
  /-- Whether standard output gets JSON. -/
  json : Bool
  file : Option LogFile
  deriving DecidableEq

namespace Logger

def ownName : String := "tokenscout"

def labelled (base : String) (label : Option String) : String :=
  match label with
  | some label => base ++ "%" ++ label
  | none => base

def named (name : String) : Logger := ⟨name, none, false, none⟩

def default : Logger := named ownName

def fileOf (settings : LoggingSettings) : Option LogFile :=
  settings.directory.map fun directory =>
    ⟨directory, settings.filePrefix.getD ownName, .daily, settings.json⟩

def ofSettings (version : String) (settings : LoggingSettings) : Logger :=
  ⟨labelled ownName settings.label, some version, settings.json, fileOf settings⟩

end Logger

inductive StartupError where
  | configuration (error : StartError)
  | storage (error : StoreError)
  | client (error : NodeError)
  | registrar (error : RegistrationError)
  | fetcher (error : FetchError)
  deriving DecidableEq

def StartupError.message : StartupError → String
  | .configuration error => "failed to load configuration: " ++ error.message
  | .storage error => "storage: " ++ error.message
  | .client error => "remote client: " ++ error.message
  | .registrar error => "registrar: " ++ error.message
  | .fetcher error => "fetcher: " ++ error.message

inductive ProgramEnd where
  | help
  /-- The arguments were not understood. -/
  | usage
  | failed (error : StartupError)
  /-- The program breaks down and reports nothing. -/
  | brokenDown
  /-- It was called off. -/
  | cancelled
  deriving DecidableEq

namespace ProgramEnd

def ofStop : UsageStop → ProgramEnd
  | .help => .help
  | .invalid => .usage

def ofFetcher : Option FetchError → ProgramEnd
  | none => .cancelled
  | some error => .failed (.fetcher error)

def exitCode : ProgramEnd → UInt32
  | .help => 0
  | .usage => 1
  | .failed _ => 1
  | .brokenDown => 101
  | .cancelled => 0

def message? : ProgramEnd → Option String
  | .failed error => some error.message
  | _ => none

end ProgramEnd

namespace Startup

def version : String := "0.1.0"

def configure (arguments : Arguments) (environment : Environment) (file : SettingsFile) :
    Except StartupError Settings :=
  (arguments.load environment file).mapError .configuration

/-- The parts that the settings name, once the store could be opened: the client of the node and the
registrar, in this order. -/
def connect (opened : Except StoreError Unit) (settings : Settings) :
    Except StartupError Registrar := do
  opened.mapError .storage
  (Remote.connect settings.client.remoteUrl).mapError .client
  (Registrar.ofSettings settings).mapError .registrar

structure Prepared where
  registrar : Registrar
  ticker : Ticker

/-- Connects the parts and starts the ticks; without a period the program breaks down. -/
def prepare (opened : Except StoreError Unit) (settings : Settings) :
    Except ProgramEnd Prepared := do
  let registrar ← (connect opened settings).mapError .failed
  match Ticker.every? settings.fetcher.pollInterval.toNat with
  | some ticker => .ok ⟨registrar, ticker⟩
  | none => .error .brokenDown

def policy (settings : Settings) (query : String → Except NodeError QueryResponse) : Policy :=
  ⟨settings.fetcher.maxChunkSize, settings.fetcher.maxAttempts,
    ⟨.amino, settings.detection.requireBanker, query⟩⟩

def logger (settings : Settings) : Logger := Logger.ofSettings version settings.logging

end Startup

end TokenIndexer
