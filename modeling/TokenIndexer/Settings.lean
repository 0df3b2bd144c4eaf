import TokenIndexer.Height
import TokenIndexer.Text

/-! What the indexer can be told. Times are in milliseconds. -/

namespace TokenIndexer

structure ClientSettings where
  /-- The endpoint of the node. -/
  remoteUrl : String
  chainId : String
  requestTimeout : UInt64
  deriving DecidableEq

structure StoreSettings where
  datadir : String
  deriving DecidableEq

structure FetcherSettings where
  /-- How many ranges are reserved at once. -/
  maxSlots : UInt64
  /-- How many heights a range covers. -/
  maxChunkSize : UInt64
  pollInterval : UInt64
  /-- How often one range is fetched before the indexer gives up. -/
  maxAttempts : UInt32
  retryDelay : UInt64
  deriving DecidableEq

structure DetectionSettings where
  /-- Whether a token's package must build a banker from literal metadata. -/
  requireBanker : Bool
  deriving DecidableEq

structure EventSettings where
  /-- How many events a bounded subscription holds. -/
  subscriberBuffer : UInt64
  deriving DecidableEq

structure RegistrarSettings where
  /-- The registration service; without one nothing is registered. -/
  endpoint : Option String
  method : String
  suffix : String
  deriving DecidableEq

structure LoggingSettings where
  label : Option String
  directory : Option String
  filePrefix : Option String
  json : Bool
  deriving DecidableEq

structure Settings where
  client : ClientSettings
  store : StoreSettings
  fetcher : FetcherSettings
  detection : DetectionSettings
  events : EventSettings
  registrar : RegistrarSettings
  logging : LoggingSettings
  deriving DecidableEq

/-! ### Defaults -/

def ClientSettings.defaultChainId : String := "dev"

def ClientSettings.defaultRequestTimeout : UInt64 := 10000

def StoreSettings.default : StoreSettings := ⟨"register-db"⟩

def FetcherSettings.default : FetcherSettings := ⟨100, 100, 1000, 5, 1000⟩

def DetectionSettings.default : DetectionSettings := ⟨false⟩

def EventSettings.default : EventSettings := ⟨100⟩

def RegistrarSettings.default : RegistrarSettings :=
  ⟨none, "tokenscout_registerToken", "_gnoswap_register"⟩

def LoggingSettings.default : LoggingSettings := ⟨none, none, none, false⟩

/-! ### Errors -/

inductive SettingsError where
  /-- The file is missing or holds no text. -/
  | unreadable
  /-- The file is no TOML document, or not one of settings. -/
  | malformed
  /-- An override leads through a value that is no table. -/
  | notTable (key path : String)
  | invalidOverride (raw : String)
  | invalidValue (field reason : String)
  deriving DecidableEq

def SettingsError.message : SettingsError → String
  | .unreadable => "reading"
  | .malformed => "toml"
  | .notTable key path => "can't traverse into non-table key '" ++ key ++ "' of '" ++ path ++ "'"
  | .invalidOverride raw => "invalid override: '" ++ raw ++ "'"
  | .invalidValue field reason => "invalid " ++ field ++ ": " ++ reason

/-! ### Validation -/

namespace Settings

def afterScheme? (url : List Char) : Option (List Char) :=
  (Split.after? "http://".toList url).or (Split.after? "https://".toList url)

def checkUrl (field url : String) : Except SettingsError Unit :=
  match afterScheme? url.toList with
  | none => .error (.invalidValue field ("'" ++ url ++ "' is not an http(s) url"))
  | some host =>
    if host = [] ∨ host.head? = some '/' ∨ host.any isBlank then
      .error (.invalidValue field ("'" ++ url ++ "' has no valid host"))
    else .ok ()

def fetcherLimit : UInt64 := 10000

def checkFetcherBound (field : String) (value : UInt64) : Except SettingsError Unit :=
  if 1 ≤ value ∧ value ≤ fetcherLimit then .ok ()
  else .error (.invalidValue field (Decimal.natText value.toNat ++ " is outside 1..=10000"))

def require (holds : Bool) (field reason : String) : Except SettingsError Unit :=
  if holds then .ok () else .error (.invalidValue field reason)

/-- What the types of the fields leave open. -/
def validate (settings : Settings) : Except SettingsError Unit := do
  checkUrl "client.remote_url" settings.client.remoteUrl
  require (Blank.trim settings.client.chainId.toList ≠ []) "client.chain_id" "must not be empty"
  checkFetcherBound "fetcher.max_slots" settings.fetcher.maxSlots
  checkFetcherBound "fetcher.max_chunk_size" settings.fetcher.maxChunkSize
  require (settings.fetcher.maxAttempts ≠ 0) "fetcher.max_fetch_attempts" "must be positive"
  match settings.registrar.endpoint with
  | some endpoint => checkUrl "registrar.endpoint" endpoint
  | none => .ok ()
  require (settings.registrar.method ≠ "") "registrar.method" "must not be empty"

end Settings

end TokenIndexer
