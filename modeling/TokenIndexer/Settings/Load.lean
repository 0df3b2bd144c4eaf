import TokenIndexer.Settings
import TokenIndexer.Slot
import TokenIndexer.Toml.Document
import TokenIndexer.Toml.Value

/-!
Settings from a TOML file and the overrides on top of it. A section may be an array of its fields in order
instead, keys that mean nothing are passed over, and a date stands for its text where a text is wanted.
-/

namespace TokenIndexer

structure Override where
  path : List String
  value : Toml

namespace Override

def pathOf (name : String) : List String := (Split.pieces '.' name.toList).map String.ofList

def ofName (name : String) (value : Toml) : Override := ⟨pathOf name, value⟩

def name (o : Override) : String := String.intercalate "." o.path

/-- The value that a text assigns. The text is read as what follows `v = ` in a document. -/
def valueOf (text : List Char) : Toml :=
  let literal := (Toml.members? (String.ofList ("v = ".toList ++ text))).bind fun members =>
    members.reverse.lookup "v"
  literal.getD (.string (String.ofList text))

/-- Reads a key, an equals sign and a value. No segment of the key may be blank. -/
def parse (raw : String) : Except SettingsError Override :=
  match Split.atFirst? '=' raw.toList with
  | none => .error (.invalidOverride raw)
  | some (key, text) =>
    let segments := (Split.pieces '.' (Blank.trim key)).map Blank.trim
    if [] ∈ segments then .error (.invalidOverride raw)
    else .ok ⟨segments.map String.ofList, valueOf (Blank.trim text)⟩

/-- Puts a value at the end of a path, and tells whether that went through. The table is changed in place: a
missing table is put in on the way down, before it is known how the rest of the path goes. `whole` is the
name that an error reports. -/
def assign (whole : String) (value : Toml) :
    List String → Toml.Table → Toml.Table × Except SettingsError Unit
  | [], table => (table, .error (.invalidOverride whole))
  | [key], table => (Ordered.insert key value table, .ok ())
  | key :: path, table =>
    match Ordered.find? key table with
    | none =>
      let (inner, result) := assign whole value path []
      (Ordered.insert key (.table inner) table, result)
    | some (.table inner) =>
      let (inner, result) := assign whole value path inner
      (Toml.replaceFirst key (.table inner) table, result)
    | some _ => (table, .error (.notTable key whole))

def applyInPlace (o : Override) (table : Toml.Table) : Toml.Table × Except SettingsError Unit :=
  assign o.name o.value o.path table

def apply (o : Override) (table : Toml.Table) : Except SettingsError Toml.Table :=
  let (table, result) := o.applyInPlace table
  result.map fun () => table

def applyAll (overrides : List Override) (table : Toml.Table) : Except SettingsError Toml.Table :=
  overrides.foldlM (fun table o => o.apply table) table

end Override

namespace Toml

def text? : Toml → Option String
  | .string text => some text
  | .datetime value => some value.text
  | _ => none

def bool? : Toml → Option Bool
  | .bool value => some value
  | _ => none

def natUpTo? (high : Nat) : Toml → Option Nat
  | .int value => if 0 ≤ value.toInt ∧ value.toInt ≤ high then some value.toInt.toNat else none
  | _ => none

def word64? (value : Toml) : Option UInt64 := (value.natUpTo? (UInt64.size - 1)).map UInt64.ofNat

def word32? (value : Toml) : Option UInt32 := (value.natUpTo? (UInt32.size - 1)).map UInt32.ofNat

def slots? (names : List String) : Toml → Option (List (Slot Toml))
  | .table members =>
    some (names.map fun name => ((Ordered.find? name members).map .given).getD .missing)
  | .array items => Slot.ofItems? names items
  | _ => none

end Toml

def ClientSettings.ofToml? (value : Toml) : Option ClientSettings := do
  match ← value.slots? ["remote_url", "chain_id", "request_timeout_ms"] with
  | [remoteUrl, chainId, timeout] =>
    some ⟨← remoteUrl.required? Toml.text?, ← chainId.defaulted? Toml.text? defaultChainId,
      ← timeout.defaulted? Toml.word64? defaultRequestTimeout⟩
  | _ => none

def StoreSettings.ofToml? (value : Toml) : Option StoreSettings := do
  match ← value.slots? ["datadir"] with
  | [datadir] => some ⟨← datadir.defaulted? Toml.text? default.datadir⟩
  | _ => none

def FetcherSettings.ofToml? (value : Toml) : Option FetcherSettings := do
  match ← value.slots? ["max_slots", "max_chunk_size", "poll_interval_ms", "max_fetch_attempts",
      "retry_delay_ms"] with
  | [slots, chunk, poll, attempts, retry] =>
    some ⟨← slots.defaulted? Toml.word64? default.maxSlots,
      ← chunk.defaulted? Toml.word64? default.maxChunkSize,
      ← poll.defaulted? Toml.word64? default.pollInterval,
      ← attempts.defaulted? Toml.word32? default.maxAttempts,
      ← retry.defaulted? Toml.word64? default.retryDelay⟩
  | _ => none

def DetectionSettings.ofToml? (value : Toml) : Option DetectionSettings := do
  match ← value.slots? ["require_banker_metadata"] with
  | [required] => some ⟨← required.defaulted? Toml.bool? default.requireBanker⟩
  | _ => none

def EventSettings.ofToml? (value : Toml) : Option EventSettings := do
  match ← value.slots? ["subscriber_buffer"] with
  | [buffer] => some ⟨← buffer.defaulted? Toml.word64? default.subscriberBuffer⟩
  | _ => none

def RegistrarSettings.ofToml? (value : Toml) : Option RegistrarSettings := do
  match ← value.slots? ["endpoint", "method", "register_suffix"] with
  | [endpoint, method, suffix] =>
    some ⟨← endpoint.optional? Toml.text?, ← method.defaulted? Toml.text? default.method,
      ← suffix.defaulted? Toml.text? default.suffix⟩
  | _ => none

def LoggingSettings.ofToml? (value : Toml) : Option LoggingSettings := do
  match ← value.slots? ["service_label", "log_dir", "log_file_prefix", "json_format"] with
  | [label, directory, filePrefix, json] =>
    some ⟨← label.optional? Toml.text?, ← directory.optional? Toml.text?,
      ← filePrefix.optional? Toml.text?, ← json.defaulted? Toml.bool? default.json⟩
  | _ => none

def Settings.ofToml? (value : Toml) : Option Settings := do
  match ← value.slots? ["client", "db", "fetcher", "detection", "events", "registrar",
      "logging"] with
  | [client, store, fetcher, detection, events, registrar, logging] =>
    some ⟨← client.required? ClientSettings.ofToml?,
      ← store.defaulted? StoreSettings.ofToml? .default,
      ← fetcher.defaulted? FetcherSettings.ofToml? .default,
      ← detection.defaulted? DetectionSettings.ofToml? .default,
      ← events.defaulted? EventSettings.ofToml? .default,
      ← registrar.defaulted? RegistrarSettings.ofToml? .default,
      ← logging.defaulted? LoggingSettings.ofToml? .default⟩
  | _ => none

inductive SettingsFile where
  /-- No file was named. -/
  | unnamed
  | missing
  | contents (bytes : Bytes)
  deriving DecidableEq

namespace Settings

def baseTable : SettingsFile → Except SettingsError Toml.Table
  | .unnamed => .ok []
  | .missing => .error .unreadable
  | .contents bytes =>
    match Utf8.decode? bytes with
    | none => .error .unreadable
    | some text =>
      match Toml.parse? text with
      | none => .error .malformed
      | some (.table table) => .ok table
      | some _ => .error (.notTable "<root>" "")

def ofTable (table : Toml.Table) : Except SettingsError Settings :=
  match ofToml? (.table table) with
  | none => .error .malformed
  | some settings => settings.validate.map fun _ => settings

def load (file : SettingsFile) (overrides : List Override) : Except SettingsError Settings := do
  let table ← baseTable file
  let table ← Override.applyAll overrides table
  ofTable table

end Settings

end TokenIndexer
