import TokenIndexer.Proofs.Slot
import TokenIndexer.Settings.Load

/-!
The settings one by one: where each of them stands in a table, which values it takes, and what it is where the
table has none.
-/

namespace TokenIndexer

namespace Toml

/-- The field of a record, by its name or by its position. -/
def field? (name : String) (position : Nat) : Toml → Option Toml
  | .table members => Ordered.find? name members
  | .array items => items[position]?
  | _ => none

theorem values_slots? {names : List String} {value : Toml} {slots : List (Slot Toml)}
    (read : value.slots? names = some slots) :
    slots.map Slot.value? = names.mapIdx fun i name => value.field? name i := by
  cases value with
  | table members =>
    cases read
    rw [List.map_map]
    apply List.ext_getElem?
    intro position
    rw [List.getElem?_map, List.getElem?_mapIdx]
    cases names[position]? with
    | none => rfl
    | some name => cases present : Ordered.find? name members <;> simp [field?, present, Slot.value?]
  | array items => exact Slot.values_ofItems? read
  | _ => cases read

end Toml

inductive Setting where
  | remoteUrl
  | chainId
  | requestTimeout
  | datadir
  | maxSlots
  | maxChunkSize
  | pollInterval
  | maxAttempts
  | retryDelay
  | requireBanker
  | subscriberBuffer
  | endpoint
  | method
  | suffix
  | label
  | directory
  | filePrefix
  | json
  deriving DecidableEq

namespace Setting

inductive Kind where
  | text
  | optionalText
  | word64
  | word32
  | switch

def Kind.Value : Kind → Type
  | .text => String
  | .optionalText => Option String
  | .word64 => UInt64
  | .word32 => UInt32
  | .switch => Bool

def Kind.read? : (kind : Kind) → Toml → Option kind.Value
  | .text => Toml.text?
  | .optionalText => fun value => value.text?.map some
  | .word64 => Toml.word64?
  | .word32 => Toml.word32?
  | .switch => Toml.bool?

theorem Kind.read?_table (kind : Kind) (members : Toml.Table) : kind.read? (.table members) = none := by
  cases kind <;> rfl

structure Place where
  part : String
  name : String
  position : Nat

def place : Setting → Place
  | .remoteUrl => ⟨"client", "remote_url", 0⟩
  | .chainId => ⟨"client", "chain_id", 1⟩
  | .requestTimeout => ⟨"client", "request_timeout_ms", 2⟩
  | .datadir => ⟨"db", "datadir", 0⟩
  | .maxSlots => ⟨"fetcher", "max_slots", 0⟩
  | .maxChunkSize => ⟨"fetcher", "max_chunk_size", 1⟩
  | .pollInterval => ⟨"fetcher", "poll_interval_ms", 2⟩
  | .maxAttempts => ⟨"fetcher", "max_fetch_attempts", 3⟩
  | .retryDelay => ⟨"fetcher", "retry_delay_ms", 4⟩
  | .requireBanker => ⟨"detection", "require_banker_metadata", 0⟩
  | .subscriberBuffer => ⟨"events", "subscriber_buffer", 0⟩
  | .endpoint => ⟨"registrar", "endpoint", 0⟩
  | .method => ⟨"registrar", "method", 1⟩
  | .suffix => ⟨"registrar", "register_suffix", 2⟩
  | .label => ⟨"logging", "service_label", 0⟩
  | .directory => ⟨"logging", "log_dir", 1⟩
  | .filePrefix => ⟨"logging", "log_file_prefix", 2⟩
  | .json => ⟨"logging", "json_format", 3⟩

def path (setting : Setting) : List String := [setting.place.part, setting.place.name]

def kind : Setting → Kind
  | .remoteUrl => .text
  | .chainId => .text
  | .requestTimeout => .word64
  | .datadir => .text
  | .maxSlots => .word64
  | .maxChunkSize => .word64
  | .pollInterval => .word64
  | .maxAttempts => .word32
  | .retryDelay => .word64
  | .requireBanker => .switch
  | .subscriberBuffer => .word64
  | .endpoint => .optionalText
  | .method => .text
  | .suffix => .text
  | .label => .optionalText
  | .directory => .optionalText
  | .filePrefix => .optionalText
  | .json => .switch

/-- What a setting is where nothing sets it. The node has to be named. -/
def default? : (setting : Setting) → Option setting.kind.Value
  | .remoteUrl => none
  | .chainId => some ClientSettings.defaultChainId
  | .requestTimeout => some ClientSettings.defaultRequestTimeout
  | .datadir => some StoreSettings.default.datadir
  | .maxSlots => some FetcherSettings.default.maxSlots
  | .maxChunkSize => some FetcherSettings.default.maxChunkSize
  | .pollInterval => some FetcherSettings.default.pollInterval
  | .maxAttempts => some FetcherSettings.default.maxAttempts
  | .retryDelay => some FetcherSettings.default.retryDelay
  | .requireBanker => some DetectionSettings.default.requireBanker
  | .subscriberBuffer => some EventSettings.default.subscriberBuffer
  | .endpoint => some RegistrarSettings.default.endpoint
  | .method => some RegistrarSettings.default.method
  | .suffix => some RegistrarSettings.default.suffix
  | .label => some LoggingSettings.default.label
  | .directory => some LoggingSettings.default.directory
  | .filePrefix => some LoggingSettings.default.filePrefix
  | .json => some LoggingSettings.default.json

def get : (setting : Setting) → Settings → setting.kind.Value
  | .remoteUrl => fun settings => settings.client.remoteUrl
  | .chainId => fun settings => settings.client.chainId
  | .requestTimeout => fun settings => settings.client.requestTimeout
  | .datadir => fun settings => settings.store.datadir
  | .maxSlots => fun settings => settings.fetcher.maxSlots
  | .maxChunkSize => fun settings => settings.fetcher.maxChunkSize
  | .pollInterval => fun settings => settings.fetcher.pollInterval
  | .maxAttempts => fun settings => settings.fetcher.maxAttempts
  | .retryDelay => fun settings => settings.fetcher.retryDelay
  | .requireBanker => fun settings => settings.detection.requireBanker
  | .subscriberBuffer => fun settings => settings.events.subscriberBuffer
  | .endpoint => fun settings => settings.registrar.endpoint
  | .method => fun settings => settings.registrar.method
  | .suffix => fun settings => settings.registrar.suffix
  | .label => fun settings => settings.logging.label
  | .directory => fun settings => settings.logging.directory
  | .filePrefix => fun settings => settings.logging.filePrefix
  | .json => fun settings => settings.logging.json

theorem get_injective {a b : Settings} (same : ∀ setting : Setting, setting.get a = setting.get b) :
    a = b := by
  obtain ⟨⟨_, _, _⟩, ⟨_⟩, ⟨_, _, _, _, _⟩, ⟨_⟩, ⟨_⟩, ⟨_, _, _⟩, ⟨_, _, _, _⟩⟩ := a
  obtain ⟨⟨_, _, _⟩, ⟨_⟩, ⟨_, _, _, _, _⟩, ⟨_⟩, ⟨_⟩, ⟨_, _, _⟩, ⟨_, _, _, _⟩⟩ := b
  simp only [Settings.mk.injEq, ClientSettings.mk.injEq, StoreSettings.mk.injEq, FetcherSettings.mk.injEq,
    DetectionSettings.mk.injEq, EventSettings.mk.injEq, RegistrarSettings.mk.injEq,
    LoggingSettings.mk.injEq]
  exact ⟨⟨same remoteUrl, same chainId, same requestTimeout⟩, same datadir,
    ⟨same maxSlots, same maxChunkSize, same pollInterval, same maxAttempts, same retryDelay⟩,
    same requireBanker, same subscriberBuffer, ⟨same endpoint, same method, same suffix⟩,
    same label, same directory, same filePrefix, same json⟩

def within (setting : Setting) (part : Option Toml) : Option setting.kind.Value :=
  (part.bind (Toml.field? setting.place.name setting.place.position)).elim setting.default?
    setting.kind.read?

/-- What a setting is in a table: the value that the table gives, or the default. -/
def valueIn (setting : Setting) (table : Toml.Table) : Option setting.kind.Value :=
  setting.within (Ordered.find? setting.place.part table)

/-! ### Reading

The fields of a section are read one by one, from its slots. A section that is missing has the default of
each of its settings. -/

theorem within_client {part : Option Toml} {client : ClientSettings}
    (read : part.elim none ClientSettings.ofToml? = some client) :
    remoteUrl.within part = some client.remoteUrl ∧ chainId.within part = some client.chainId ∧
      requestTimeout.within part = some client.requestTimeout := by
  cases part with
  | none => cases read
  | some value =>
    obtain ⟨slots, fields, read⟩ := Option.bind_eq_some_iff.1 read
    have values := Toml.values_slots? fields
    split at read
    · simp only [List.map_cons, List.map_nil, List.mapIdx_cons, List.mapIdx_nil, List.cons.injEq] at values
      obtain ⟨first, second, third, -⟩ := values
      simp only [Slot.required?_eq, Slot.defaulted?_eq, first, second, third, Option.bind_eq_bind,
        Option.bind_eq_some_iff] at read
      obtain ⟨url, urlRead, chain, chainRead, timeout, timeoutRead, ⟨⟩⟩ := read
      exact ⟨urlRead, chainRead, timeoutRead⟩
    · cases read

theorem within_store {part : Option Toml} {store : StoreSettings}
    (read : part.elim (some .default) StoreSettings.ofToml? = some store) :
    datadir.within part = some store.datadir := by
  cases part with
  | none => cases read; rfl
  | some value =>
    obtain ⟨slots, fields, read⟩ := Option.bind_eq_some_iff.1 read
    have values := Toml.values_slots? fields
    split at read
    · simp only [List.map_cons, List.map_nil, List.mapIdx_cons, List.mapIdx_nil, List.cons.injEq] at values
      simp only [Slot.defaulted?_eq, values.1, Option.bind_eq_bind, Option.bind_eq_some_iff] at read
      obtain ⟨directory, directoryRead, ⟨⟩⟩ := read
      exact directoryRead
    · cases read

theorem within_fetcher {part : Option Toml} {fetcher : FetcherSettings}
    (read : part.elim (some .default) FetcherSettings.ofToml? = some fetcher) :
    maxSlots.within part = some fetcher.maxSlots ∧ maxChunkSize.within part = some fetcher.maxChunkSize ∧
      pollInterval.within part = some fetcher.pollInterval ∧
      maxAttempts.within part = some fetcher.maxAttempts ∧
      retryDelay.within part = some fetcher.retryDelay := by
  cases part with
  | none => cases read; exact ⟨rfl, rfl, rfl, rfl, rfl⟩
  | some value =>
    obtain ⟨slots, fields, read⟩ := Option.bind_eq_some_iff.1 read
    have values := Toml.values_slots? fields
    split at read
    · simp only [List.map_cons, List.map_nil, List.mapIdx_cons, List.mapIdx_nil, List.cons.injEq] at values
      obtain ⟨first, second, third, fourth, fifth, -⟩ := values
      simp only [Slot.defaulted?_eq, first, second, third, fourth, fifth, Option.bind_eq_bind,
        Option.bind_eq_some_iff] at read
      obtain ⟨slots, slotsRead, chunk, chunkRead, poll, pollRead, attempts, attemptsRead, retry,
        retryRead, ⟨⟩⟩ := read
      exact ⟨slotsRead, chunkRead, pollRead, attemptsRead, retryRead⟩
    · cases read

theorem within_detection {part : Option Toml} {detection : DetectionSettings}
    (read : part.elim (some .default) DetectionSettings.ofToml? = some detection) :
    requireBanker.within part = some detection.requireBanker := by
  cases part with
  | none => cases read; rfl
  | some value =>
    obtain ⟨slots, fields, read⟩ := Option.bind_eq_some_iff.1 read
    have values := Toml.values_slots? fields
    split at read
    · simp only [List.map_cons, List.map_nil, List.mapIdx_cons, List.mapIdx_nil, List.cons.injEq] at values
      simp only [Slot.defaulted?_eq, values.1, Option.bind_eq_bind, Option.bind_eq_some_iff] at read
      obtain ⟨required, requiredRead, ⟨⟩⟩ := read
      exact requiredRead
    · cases read

theorem within_events {part : Option Toml} {events : EventSettings}
    (read : part.elim (some .default) EventSettings.ofToml? = some events) :
    subscriberBuffer.within part = some events.subscriberBuffer := by
  cases part with
  | none => cases read; rfl
  | some value =>
    obtain ⟨slots, fields, read⟩ := Option.bind_eq_some_iff.1 read
    have values := Toml.values_slots? fields
    split at read
    · simp only [List.map_cons, List.map_nil, List.mapIdx_cons, List.mapIdx_nil, List.cons.injEq] at values
      simp only [Slot.defaulted?_eq, values.1, Option.bind_eq_bind, Option.bind_eq_some_iff] at read
      obtain ⟨buffer, bufferRead, ⟨⟩⟩ := read
      exact bufferRead
    · cases read

theorem within_registrar {part : Option Toml} {registrar : RegistrarSettings}
    (read : part.elim (some .default) RegistrarSettings.ofToml? = some registrar) :
    endpoint.within part = some registrar.endpoint ∧ method.within part = some registrar.method ∧
      suffix.within part = some registrar.suffix := by
  cases part with
  | none => cases read; exact ⟨rfl, rfl, rfl⟩
  | some value =>
    obtain ⟨slots, fields, read⟩ := Option.bind_eq_some_iff.1 read
    have values := Toml.values_slots? fields
    split at read
    · simp only [List.map_cons, List.map_nil, List.mapIdx_cons, List.mapIdx_nil, List.cons.injEq] at values
      obtain ⟨first, second, third, -⟩ := values
      simp only [Slot.defaulted?_eq, second, third, Option.bind_eq_bind, Option.bind_eq_some_iff] at read
      obtain ⟨endpoint, endpointRead, method, methodRead, suffix, suffixRead, ⟨⟩⟩ := read
      exact ⟨Slot.of_optional? first endpointRead, methodRead, suffixRead⟩
    · cases read

theorem within_logging {part : Option Toml} {logging : LoggingSettings}
    (read : part.elim (some .default) LoggingSettings.ofToml? = some logging) :
    label.within part = some logging.label ∧ directory.within part = some logging.directory ∧
      filePrefix.within part = some logging.filePrefix ∧ json.within part = some logging.json := by
  cases part with
  | none => cases read; exact ⟨rfl, rfl, rfl, rfl⟩
  | some value =>
    obtain ⟨slots, fields, read⟩ := Option.bind_eq_some_iff.1 read
    have values := Toml.values_slots? fields
    split at read
    · simp only [List.map_cons, List.map_nil, List.mapIdx_cons, List.mapIdx_nil, List.cons.injEq] at values
      obtain ⟨first, second, third, fourth, -⟩ := values
      simp only [Slot.defaulted?_eq, fourth, Option.bind_eq_bind, Option.bind_eq_some_iff] at read
      obtain ⟨label, labelRead, directory, directoryRead, filePrefix, filePrefixRead, json, jsonRead,
        ⟨⟩⟩ := read
      exact ⟨Slot.of_optional? first labelRead, Slot.of_optional? second directoryRead,
        Slot.of_optional? third filePrefixRead, jsonRead⟩
    · cases read

theorem valueIn_of_ofToml? {table : Toml.Table} {settings : Settings}
    (read : Settings.ofToml? (.table table) = some settings) (setting : Setting) :
    setting.valueIn table = some (setting.get settings) := by
  rw [Settings.ofToml?] at read
  obtain ⟨slots, fields, read⟩ := Option.bind_eq_some_iff.1 read
  have values := Toml.values_slots? fields
  split at read
  · simp only [List.map_cons, List.map_nil, List.mapIdx_cons, List.mapIdx_nil, List.cons.injEq] at values
    obtain ⟨first, second, third, fourth, fifth, sixth, seventh, -⟩ := values
    simp only [Slot.required?_eq, Slot.defaulted?_eq, first, second, third, fourth, fifth, sixth, seventh,
      Option.bind_eq_bind, Option.bind_eq_some_iff] at read
    obtain ⟨client, clientRead, store, storeRead, fetcher, fetcherRead, detection, detectionRead, events,
      eventsRead, registrar, registrarRead, logging, loggingRead, ⟨⟩⟩ := read
    have client := within_client clientRead
    have fetcher := within_fetcher fetcherRead
    have registrar := within_registrar registrarRead
    have logging := within_logging loggingRead
    cases setting with
    | remoteUrl => exact client.1
    | chainId => exact client.2.1
    | requestTimeout => exact client.2.2
    | datadir => exact within_store storeRead
    | maxSlots => exact fetcher.1
    | maxChunkSize => exact fetcher.2.1
    | pollInterval => exact fetcher.2.2.1
    | maxAttempts => exact fetcher.2.2.2.1
    | retryDelay => exact fetcher.2.2.2.2
    | requireBanker => exact within_detection detectionRead
    | subscriberBuffer => exact within_events eventsRead
    | endpoint => exact registrar.1
    | method => exact registrar.2.1
    | suffix => exact registrar.2.2
    | label => exact logging.1
    | directory => exact logging.2.1
    | filePrefix => exact logging.2.2.1
    | json => exact logging.2.2.2
  · cases read

end Setting

end TokenIndexer
