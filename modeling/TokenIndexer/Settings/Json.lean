import TokenIndexer.Json
import TokenIndexer.Settings

namespace TokenIndexer

def Json.word (value : UInt64) : Json := .nat value.toNat

def Json.memberIfSet (key : String) (value : Option String) : List (String × Json) :=
  (value.map fun text => (key, Json.text text)).toList

def ClientSettings.toJson (s : ClientSettings) : Json :=
  .obj [("remote_url", .text s.remoteUrl), ("chain_id", .text s.chainId),
    ("request_timeout_ms", .word s.requestTimeout)]

def StoreSettings.toJson (s : StoreSettings) : Json := .obj [("datadir", .text s.datadir)]

def FetcherSettings.toJson (s : FetcherSettings) : Json :=
  .obj [("max_slots", .word s.maxSlots), ("max_chunk_size", .word s.maxChunkSize),
    ("poll_interval_ms", .word s.pollInterval), ("max_fetch_attempts", .nat s.maxAttempts.toNat),
    ("retry_delay_ms", .word s.retryDelay)]

def DetectionSettings.toJson (s : DetectionSettings) : Json :=
  .obj [("require_banker_metadata", .bool s.requireBanker)]

def EventSettings.toJson (s : EventSettings) : Json :=
  .obj [("subscriber_buffer", .word s.subscriberBuffer)]

def RegistrarSettings.toJson (s : RegistrarSettings) : Json :=
  .obj (Json.memberIfSet "endpoint" s.endpoint ++
    [("method", .text s.method), ("register_suffix", .text s.suffix)])

def LoggingSettings.toJson (s : LoggingSettings) : Json :=
  .obj (Json.memberIfSet "service_label" s.label ++ Json.memberIfSet "log_dir" s.directory ++
    Json.memberIfSet "log_file_prefix" s.filePrefix ++ [("json_format", .bool s.json)])

def Settings.toJson (s : Settings) : Json :=
  .obj [("client", s.client.toJson), ("db", s.store.toJson), ("fetcher", s.fetcher.toJson),
    ("detection", s.detection.toJson), ("events", s.events.toJson),
    ("registrar", s.registrar.toJson), ("logging", s.logging.toJson)]

end TokenIndexer
