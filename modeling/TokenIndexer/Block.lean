import TokenIndexer.Bytes
import TokenIndexer.Height
import TokenIndexer.Json.Shape

/-! Blocks and what their transactions came to, also as JSON with byte strings in hexadecimal. -/

namespace TokenIndexer

structure Tx where
  bytes : Bytes
  deriving DecidableEq, Repr

namespace Tx

def debugText (tx : Tx) : String := "Tx(" ++ Hex.text tx.bytes ++ ")"

end Tx

structure Block where
  height : Height
  hash : Bytes
  chainId : String
  /-- The time that the node reports, in the form of RFC 3339. -/
  time : String
  proposer : String
  txs : List Tx
  deriving DecidableEq, Repr

/-- Outcome of delivering one transaction; `error` is set when execution failed. -/
structure DeliverResponse where
  error : Option String
  data : Bytes
  log : String
  info : String
  gasWanted : Int64
  gasUsed : Int64
  deriving DecidableEq

namespace DeliverResponse

def empty : DeliverResponse := ⟨none, [], "", "", 0, 0⟩

def succeeded (response : DeliverResponse) : Bool := response.error.isNone

end DeliverResponse

/-- Execution result of the transaction at `index` of the block at `height`. -/
structure TxResult where
  height : Height
  index : UInt32
  tx : Tx
  response : DeliverResponse
  deriving DecidableEq

namespace TxResult

def succeeded (result : TxResult) : Bool := result.response.succeeded

end TxResult

structure FetchedBlock where
  block : Block
  results : List TxResult
  deriving DecidableEq

/-- What was fetched for one range of heights, in ascending order. -/
structure Chunk where
  entries : List FetchedBlock
  deriving DecidableEq

namespace Chunk

def blocks (chunk : Chunk) : List Block := chunk.entries.map (·.block)

def resultsAt (chunk : Chunk) (h : Height) : List TxResult :=
  match chunk.entries.find? fun entry => entry.block.height = h with
  | some entry => entry.results
  | none => []

end Chunk

def Hex.ofJson? (value : Json) : Option Bytes := value.text?.bind Hex.ofText?

namespace Tx

def toJson (tx : Tx) : Json := .text (Hex.text tx.bytes)

def ofJson? (value : Json) : Option Tx := (Hex.ofJson? value).map Tx.mk

end Tx

namespace Block

def toJson (b : Block) : Json :=
  .obj [("height", .nat b.height.toNat), ("hash", .text (Hex.text b.hash)),
    ("chain_id", .text b.chainId), ("time", .text b.time), ("proposer", .text b.proposer),
    ("txs", .array (b.txs.map Tx.toJson))]

def ofJson? (value : Json) : Option Block := do
  match ← value.slots? ["height", "hash", "chain_id", "time", "proposer", "txs"] with
  | [height, hash, chainId, time, proposer, txs] =>
    some ⟨← height.required? Json.word64?, ← hash.required? Hex.ofJson?,
      ← chainId.required? Json.text?, ← time.required? Json.text?, ← proposer.required? Json.text?,
      ← txs.required? (Json.list? Tx.ofJson?)⟩
  | _ => none

end Block

namespace DeliverResponse

def toJson (r : DeliverResponse) : Json :=
  .obj [("error", (r.error.map Json.text).getD .null), ("data", .text (Hex.text r.data)),
    ("log", .text r.log), ("info", .text r.info), ("gas_wanted", .int r.gasWanted.toInt),
    ("gas_used", .int r.gasUsed.toInt)]

def ofJson? (value : Json) : Option DeliverResponse := do
  match ← value.slots? ["error", "data", "log", "info", "gas_wanted", "gas_used"] with
  | [error, data, log, info, gasWanted, gasUsed] =>
    some ⟨← Json.nullable? Json.text? error, ← data.required? Hex.ofJson?, ← log.required? Json.text?,
      ← info.required? Json.text?, ← gasWanted.required? Json.signed64?,
      ← gasUsed.required? Json.signed64?⟩
  | _ => none

end DeliverResponse

namespace TxResult

def toJson (r : TxResult) : Json :=
  .obj [("height", .nat r.height.toNat), ("index", .nat r.index.toNat), ("tx", r.tx.toJson),
    ("response", r.response.toJson)]

def ofJson? (value : Json) : Option TxResult := do
  match ← value.slots? ["height", "index", "tx", "response"] with
  | [height, index, tx, response] =>
    some ⟨← height.required? Json.word64?, ← index.required? Json.word32?,
      ← tx.required? Tx.ofJson?, ← response.required? DeliverResponse.ofJson?⟩
  | _ => none

end TxResult

end TokenIndexer
