import TokenIndexer.Bytes
import TokenIndexer.Json.Shape
import TokenIndexer.Node

/-! What the node answers to requests. The shape of an answer is read as a whole before any base64 in it. -/

namespace TokenIndexer.Reply

/-! ### Parts -/

/-- A whole number from `low` up to `high` as a text or a number of at most 63 bits and a sign; the
empty text is 0. -/
def integer? (read : List Char → Option Int) (low high : Int) : Json → Option Int
  | .string (some text) =>
    if text = "" then some 0
    else (read text.toList).bind fun n => if low ≤ n ∧ n ≤ high then some n else none
  | .number n => (Json.number n).intIn? (max low Int64.minValue.toInt) (min high Int64.maxValue.toInt)
  | _ => none

def height? (value : Json) : Option Height :=
  (integer? (fun cs => (Decimal.readNat? cs).map Int.ofNat) 0 (UInt64.size - 1) value).map fun n =>
    UInt64.ofNat n.toNat

def gas? (value : Json) : Option Int64 :=
  (integer? Decimal.readInt? Int64.minValue.toInt Int64.maxValue.toInt value).map Int64.ofInt

def bytes (field : String) : Option String → Except NodeError Bytes
  | none => .ok []
  | some text =>
    match Base64.ofText? text with
    | some bytes => .ok bytes
    | none => .error (.decode (.base64 field))

/-- The text for an error: its type when it is an object that has one, the whole value otherwise. An
object may stand for null, which is no error. -/
def errorText? : Json → Option String
  | .null => none
  | .object members =>
    match Json.membersAt "@type" members with
    | [.string (some text)] => some text
    | _ => some (Json.object members).shown
  | value => some value.shown

structure Outcome where
  error : Option Json
  data : Option String
  log : String
  info : String

def outcome? (depth : Nat) (value : Json) : Option Outcome := do
  match ← value.slots? ["Error", "Data", "Log", "Info"] with
  | [error, data, log, info] =>
    some ⟨← Json.nullable? (Json.kept? (Json.depthLimit - depth - 1)) error,
      ← Json.nullable? Json.text? data, ← log.defaulted? Json.text? "",
      ← info.defaulted? Json.text? ""⟩
  | _ => none

def field? (name : String) (value : Json) : Option (Slot Json) := do
  match ← value.slots? [name] with
  | [slot] => some slot
  | _ => none

/-- An answer of a shape that is not understood counts as a failed call. -/
def shaped {α : Type} (value : Option α) : Except NodeError α :=
  match value with
  | some a => .ok a
  | none => .error (.rpc "unexpected reply")

/-! ### Answers -/

def latestHeight? (value : Json) : Option Height := do
  let status ← field? "sync_info" value
  status.required? fun info => do (← field? "latest_block_height" info).required? height?

structure Header where
  chainId : String
  height : Height
  time : String
  proposer : String

def header? (value : Json) : Option Header := do
  match ← value.slots? ["chain_id", "height", "time", "proposer_address"] with
  | [chainId, height, time, proposer] =>
    some ⟨← chainId.required? Json.text?, ← height.required? height?, ← time.required? Json.text?,
      ← proposer.defaulted? Json.text? ""⟩
  | _ => none

structure RawBlock where
  hash : Option String
  header : Header
  txs : Option (List String)

def hash? (value : Json) : Option (Option String) := do
  let id ← field? "block_id" value
  id.required? fun id => do Json.nullable? Json.text? (← field? "hash" id)

def body? (value : Json) : Option (Header × Option (List String)) := do
  match ← value.slots? ["header", "data"] with
  | [header, data] =>
    let header ← header.required? header?
    let txs ← data.required? fun data => do
      Json.nullable? (Json.list? Json.text?) (← field? "txs" data)
    some (header, txs)
  | _ => none

def rawBlock? (value : Json) : Option RawBlock := do
  match ← value.slots? ["block_meta", "block"] with
  | [blockMeta, block] =>
    let hash ← blockMeta.required? hash?
    let (header, txs) ← block.required? body?
    some ⟨hash, header, txs⟩
  | _ => none

def block (value : Json) : Except NodeError Block := do
  let raw ← shaped (rawBlock? value)
  let hash ← bytes "block_id.hash" raw.hash
  let txs ← (raw.txs.getD []).mapM fun text => bytes "block.data.txs" (some text)
  let header := raw.header
  return ⟨header.height, hash, header.chainId, header.time, header.proposer, txs.map Tx.mk⟩

structure RawDelivery where
  outcome : Outcome
  gasWanted : Int64
  gasUsed : Int64

def delivery? (value : Json) : Option RawDelivery := do
  match ← value.slots? ["ResponseBase", "GasWanted", "GasUsed"] with
  | [outcome, gasWanted, gasUsed] =>
    some ⟨← outcome.required? (outcome? 4), ← gasWanted.required? gas?, ← gasUsed.required? gas?⟩
  | _ => none

def deliveries? (value : Json) : Option (List RawDelivery) := do
  return (← Json.nullable? (Json.list? delivery?) (← field? "deliver_tx" value)).getD []

def delivered (raw : RawDelivery) : Except NodeError DeliverResponse := do
  let data ← bytes "ResponseBase.Data" raw.outcome.data
  return ⟨raw.outcome.error.bind errorText?, data, raw.outcome.log, raw.outcome.info, raw.gasWanted,
    raw.gasUsed⟩

def rawResults? (value : Json) : Option (Height × List RawDelivery) := do
  match ← value.slots? ["height", "results"] with
  | [height, results] => some (← height.required? height?, ← results.required? deliveries?)
  | _ => none

def blockResults (value : Json) : Except NodeError BlockResults := do
  let (height, raws) ← shaped (rawResults? value)
  return ⟨height, ← raws.mapM delivered⟩

structure RawQuery where
  outcome : Outcome
  value : Option String
  height : Height

def rawQuery? (value : Json) : Option RawQuery := do
  (← field? "response" value).required? fun response => do
    match ← response.slots? ["ResponseBase", "Value", "Height"] with
    | [outcome, value, height] =>
      some ⟨← outcome.required? (outcome? 2), ← Json.nullable? Json.text? value,
        ← height.defaulted? height? 0⟩
    | _ => none

def query (value : Json) : Except NodeError QueryResponse := do
  let raw ← shaped (rawQuery? value)
  let data ← bytes "ResponseBase.Data" raw.outcome.data
  let value ← bytes "Value" raw.value
  return ⟨raw.outcome.error.bind errorText?, data, value, raw.outcome.log, raw.height⟩

def latestHeight (value : Json) : Except NodeError Height := shaped (latestHeight? value)

end TokenIndexer.Reply
