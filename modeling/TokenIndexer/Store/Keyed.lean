import TokenIndexer.Ordered
import TokenIndexer.Record
import TokenIndexer.Store

/-!
A store in three trees of bytes under bytes. Keys are big-endian, so they stand in the order of the heights,
and the results of one height stand together.
-/

namespace TokenIndexer

structure KeyedStore where
  blocks : Ordered Bytes Bytes
  results : Ordered Bytes Bytes
  /-- What is known about the store itself. -/
  marks : Ordered Bytes Bytes
  deriving DecidableEq

namespace KeyedStore

def empty : KeyedStore := ⟨[], [], []⟩

def heightKey (h : Height) : Bytes := Word.bigEndian 8 h.toNat

def resultKey (h : Height) (index : UInt32) : Bytes := heightKey h ++ Word.bigEndian 4 index.toNat

def latestKey : Bytes := Bytes.ofAscii "latest_height"

def heightOfBytes (bytes : Bytes) : Except StoreError Height :=
  if bytes.length = 8 then .ok (UInt64.ofNat (Word.ofBigEndian bytes))
  else .error (.codec ("bad height length " ++ Decimal.natText bytes.length))

variable {α : Type}

def encode (codec : Codec α) (value : α) : Except StoreError Bytes :=
  match codec.write value with
  | some bytes => .ok bytes
  | none => .error (.codec "value too long")

def decode (codec : Codec α) (bytes : Bytes) : Except StoreError α :=
  match codec.decode? bytes with
  | some value => .ok value
  | none => .error (.codec "malformed record")

def get (read : Bytes → Except StoreError α) (key : Bytes) (tree : Ordered Bytes Bytes) :
    Except StoreError (Option α) :=
  match Ordered.find? key tree with
  | none => .ok none
  | some bytes => (read bytes).map some

def latest (store : KeyedStore) : Except StoreError (Option Height) :=
  get heightOfBytes latestKey store.marks

def block (store : KeyedStore) (h : Height) : Except StoreError (Option Block) :=
  get (decode Block.codec) (heightKey h) store.blocks

def result (store : KeyedStore) (h : Height) (index : UInt32) :
    Except StoreError (Option TxResult) :=
  get (decode TxResult.codec) (resultKey h index) store.results

def resultsAt (store : KeyedStore) (h : Height) : Except StoreError (List TxResult) :=
  (store.results.filter fun entry => (heightKey h).isPrefixOf entry.1).mapM fun entry =>
    decode TxResult.codec entry.2

/-- A tree with the records of some values; values without a record are left out. -/
def insertAll (codec : Codec α) (key : α → Bytes) (values : List α) (tree : Ordered Bytes Bytes) :
    Ordered Bytes Bytes :=
  values.foldl (fun tree value =>
    match codec.write value with
    | some bytes => Ordered.insert (key value) bytes tree
    | none => tree) tree

/-- The marks with a new latest height, which must be above the one that is there. -/
def moveLatest (new : Height) (marks : Ordered Bytes Bytes) :
    Except StoreError (Ordered Bytes Bytes) := do
  match ← get heightOfBytes latestKey marks with
  | some current => if new ≤ current then throw (.heightRegression current new)
  | none => pure ()
  return Ordered.insert latestKey (heightKey new) marks

def commit (store : KeyedStore) (batch : Batch) : Except StoreError KeyedStore := do
  let marks ←
    match batch.marker with
    | some new => moveLatest new store.marks
    | none => .ok store.marks
  .ok ⟨insertAll Block.codec (fun b => heightKey b.height) batch.blocks store.blocks,
    insertAll TxResult.codec (fun r => resultKey r.height r.index) batch.results store.results,
    marks⟩

instance : Store KeyedStore where
  latest := latest
  block := block
  result := result
  results := resultsAt
  setBlock _ batch b := (encode Block.codec b).map fun _ => batch.withBlock b
  setResult _ batch r := (encode TxResult.codec r).map fun _ => batch.withResult r
  setMarker _ batch h := .ok (batch.withMarker h)
  commit := commit

def startingAt (h : Height) : KeyedStore := ⟨[], [], [(latestKey, heightKey h)]⟩

end KeyedStore

end TokenIndexer
