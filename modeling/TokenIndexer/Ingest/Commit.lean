import TokenIndexer.Ingest.Fetch
import TokenIndexer.Store
import TokenIndexer.Token.Detection

/-!
Committing one chunk: its blocks, their results and the new latest height in a single batch, and the events
about them once the batch is in the store.
-/

namespace TokenIndexer

inductive FetchError where
  | localHeight (error : StoreError)
  /-- The node is behind what is committed already. -/
  | chainReset (stored remote : Height)
  | heightMarker (height : Height) (error : StoreError)
  | commit (range : HeightRange) (error : StoreError)
  /-- A range failed too often. -/
  | rangeExhausted (range : HeightRange) (attempts : UInt32) (last : FetchFailure)
  deriving DecidableEq

def FetchError.message : FetchError → String
  | .localHeight error => "reading local height: " ++ error.message
  | .chainReset stored remote =>
    "remote height " ++ remote.text ++ " is below local height " ++ stored.text ++
      ", chain was reset"
  | .heightMarker height error =>
    "writing latest height " ++ height.text ++ ": " ++ error.message
  | .commit range error => "committing chunk " ++ range.text ++ ": " ++ error.message
  | .rangeExhausted range attempts last =>
    "fetching chunk " ++ range.text ++ " failed " ++ Decimal.natText attempts.toNat ++
      " times, last error: " ++ last.message

namespace Commit

open Token

/-- A batch that is being put together, with the heights of the blocks that the store was asked to
take, the events for later and the packages that were asked about. -/
structure Staged where
  batch : Batch
  offered : List Height
  events : List Event
  queried : List String

def Staged.empty : Staged := ⟨.empty, [], [], []⟩

variable {σ : Type} [Store σ]

def stageResults (store : σ) (batch : Batch) (results : List TxResult) : Batch :=
  results.foldl (fun batch result => (Store.setResult store batch result).toOption.getD batch) batch

/-- One more block: its candidates are looked for once it is written, and then it is announced with
all its results. -/
def stageBlock (detector : Detector) (store : σ) (staged : Staged) (entry : FetchedBlock) : Staged :=
  let offered := staged.offered ++ [entry.block.height]
  match Store.setBlock store staged.batch entry.block with
  | .error _ => { staged with offered := offered }
  | .ok batch =>
    ⟨stageResults store batch entry.results,
      offered,
      staged.events ++ (detector.detect entry.block entry.results).map .tokenDetected ++
        [.newBlock entry.block entry.results],
      staged.queried ++ (detector.inspected entry.results).map fun d => d.package.path⟩

def stage (detector : Detector) (store : σ) (chunk : Chunk) : Staged :=
  chunk.entries.foldl (stageBlock detector store) .empty

structure Outcome (σ : Type) where
  range : HeightRange
  /-- The heights of the blocks that the store was asked to take, in order. -/
  offered : List Height
  /-- The packages that the node was asked about, in order. -/
  queried : List String
  /-- The store with the chunk in it, and what to announce. -/
  result : Except FetchError (σ × List Event)

def Outcome.events (outcome : Outcome σ) : List Event :=
  match outcome.result with
  | .ok (_, events) => events
  | .error _ => []

/-- The store with a staged batch in it, which moves the latest height to the end of the range. -/
def finish (store : σ) (range : HeightRange) (staged : Staged) :
    Except FetchError (σ × List Event) :=
  match Store.setMarker store staged.batch range.last with
  | .error e => .error (.heightMarker range.last e)
  | .ok batch =>
    match Store.commit store batch with
    | .error e => .error (.commit range e)
    | .ok store => .ok (store, staged.events)

def chunk (detector : Detector) (store : σ) (range : HeightRange) (c : Chunk) : Outcome σ :=
  let staged := stage detector store c
  ⟨range, staged.offered, staged.queried, finish store range staged⟩

end Commit

end TokenIndexer
