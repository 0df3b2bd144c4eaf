import TokenIndexer.Ordered
import TokenIndexer.Store

/-! A store that keeps values as they are and can be told to fail. It lets the latest height move anywhere. -/

namespace TokenIndexer

structure Faults where
  blocks : List Height
  marker : Bool
  commit : Bool
  reads : Bool
  deriving DecidableEq

def Faults.none : Faults := ⟨[], false, false, false⟩

structure MemoryStore where
  blocks : Ordered Height Block
  results : Ordered Height (Ordered UInt32 TxResult)
  latest : Option Height
  /-- The heights of all committed blocks, in order of commit. -/
  blockLog : List Height
  /-- The latest heights that commits wrote, in order. -/
  markerLog : List Height
  commits : Nat
  faults : Faults
  deriving DecidableEq

namespace MemoryStore

def startingAt (latest : Option Height) (faults : Faults) : MemoryStore :=
  ⟨[], [], latest, [], [], 0, faults⟩

def empty : MemoryStore := startingAt none .none

def rowOf (store : MemoryStore) (h : Height) : Ordered UInt32 TxResult :=
  (Ordered.find? h store.results).getD []

def withBlock (store : MemoryStore) (b : Block) : MemoryStore :=
  { store with
    blocks := Ordered.insert b.height b store.blocks
    blockLog := store.blockLog ++ [b.height] }

def withResult (store : MemoryStore) (r : TxResult) : MemoryStore :=
  { store with
    results := Ordered.insert r.height (Ordered.insert r.index r (store.rowOf r.height)) store.results }

def withMarker (store : MemoryStore) (h : Height) : MemoryStore :=
  { store with latest := some h, markerLog := store.markerLog ++ [h] }

def withBatch (store : MemoryStore) (batch : Batch) : MemoryStore :=
  let store := batch.blocks.foldl withBlock store
  let store := batch.results.foldl withResult store
  let store := batch.marker.elim store store.withMarker
  { store with commits := store.commits + 1 }

def resultCount (store : MemoryStore) : Nat := store.results.foldl (fun n row => n + row.2.length) 0

instance : Store MemoryStore where
  latest store := if store.faults.reads then .error (.io "injected read failure") else .ok store.latest
  block store h := .ok (Ordered.find? h store.blocks)
  result store h index := .ok (Ordered.find? index (store.rowOf h))
  results store h := .ok ((store.rowOf h).map (·.2))
  setBlock store batch b :=
    if b.height ∈ store.faults.blocks then
      .error (.codec ("injected failure at height " ++ b.height.text))
    else .ok (batch.withBlock b)
  setResult _ batch r := .ok (batch.withResult r)
  setMarker store batch h :=
    if store.faults.marker then .error (.other "injected height marker failure")
    else .ok (batch.withMarker h)
  commit store batch :=
    if store.faults.commit then .error (.transaction "injected commit failure")
    else .ok (store.withBatch batch)

end MemoryStore

end TokenIndexer
