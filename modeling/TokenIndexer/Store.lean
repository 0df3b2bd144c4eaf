import TokenIndexer.Block

/-!
Where committed blocks, their results and the latest committed height are kept. Writes gather in a batch and
take effect together.
-/

namespace TokenIndexer

inductive StoreError where
  | codec (text : String)
  | transaction (text : String)
  | io (text : String)
  /-- The latest height only moves forward. -/
  | heightRegression (current new : Height)
  | other (text : String)
  deriving DecidableEq

def StoreError.message : StoreError → String
  | .codec text => "codec error " ++ text
  | .transaction text => "transaction error " ++ text
  | .io text => "IO Error: " ++ text
  | .heightRegression current new =>
    "tried to move latest height back from " ++ current.text ++ " to " ++ new.text
  | .other text => text

/-- Writes in the order in which they were made; later ones replace earlier ones. -/
structure Batch where
  blocks : List Block
  results : List TxResult
  /-- The latest height, when the batch moves it. -/
  marker : Option Height
  deriving DecidableEq

namespace Batch

def empty : Batch := ⟨[], [], none⟩

def withBlock (batch : Batch) (block : Block) : Batch :=
  { batch with blocks := batch.blocks ++ [block] }

def withResult (batch : Batch) (result : TxResult) : Batch :=
  { batch with results := batch.results ++ [result] }

def withMarker (batch : Batch) (height : Height) : Batch := { batch with marker := some height }

end Batch

/-- A kind of store, by what it does with its contents. -/
class Store (σ : Type) where
  latest : σ → Except StoreError (Option Height)
  block : σ → Height → Except StoreError (Option Block)
  result : σ → Height → UInt32 → Except StoreError (Option TxResult)
  /-- The results of a height, by index. -/
  results : σ → Height → Except StoreError (List TxResult)
  setBlock : σ → Batch → Block → Except StoreError Batch
  setResult : σ → Batch → TxResult → Except StoreError Batch
  setMarker : σ → Batch → Height → Except StoreError Batch
  commit : σ → Batch → Except StoreError σ

end TokenIndexer
