import TokenIndexer.Node

/-! Fetching one range of heights, all of it or nothing. -/

namespace TokenIndexer

inductive FetchFailure where
  | node (error : NodeError)
  /-- The worker broke down. -/
  | panicked (text : String)
  deriving DecidableEq

def FetchFailure.message : FetchFailure → String
  | .node error => error.message
  | .panicked text => "worker panicked: " ++ text

/-- The outcome of a request, and after how many milliseconds it comes. -/
structure Answer (α : Type) where
  wait : Nat
  outcome : Except FetchFailure α

namespace Answer

variable {α β : Type}

def atOnce (outcome : Except FetchFailure α) : Answer α := ⟨0, outcome⟩

def failed (answer : Answer α) : Bool :=
  match answer.outcome with
  | .ok _ => false
  | .error _ => true

def andThen (answer : Answer α) (next : α → Except NodeError β) : Answer β :=
  ⟨answer.wait, answer.outcome.bind fun a => (next a).mapError .node⟩

/-- Two requests at once: the failure that comes first, the first request's if both come together, or
both results when the later one is there. -/
def both (first : Answer α) (second : Answer β) : Answer (α × β) :=
  match first.outcome, second.outcome with
  | .ok a, .ok b => ⟨max first.wait second.wait, .ok (a, b)⟩
  | .error e, .ok _ => ⟨first.wait, .error e⟩
  | .ok _, .error e => ⟨second.wait, .error e⟩
  | .error e, .error e' =>
    if first.wait ≤ second.wait then ⟨first.wait, .error e⟩ else ⟨second.wait, .error e'⟩

end Answer

structure BlockSource (m : Type → Type) where
  block : Height → m (Answer Block)
  results : Height → m (Answer BlockResults)

namespace Fetch

variable {m : Type → Type} [Monad m]

/-- The block of a height with the results of its transactions. When the block fails at once its
results are not asked for. -/
def height (source : BlockSource m) (h : Height) : m (Answer FetchedBlock) := do
  let block := (← source.block h).andThen (Block.checked h)
  match block.wait, block.outcome with
  | 0, .error e => return .atOnce (.error e)
  | _, _ =>
    let results ← source.results h
    return (block.both results).andThen fun (block, results) =>
      (results.pair block).map fun results => ⟨block, results⟩

def heightsFrom (source : BlockSource m) : Nat → Height → m (Except FetchFailure (List FetchedBlock))
  | 0, _ => return .ok []
  | count + 1, h => do
    match (← height source h).outcome with
    | .error e => return .error e
    | .ok entry => return (← heightsFrom source count (h + 1)).map (entry :: ·)

def range (source : BlockSource m) (r : HeightRange) : m (Except FetchFailure Chunk) := do
  return (← heightsFrom source r.size.toNat r.first).map Chunk.mk

end Fetch

end TokenIndexer
