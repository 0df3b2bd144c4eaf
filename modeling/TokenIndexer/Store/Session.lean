import TokenIndexer.Store

/-! A store with any number of batches open at once; their numbers are not used again. -/

namespace TokenIndexer

structure Session (σ : Type) where
  store : σ
  /-- The batches by number, none for those that were ended. -/
  batches : List (Option Batch)

namespace Session

inductive Command where
  | begin
  | setBlock (batch : Nat) (block : Block)
  | setResult (batch : Nat) (result : TxResult)
  | setMarker (batch : Nat) (height : Height)
  | commit (batch : Nat)
  /-- Ends a batch without effect. -/
  | discard (batch : Nat)
  deriving DecidableEq

variable {σ : Type} [Store σ]

def opened (store : σ) : Session σ := ⟨store, []⟩

def open? (session : Session σ) (batch : Nat) : Option Batch := (session.batches[batch]?).join

def replace (session : Session σ) (batch : Nat) (contents : Option Batch) : Session σ :=
  { session with batches := session.batches.set batch contents }

/-- Adds a write to an open batch; one that fails leaves the batch as it was. -/
def write (session : Session σ) (batch : Nat)
    (add : σ → Batch → Except StoreError Batch) : Session σ × Except StoreError Unit :=
  match session.open? batch with
  | none => (session, .ok ())
  | some contents =>
    match add session.store contents with
    | .ok contents => (session.replace batch (some contents), .ok ())
    | .error e => (session, .error e)

/-- Ends a batch, with its writes in the store when the store takes them. -/
def commit (session : Session σ) (batch : Nat) : Session σ × Except StoreError Unit :=
  match session.open? batch with
  | none => (session, .ok ())
  | some contents =>
    let ended := session.replace batch none
    match Store.commit session.store contents with
    | .ok store => ({ ended with store := store }, .ok ())
    | .error e => (ended, .error e)

def step (session : Session σ) : Command → Session σ × Except StoreError Unit
  | .begin => ({ session with batches := session.batches ++ [some .empty] }, .ok ())
  | .setBlock batch block => session.write batch fun store b => Store.setBlock store b block
  | .setResult batch result => session.write batch fun store b => Store.setResult store b result
  | .setMarker batch height => session.write batch fun store b => Store.setMarker store b height
  | .commit batch => session.commit batch
  | .discard batch => (session.replace batch none, .ok ())

end Session

end TokenIndexer
