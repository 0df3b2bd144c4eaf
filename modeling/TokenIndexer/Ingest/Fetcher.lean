import TokenIndexer.Ingest.Commit
import TokenIndexer.Ingest.Slots

namespace TokenIndexer

structure Ticker where
  period : Nat
  positive : 0 < period
  deriving DecidableEq

namespace Ticker

def every? (period : Nat) : Option Ticker :=
  if positive : 0 < period then some ⟨period, positive⟩ else none

def after (ticker : Ticker) (time : Nat) : Nat := time + ticker.period

end Ticker

structure Policy where
  maxChunkSize : UInt64
  /-- How often a range may fail, the last failure being fatal. -/
  maxAttempts : UInt32
  detector : Token.Detector

structure Fetcher (σ : Type) where
  store : σ
  slots : SlotBuffer

/-- A range for a worker, at once or after the delay before a retry. -/
structure Assignment where
  range : HeightRange
  delayed : Bool
  deriving DecidableEq

structure Response where
  range : HeightRange
  result : Except FetchFailure Chunk

structure Step (σ : Type) where
  fetcher : Fetcher σ
  assigned : List Assignment
  /-- What became of the chunks that it went to commit, in order. -/
  outcomes : List (Commit.Outcome σ)
  /-- Why the fetcher stops, when it does. -/
  stopped : Option FetchError

namespace Step

variable {σ : Type}

def events (step : Step σ) : List Event := step.outcomes.flatMap (·.events)

def queried (step : Step σ) : List String := step.outcomes.flatMap (·.queried)

end Step

namespace Fetcher

variable {σ : Type}

def start (store : σ) (maxSlots : Nat) : Fetcher σ := ⟨store, .empty maxSlots⟩

def responseRoom (maxSlots : Nat) : Nat := max maxSlots 1

def idle (f : Fetcher σ) : Step σ := ⟨f, [], [], none⟩

def stop (f : Fetcher σ) (error : FetchError) : Step σ := ⟨f, [], [], some error⟩

/-- The first height that is neither stored nor reserved, given the latest stored one. -/
def firstMissing (f : Fetcher σ) (stored : Height) : Height :=
  match f.slots.nextHeight? with
  | some next => max next (stored + 1)
  | none => stored + 1

def assign (policy : Policy) (f : Fetcher σ) (stored remote : Height) : Step σ :=
  let first := f.firstMissing stored
  if remote < first then f.idle
  else
    let (ranges, slots) := f.slots.reserve first remote policy.maxChunkSize
    ⟨{ f with slots := slots }, ranges.map fun range => ⟨range, false⟩, [], none⟩

variable [Store σ]

def stored (f : Fetcher σ) : Except StoreError Height :=
  (Store.latest f.store).map fun latest => latest.getD 0

def asksForHeight (f : Fetcher σ) : Bool :=
  !f.slots.isFull &&
    match f.stored with
    | .ok _ => true
    | .error _ => false

def tick (policy : Policy) (remote : Except NodeError Height) (f : Fetcher σ) : Step σ :=
  if f.slots.isFull then f.idle
  else
    match f.stored with
    | .error e => f.stop (.localHeight e)
    | .ok stored =>
      match remote with
      | .error _ => f.idle
      | .ok remote =>
        if remote < stored then f.stop (.chainReset stored remote)
        else if remote = stored then f.idle
        else f.assign policy stored remote

/-- Commits the chunks that are complete at the front, up to the first that fails. -/
def commitReady (policy : Policy) (f : Fetcher σ) : Step σ :=
  match popped : f.slots.pop? with
  | none => f.idle
  | some ((range, chunk), slots) =>
    let outcome := Commit.chunk policy.detector f.store range chunk
    match outcome.result with
    | .error e => ⟨{ f with slots := slots }, [], [outcome], some e⟩
    | .ok (store, _) =>
      have := SlotBuffer.pop?_length popped
      let later := commitReady policy ⟨store, slots⟩
      { later with outcomes := outcome :: later.outcomes }
  termination_by f.slots.slots.length

/-- A worker's response. One for a range that is not reserved is passed over. -/
def respond (policy : Policy) (response : Response) (f : Fetcher σ) : Step σ :=
  match response.result with
  | .ok chunk =>
    match f.slots.fill? response.range.first chunk with
    | none => f.idle
    | some slots => commitReady policy { f with slots := slots }
  | .error e =>
    match f.slots.fail? response.range.first with
    | none => f.idle
    | some (attempts, slots) =>
      let counted : Fetcher σ := { f with slots := slots }
      if policy.maxAttempts ≤ attempts then
        counted.stop (.rangeExhausted response.range attempts e)
      else { counted.idle with assigned := [⟨response.range, true⟩] }

end Fetcher

end TokenIndexer
