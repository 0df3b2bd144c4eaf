import TokenIndexer.Proofs.Ingest.Schedule
import TokenIndexer.Proofs.Ingest.Staging
import TokenIndexer.Proofs.Ingest.Steps
import TokenIndexer.Proofs.Store.Layered

/-! A chunk goes into the store as a whole or not at all, and so do its events. -/

namespace TokenIndexer

namespace Commit

open Token

variable {σ : Type} [Store σ]

def acceptedResults (store : σ) : Batch → List TxResult → List TxResult
  | _, [] => []
  | batch, result :: rest =>
    match Store.setResult store batch result with
    | .error _ => acceptedResults store batch rest
    | .ok written => result :: acceptedResults store written rest

def writtenResults (store : σ) : Batch → List FetchedBlock → List TxResult
  | _, [] => []
  | batch, entry :: rest =>
    match Store.setBlock store batch entry.block with
    | .error _ => writtenResults store batch rest
    | .ok written =>
      acceptedResults store written entry.results ++
        writtenResults store (stageResults store written entry.results) rest

/-- The batch with what the store accepts of a chunk. -/
def acceptedBatch (store : σ) (c : Chunk) : Batch :=
  ⟨(accepted store .empty c.entries).map (·.block), writtenResults store .empty c.entries, none⟩

section Batch

variable [Store.Keeping σ]

theorem stageResults_accepted (store : σ) (batch : Batch) (results : List TxResult) :
    stageResults store batch results =
      { batch with results := batch.results ++ acceptedResults store batch results } := by
  unfold stageResults
  induction results generalizing batch with
  | nil => simp [acceptedResults]
  | cons first rest ih =>
    rw [List.foldl_cons, acceptedResults]
    cases taken : Store.setResult store batch first with
    | error e => exact ih batch
    | ok written =>
      obtain rfl := Store.Keeping.eq_withResult taken
      refine (ih (batch.withResult first)).trans ?_
      simp [Batch.withResult]

theorem batch_foldl_accepted (detector : Detector) (store : σ) (entries : List FetchedBlock) (staged : Staged) :
    (entries.foldl (stageBlock detector store) staged).batch =
      ⟨staged.batch.blocks ++ (accepted store staged.batch entries).map (·.block),
        staged.batch.results ++ writtenResults store staged.batch entries, staged.batch.marker⟩ := by
  induction entries generalizing staged with
  | nil => simp [accepted, writtenResults]
  | cons entry rest ih =>
    rw [List.foldl_cons, ih, accepted, writtenResults]
    cases taken : Store.setBlock store staged.batch entry.block with
    | error e => rw [(stageBlock_of_error detector taken).1]
    | ok written =>
      obtain rfl := Store.Keeping.eq_withBlock taken
      rw [(stageBlock_of_ok detector taken).1]
      simp [stageResults_accepted, Batch.withBlock]

theorem batch_stage_accepted (detector : Detector) (store : σ) (c : Chunk) :
    (stage detector store c).batch = acceptedBatch store c := by
  refine (batch_foldl_accepted detector store c.entries .empty).trans ?_
  simp [acceptedBatch, Staged.empty, Batch.empty]

theorem assembled_acceptedBatch (detector : Detector) (store : σ) (c : Chunk) :
    Store.Assembled store (acceptedBatch store c) := by
  rw [← batch_stage_accepted detector store c]
  exact (extends_stage detector store c).assembled .empty

end Batch

structure Added [Store.Layered σ] (store : σ) (blocks : List Block) (results : List TxResult)
    (latest : Height) (after : σ) : Prop where
  block : ∀ h, Store.block after h = overlay (lastBlock? blocks h) (Store.block store h)
  result : ∀ h index,
    Store.result after h index = overlay (lastResult? results h index) (Store.result store h index)
  listed : Store.Keeping.Sound store → ∀ h, ∃ row list, Store.results after h = .ok list ∧
    Listed row list ∧ ∀ index, Store.result after h index = .ok (row index)
  latest : ∀ before, Store.latest store = .ok before → Store.latest after = .ok (some latest)

theorem added_of_finish [Store.Layered σ] {store after : σ} {detector : Detector} {range : HeightRange}
    {c : Chunk} {events : List Event}
    (committed : (chunk detector store range c).result = .ok (after, events)) :
    Added store ((accepted store .empty c.entries).map (·.block)) (writtenResults store .empty c.entries)
      range.last after := by
  obtain ⟨batch, marked, taken, _⟩ := finish_eq_ok committed
  obtain rfl := Store.Marked.marker_setMarker marked
  rw [batch_stage_accepted] at taken
  have assembled := assembled_acceptedBatch detector store c
  constructor
  · exact Store.Layered.block_commit assembled taken
  · exact Store.Layered.result_commit assembled taken
  · intro sound h
    have soundAfter := (Store.Keeping.commit_ok sound assembled taken).1
    obtain ⟨list, read, listed⟩ := Store.Keeping.results_eq soundAfter h
    exact ⟨_, list, read, listed, Store.Keeping.result_eq soundAfter h⟩
  · intro before read
    exact Store.Marked.latest_commit read taken rfl

theorem finish_eq_error_iff {store : σ} {range : HeightRange} {staged : Staged} {error : FetchError} :
    finish store range staged = .error error ↔
      (∃ e, Store.setMarker store staged.batch range.last = .error e ∧
        error = .heightMarker range.last e) ∨
      ∃ marked e, Store.setMarker store staged.batch range.last = .ok marked ∧
        Store.commit store marked = .error e ∧ error = .commit range e := by
  unfold finish
  cases marker : Store.setMarker store staged.batch range.last with
  | error e => simp [eq_comm]
  | ok marked =>
    cases taken : Store.commit store marked with
    | error e => simp [taken, eq_comm]
    | ok after => simp [taken]

end Commit

namespace Fetcher

variable {σ : Type} [Store σ] {policy : Policy} {f : Fetcher σ} {range : HeightRange} {c : Chunk}
  {slots : SlotBuffer}

theorem commitReady_eq (policy : Policy) (ready : f.slots.pop? = some ((range, c), slots)) :
    f.commitReady policy =
      match (Commit.chunk policy.detector f.store range c).result with
      | .error e =>
        ⟨{ f with slots := slots }, [], [Commit.chunk policy.detector f.store range c], some e⟩
      | .ok (after, _) =>
        { Fetcher.commitReady policy ⟨after, slots⟩ with
          outcomes := Commit.chunk policy.detector f.store range c ::
            (Fetcher.commitReady policy ⟨after, slots⟩).outcomes } := by
  rw [commitReady]
  split
  · next waiting =>
    rw [ready] at waiting
    cases waiting
  · next popped =>
    rw [ready] at popped
    cases popped
    cases result : (Commit.chunk policy.detector f.store range c).result <;> simp [result]

/-- What becomes of the complete chunk at the front, and of the events about it. -/
structure AllOrNothing [Store.Layered σ] (policy : Policy) (f : Fetcher σ) (range : HeightRange)
    (c : Chunk) (slots : SlotBuffer) : Prop where
  failed : ∀ error, (Commit.chunk policy.detector f.store range c).result = .error error ↔
    (∃ e, Store.setMarker f.store (Commit.acceptedBatch f.store c) range.last = .error e ∧
      error = .heightMarker range.last e) ∨
    ∃ marked e, Store.setMarker f.store (Commit.acceptedBatch f.store c) range.last = .ok marked ∧
      Store.commit f.store marked = .error e ∧ error = .commit range e
  unchanged : ∀ error, (Commit.chunk policy.detector f.store range c).result = .error error →
    (f.commitReady policy).fetcher.store = f.store ∧ (f.commitReady policy).events = [] ∧
      (f.commitReady policy).stopped = some error
  added : ∀ after events, (Commit.chunk policy.detector f.store range c).result = .ok (after, events) →
    Commit.Added f.store ((Commit.accepted f.store .empty c.entries).map (·.block))
      (Commit.writtenResults f.store .empty c.entries) range.last after
  announced : ∀ after events, (Commit.chunk policy.detector f.store range c).result = .ok (after, events) →
    events = (Commit.accepted f.store .empty c.entries).flatMap (Commit.announcement policy.detector)
  /-- What follows begins where this ended. -/
  onward : ∀ after events, (Commit.chunk policy.detector f.store range c).result = .ok (after, events) →
    (f.commitReady policy).fetcher = (Fetcher.commitReady policy ⟨after, slots⟩).fetcher ∧
      (f.commitReady policy).events = events ++ (Fetcher.commitReady policy ⟨after, slots⟩).events

theorem allOrNothing_commitReady [Store.Layered σ] (policy : Policy)
    (ready : f.slots.pop? = some ((range, c), slots)) : AllOrNothing policy f range c slots := by
  constructor
  · intro error
    rw [← Commit.batch_stage_accepted policy.detector]
    exact Commit.finish_eq_error_iff
  · intro error failed
    rw [commitReady_eq policy ready, failed]
    refine ⟨rfl, ?_, rfl⟩
    simp [Step.events, Commit.Outcome.events, failed]
  · intro after events committed
    exact Commit.added_of_finish committed
  · intro after events committed
    obtain ⟨_, _, _, rfl⟩ := Commit.finish_eq_ok committed
    exact Commit.events_stage policy.detector f.store c
  · intro after events committed
    rw [commitReady_eq policy ready, committed]
    refine ⟨rfl, ?_⟩
    simp [Step.events, Commit.Outcome.events, committed]

/-- The store refuses the first of three blocks and a result of the second. -/
theorem allOrNothing_between_refusals :
    let result (h : Height) (index : UInt32) : TxResult := ⟨h, index, ⟨[]⟩, .empty⟩
    let c : Chunk := ⟨[⟨Chain.plain.block 1, [result 1 0]⟩,
      ⟨Chain.plain.block 2, [result 2 0, result 2 1]⟩, ⟨Chain.plain.block 3, []⟩]⟩
    let range : HeightRange := ⟨1, 3, by decide, by decide⟩
    let refusing : Mishaps := { Mishaps.none with
      block := fun b => if b.height = 1 then some (.codec "refused") else none
      result := fun r => if r.index = 0 then some (.codec "refused") else none }
    let store : Failing KeyedStore := ⟨.empty, fun _ => refusing⟩
    let f : Fetcher (Failing KeyedStore) := ⟨store, ⟨[⟨range, some c, 0⟩], 1⟩⟩
    let step := f.commitReady (Policy.plain 3 1)
    f.slots.pop? = some ((range, c), ⟨[], 1⟩) ∧
      AllOrNothing (Policy.plain 3 1) f range c ⟨[], 1⟩ ∧
      step.events = [.newBlock (Chain.plain.block 2) [result 2 0, result 2 1],
        .newBlock (Chain.plain.block 3) []] ∧
      Store.results step.fetcher.store 2 = .ok [result 2 1] ∧
      Store.latest step.fetcher.store = .ok (some 3) := by
  intro result c range refusing store f step
  have ready : f.slots.pop? = some ((range, c), ⟨[], 1⟩) := rfl
  exact ⟨ready, allOrNothing_commitReady _ ready, by decide +kernel, by decide +kernel, by decide +kernel⟩

end Fetcher

end TokenIndexer
