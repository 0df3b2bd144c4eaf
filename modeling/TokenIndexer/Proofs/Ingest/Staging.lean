import TokenIndexer.Proofs.Ingest.Commit
import TokenIndexer.Proofs.Ingest.Fetch
import TokenIndexer.Proofs.Store.Keeping

namespace TokenIndexer

/-- A chunk with the block of each height of a range, in their order, and with results of these blocks. -/
structure Exact (range : HeightRange) (c : Chunk) : Prop where
  heights : c.entries.map (·.block.height) = range.heights
  results : ∀ entry ∈ c.entries, ∀ result ∈ entry.results, result.height = entry.block.height

namespace Answers

variable {answers : Answers} {range : HeightRange} {c : Chunk}

theorem results_of_fetch (fetched : answers.fetch range = .ok c) :
    ∀ entry ∈ c.entries, ∀ result ∈ entry.results, result.height = entry.block.height := by
  have each := fetch_eq_ok_iff.1 fetched
  generalize range.heights = heights, c.entries = entries at each
  induction each with
  | nil =>
    intro entry none
    cases none
  | cons come _ ih =>
    intro entry member
    rcases List.mem_cons.1 member with rfl | later
    · obtain ⟨results, _, _, _, paired⟩ := height_eq_ok_iff.1 come
      exact BlockResults.height_of_mem_pair paired
    · exact ih entry later

theorem exact_of_fetch (fetched : answers.fetch range = .ok c) : Exact range c :=
  ⟨heights_of_fetch fetched, results_of_fetch fetched⟩

end Answers

namespace Exact

variable {range : HeightRange} {c : Chunk}

theorem contains (exact : Exact range c) {entry : FetchedBlock} (member : entry ∈ c.entries) :
    range.contains entry.block.height := by
  rw [← HeightRange.mem_heights, ← exact.heights]
  exact List.mem_map_of_mem member

theorem ascending (exact : Exact range c) :
    c.entries.Pairwise fun a b => a.block.height < b.block.height := by
  have heights := range.ascending_heights
  rw [← exact.heights] at heights
  exact List.pairwise_map.1 heights

end Exact

namespace Contents

theorem block_write_cases (c : Contents) (blocks : List Block) (results : List TxResult) (h : Height) :
    (c.write blocks results).block h = c.block h ∨
      ∃ b ∈ blocks, b.height = h ∧ (c.write blocks results).block h = some b := by
  change blocks.foldl putBlock c.block h = c.block h ∨
    ∃ b ∈ blocks, b.height = h ∧ blocks.foldl putBlock c.block h = some b
  generalize c.block = rows
  induction blocks generalizing rows with
  | nil => exact .inl rfl
  | cons b rest ih =>
    rw [List.foldl_cons]
    rcases ih (putBlock rows b) with same | ⟨later, member, height, written⟩
    · by_cases own : b.height = h
      · refine .inr ⟨b, List.mem_cons_self, own, ?_⟩
        rw [same, putBlock, own, Function.update_self]
      · left
        rw [same, putBlock, Function.update_of_ne (Ne.symm own)]
    · exact .inr ⟨later, List.mem_cons_of_mem _ member, height, written⟩

theorem block_write_of_mem (c : Contents) {blocks : List Block} (results : List TxResult)
    (ascending : blocks.Pairwise fun a b => a.height < b.height) {b : Block} (member : b ∈ blocks) :
    (c.write blocks results).block b.height = some b := by
  obtain ⟨front, back, rfl⟩ := List.append_of_mem member
  have later : ∀ other ∈ back, other.height ≠ b.height := fun other belongs same => by
    have below := (List.pairwise_cons.1 (List.pairwise_append.1 ascending).2.1).1 other belongs
    rw [same] at below
    exact UInt64.lt_irrefl _ below
  have shape : (c.write (front ++ b :: back) results) =
      ((c.write front results).write [b] []).write back [] := by
    simp [write]
  rw [shape, block_write_of_forall_ne later]
  simp [write, putBlock]

end Contents

namespace Commit

open Token

variable {σ : Type} [Store σ]

def announcement (detector : Detector) (entry : FetchedBlock) : List Event :=
  (detector.detect entry.block entry.results).map .tokenDetected ++
    [.newBlock entry.block entry.results]

/-- The entries whose blocks the store accepts into a batch, one after the other. -/
def accepted (store : σ) : Batch → List FetchedBlock → List FetchedBlock
  | _, [] => []
  | batch, entry :: rest =>
    match Store.setBlock store batch entry.block with
    | .error _ => accepted store batch rest
    | .ok written => entry :: accepted store (stageResults store written entry.results) rest

theorem accepted_sublist (store : σ) (batch : Batch) (entries : List FetchedBlock) :
    (accepted store batch entries).Sublist entries := by
  fun_induction accepted store batch entries with
  | case1 => exact List.Sublist.slnil
  | case2 batch entry rest error refused ih => exact ih.cons entry
  | case3 batch entry rest written takes ih => exact ih.cons_cons entry

theorem stageBlock_of_error (detector : Detector) {store : σ} {staged : Staged} {entry : FetchedBlock}
    {error : StoreError} (refused : Store.setBlock store staged.batch entry.block = .error error) :
    (stageBlock detector store staged entry).batch = staged.batch ∧
      (stageBlock detector store staged entry).events = staged.events := by
  simp [stageBlock, refused]

theorem stageBlock_of_ok (detector : Detector) {store : σ} {staged : Staged} {entry : FetchedBlock}
    {written : Batch} (takes : Store.setBlock store staged.batch entry.block = .ok written) :
    (stageBlock detector store staged entry).batch = stageResults store written entry.results ∧
      (stageBlock detector store staged entry).events = staged.events ++ announcement detector entry := by
  simp [stageBlock, takes, announcement]

theorem accepted_append (detector : Detector) (store : σ) (front back : List FetchedBlock)
    (staged : Staged) :
    accepted store staged.batch (front ++ back) = accepted store staged.batch front ++
      accepted store (front.foldl (stageBlock detector store) staged).batch back := by
  induction front generalizing staged with
  | nil => rfl
  | cons entry rest ih =>
    have onward := ih (stageBlock detector store staged entry)
    rw [List.cons_append, List.foldl_cons, accepted, accepted]
    cases result : Store.setBlock store staged.batch entry.block with
    | error e =>
      rw [(stageBlock_of_error detector result).1] at onward
      exact onward
    | ok written =>
      rw [(stageBlock_of_ok detector result).1] at onward
      exact congrArg (entry :: ·) onward

theorem events_foldl (detector : Detector) (store : σ) (entries : List FetchedBlock) (staged : Staged) :
    (entries.foldl (stageBlock detector store) staged).events =
      staged.events ++ (accepted store staged.batch entries).flatMap (announcement detector) := by
  induction entries generalizing staged with
  | nil => simp [accepted]
  | cons entry rest ih =>
    rw [List.foldl_cons, ih, accepted]
    cases result : Store.setBlock store staged.batch entry.block with
    | error e =>
      obtain ⟨batch, events⟩ := stageBlock_of_error detector result
      rw [batch, events]
    | ok written =>
      obtain ⟨batch, events⟩ := stageBlock_of_ok detector result
      simp [batch, events]

theorem events_stage (detector : Detector) (store : σ) (c : Chunk) :
    (stage detector store c).events =
      (accepted store .empty c.entries).flatMap (announcement detector) :=
  events_foldl detector store c.entries .empty

variable [Store.Keeping σ] {store : σ}

open Store.Keeping (Sound contents)

structure Staged.Extends (store : σ) (entries : List FetchedBlock) (before after : Batch) : Prop where
  assembled : Store.Assembled store before → Store.Assembled store after
  blocks : after.blocks = before.blocks ++ entries.map (·.block)
  results : ∀ result ∈ after.results, result ∈ before.results ∨ ∃ entry ∈ entries, result ∈ entry.results

theorem extends_stageResults (store : σ) (batch : Batch) (results : List TxResult) :
    (Store.Assembled store batch → Store.Assembled store (stageResults store batch results)) ∧
      (stageResults store batch results).blocks = batch.blocks ∧
      ∀ result ∈ (stageResults store batch results).results, result ∈ batch.results ∨ result ∈ results := by
  unfold stageResults
  induction results generalizing batch with
  | nil => exact ⟨id, rfl, fun _ member => .inl member⟩
  | cons first rest ih =>
    rw [List.foldl_cons]
    cases result : Store.setResult store batch first with
    | error e =>
      obtain ⟨assembled, blocks, results⟩ := ih batch
      refine ⟨assembled, blocks, fun r member => ?_⟩
      exact (results r member).imp_right (List.mem_cons_of_mem _)
    | ok written =>
      obtain rfl := Store.Keeping.eq_withResult result
      obtain ⟨assembled, blocks, results⟩ := ih (batch.withResult first)
      refine ⟨fun before => assembled (before.withResult result), blocks, fun r member => ?_⟩
      rcases results r member with old | new
      · rcases List.mem_append.1 old with old | own
        · exact .inl old
        · exact .inr (List.mem_singleton.1 own ▸ List.mem_cons_self)
      · exact .inr (List.mem_cons_of_mem _ new)

theorem extends_foldl (detector : Detector) (entries : List FetchedBlock) (staged : Staged) :
    Staged.Extends store (accepted store staged.batch entries) staged.batch
      (entries.foldl (stageBlock detector store) staged).batch := by
  induction entries generalizing staged with
  | nil => exact ⟨id, by simp [accepted], fun _ member => .inl member⟩
  | cons entry rest ih =>
    have onward := ih (stageBlock detector store staged entry)
    rw [List.foldl_cons, accepted]
    cases result : Store.setBlock store staged.batch entry.block with
    | error e =>
      rw [(stageBlock_of_error detector result).1] at onward
      exact onward
    | ok written =>
      obtain rfl := Store.Keeping.eq_withBlock result
      obtain ⟨assembled, blocks, results⟩ :=
        extends_stageResults store (staged.batch.withBlock entry.block) entry.results
      rw [(stageBlock_of_ok detector result).1] at onward
      refine ⟨fun before => onward.assembled (assembled (before.withBlock result)), ?_, ?_⟩
      · rw [onward.blocks, blocks]
        simp [Batch.withBlock]
      · intro r member
        rcases onward.results r member with old | ⟨later, belongs, of⟩
        · rcases results r old with old | own
          · exact .inl old
          · exact .inr ⟨entry, List.mem_cons_self, own⟩
        · exact .inr ⟨later, List.mem_cons_of_mem _ belongs, of⟩

theorem extends_stage (detector : Detector) (store : σ) (c : Chunk) :
    Staged.Extends store (accepted store .empty c.entries) .empty (stage detector store c).batch :=
  extends_foldl detector c.entries .empty

/-- What a chunk leaves in the store, and what is announced then. -/
theorem chunk_eq_ok (sound : Sound store) {detector : Detector} {range : HeightRange} {c : Chunk}
    {after : σ} {events : List Event}
    (committed : (chunk detector store range c).result = .ok (after, events)) :
    Sound after ∧ events = (accepted store .empty c.entries).flatMap (announcement detector) ∧
      ∃ results, (∀ result ∈ results, ∃ entry ∈ c.entries, result ∈ entry.results) ∧
        contents after =
          (contents store).write ((accepted store .empty c.entries).map (·.block)) results := by
  obtain ⟨batch, marked, taken, rfl⟩ := finish_eq_ok committed
  obtain rfl := Store.Marked.marker_setMarker marked
  have extended := extends_stage detector store c
  obtain ⟨soundAfter, written⟩ := Store.Keeping.commit_ok sound (extended.assembled .empty) taken
  refine ⟨soundAfter, events_stage detector store c, (stage detector store c).batch.results, ?_, ?_⟩
  · intro result member
    rcases extended.results result member with none | ⟨entry, belongs, of⟩
    · cases none
    · exact ⟨entry, (accepted_sublist _ _ _).subset belongs, of⟩
  · rw [written, extended.blocks]
    rfl

/-- A chunk that is committed leaves everything outside its range as it was. -/
theorem contents_outside_chunk {detector : Detector} {range : HeightRange} {c : Chunk} {after : σ}
    {events : List Event} (exact : Exact range c) (sound : Sound store)
    (committed : (chunk detector store range c).result = .ok (after, events)) {h : Height}
    (outside : range.contains h = false) :
    (contents after).block h = (contents store).block h ∧
      (contents after).result h = (contents store).result h := by
  obtain ⟨_, _, results, own, written⟩ := chunk_eq_ok sound committed
  have elsewhere : ∀ entry ∈ c.entries, entry.block.height ≠ h := by
    rintro entry member rfl
    rw [exact.contains member] at outside
    cases outside
  rw [written]
  constructor
  · apply Contents.block_write_of_forall_ne
    intro b member
    obtain ⟨entry, takes, rfl⟩ := List.mem_map.1 member
    exact elsewhere entry ((accepted_sublist _ _ _).subset takes)
  · apply Contents.result_write_of_forall_ne
    intro r member
    obtain ⟨entry, belongs, of⟩ := own r member
    rw [exact.results entry belongs r of]
    exact elsewhere entry belongs

theorem contents_outside {outcomes : List (Outcome σ)} {after : σ}
    (succession : Succession Exact store outcomes after) (sound : Sound store) :
    Sound after ∧ ∀ h, (∀ range ∈ committed outcomes, range.contains h = false) →
      (contents after).block h = (contents store).block h ∧
        (contents after).result h = (contents store).result h := by
  induction outcomes generalizing store with
  | nil =>
    cases succession
    exact ⟨sound, fun _ _ => ⟨rfl, rfl⟩⟩
  | cons outcome rest ih =>
    obtain ⟨⟨detector, c, exact, same⟩, tail⟩ := succession
    cases result : outcome.result with
    | error e =>
      rw [result] at tail
      obtain ⟨rfl, rfl⟩ := tail
      exact ⟨sound, fun _ _ => ⟨rfl, rfl⟩⟩
    | ok pair =>
      obtain ⟨next, events⟩ := pair
      rw [result] at tail
      have started : (chunk detector store outcome.range c).result = .ok (next, events) := same ▸ result
      obtain ⟨soundAfter, onward⟩ := ih tail (chunk_eq_ok sound started).1
      refine ⟨soundAfter, fun h outside => ?_⟩
      rw [committed_cons_ok result] at outside
      obtain ⟨block, results⟩ := onward h fun range later => outside range (List.mem_cons_of_mem _ later)
      obtain ⟨block', results'⟩ :=
        contents_outside_chunk exact sound started (outside _ List.mem_cons_self)
      exact ⟨block.trans block', results.trans results'⟩

end Commit

end TokenIndexer
