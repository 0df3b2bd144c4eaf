import TokenIndexer.Proofs.Ingest.Commit
import TokenIndexer.Proofs.Ingest.Fetch

namespace TokenIndexer

namespace Taking

def blocks (taking : Taking) (entries : List FetchedBlock) : List Block :=
  (entries.filter fun entry => taking.block entry.block).map (·.block)

/-- The results that are written, those of a block that is not written being left out. -/
def results (taking : Taking) (entries : List FetchedBlock) : List TxResult :=
  (entries.filter fun entry => taking.block entry.block).flatMap fun entry =>
    entry.results.filter taking.result

@[simp] theorem blocks_append (taking : Taking) (front back : List FetchedBlock) :
    taking.blocks (front ++ back) = taking.blocks front ++ taking.blocks back := by
  simp [blocks]

@[simp] theorem results_append (taking : Taking) (front back : List FetchedBlock) :
    taking.results (front ++ back) = taking.results front ++ taking.results back := by
  simp [results]

def Agree (chain : Chain) (one other : Taking) : Prop :=
  ∀ h entry, chain.entry? h = some entry → one.block entry.block = other.block entry.block ∧
    ∀ result ∈ entry.results, one.result result = other.result result

end Taking

def Contents.take (c : Contents) (taking : Taking) (entries : List FetchedBlock) : Contents :=
  c.write (taking.blocks entries) (taking.results entries)

theorem Contents.take_append (c : Contents) (taking : Taking) (front back : List FetchedBlock) :
    c.take taking (front ++ back) = (c.take taking front).take taking back := by
  simp [take, write_append]

theorem Contents.take_congr {chain : Chain} {one other : Taking} (agree : Taking.Agree chain one other)
    (c : Contents) (heights : List Height) :
    c.take one (heights.filterMap chain.entry?) = c.take other (heights.filterMap chain.entry?) := by
  have same : ∀ entry ∈ heights.filterMap chain.entry?, one.block entry.block = other.block entry.block ∧
      ∀ result ∈ entry.results, one.result result = other.result result := by
    intro entry member
    obtain ⟨h, _, present⟩ := List.mem_filterMap.1 member
    exact agree h entry present
  have accepted : (heights.filterMap chain.entry?).filter (fun entry => one.block entry.block) =
      (heights.filterMap chain.entry?).filter fun entry => other.block entry.block :=
    List.filter_congr fun entry member => (same entry member).1
  rw [take, take, Taking.blocks, Taking.blocks, Taking.results, Taking.results, accepted]
  congr 1
  refine List.flatMap_congr fun entry member => ?_
  exact List.filter_congr (same entry (List.mem_of_mem_filter member)).2

namespace Commit

open Token

variable {σ : Type} [Store σ] [Store.Lawful σ] {store after : σ}

open Store.Lawful

theorem stageResults_eq (store : σ) (batch : Batch) (results : List TxResult) :
    stageResults store batch results =
      { batch with results := batch.results ++ results.filter (taking store).result } := by
  unfold stageResults
  induction results generalizing batch with
  | nil => simp
  | cons r rest ih =>
    rw [List.foldl_cons, ih, setResult_eq]
    by_cases accepted : (taking store).result r = true
    · simp [accepted, Batch.withResult]
    · simp [accepted]

theorem batch_stageBlock (detector : Detector) (store : σ) (staged : Staged) (entry : FetchedBlock) :
    (stageBlock detector store staged entry).batch =
      { staged.batch with
        blocks := staged.batch.blocks ++ (taking store).blocks [entry]
        results := staged.batch.results ++ (taking store).results [entry] } := by
  have law := setBlock_eq store staged.batch entry.block
  unfold stageBlock
  by_cases accepted : (taking store).block entry.block = true
  · rw [if_pos accepted] at law
    split
    · next refused =>
      rw [refused] at law
      cases law
    · next batch written =>
      rw [written] at law
      cases law
      simp [stageResults_eq, Taking.blocks, Taking.results, accepted, Batch.withBlock]
  · rw [if_neg accepted] at law
    split
    · simp [Taking.blocks, Taking.results, accepted]
    · next batch written =>
      rw [written] at law
      cases law

theorem batch_stage (detector : Detector) (store : σ) (c : Chunk) :
    (stage detector store c).batch =
      ⟨(taking store).blocks c.entries, (taking store).results c.entries, none⟩ := by
  suffices general : ∀ (entries : List FetchedBlock) (staged : Staged),
      (entries.foldl (stageBlock detector store) staged).batch =
        { staged.batch with
          blocks := staged.batch.blocks ++ (taking store).blocks entries
          results := staged.batch.results ++ (taking store).results entries } by
    simpa [stage, Staged.empty, Batch.empty] using general c.entries .empty
  intro entries
  induction entries with
  | nil =>
    intro staged
    simp [Taking.blocks, Taking.results]
  | cons entry rest ih =>
    intro staged
    have parts := (taking store).blocks_append [entry] rest
    have parts' := (taking store).results_append [entry] rest
    rw [List.singleton_append] at parts parts'
    rw [List.foldl_cons, ih, batch_stageBlock, parts, parts']
    simp only [List.append_assoc]

theorem contents_of_chunk (sound : Sound store) {detector : Detector} {range : HeightRange} {c : Chunk}
    {events : List Event} (committed : (chunk detector store range c).result = .ok (after, events)) :
    Sound after ∧ contents after = (contents store).take (taking store) c.entries ∧
      taking after = taking store := by
  obtain ⟨batch, marked, taken, _⟩ := finish_eq_ok committed
  have staged := Store.Marked.marker_setMarker marked
  rw [batch_stage] at staged
  subst staged
  refine commit_ok sound ?_ ?_ taken
  · intro b member
    obtain ⟨entry, accepted, rfl⟩ := List.mem_map.1 member
    exact (List.mem_filter.1 accepted).2
  · intro r member
    obtain ⟨entry, _, accepted⟩ := List.mem_flatMap.1 member
    exact (List.mem_filter.1 accepted).2

/-- Chunks that hold what a chain has at their heights add what it has at all of these. -/
theorem contents_of_succession {chain : Chain} {outcomes : List (Outcome σ)}
    (succession : Succession (fun range c => c.entries = range.heights.filterMap chain.entry?)
      store outcomes after) (sound : Sound store) :
    Sound after ∧ taking after = taking store ∧
      contents after = (contents store).take (taking store)
        (((committed outcomes).flatMap (·.heights)).filterMap chain.entry?) := by
  induction outcomes generalizing store with
  | nil =>
    cases succession
    exact ⟨sound, rfl, rfl⟩
  | cons outcome rest ih =>
    obtain ⟨⟨detector, c, exactly, same⟩, tail⟩ := succession
    cases result : outcome.result with
    | error e =>
      rw [result] at tail
      obtain ⟨rfl, rfl⟩ := tail
      exact ⟨sound, rfl, by simp [committed, result, Except.isOk, Except.toBool, Contents.take,
        Taking.blocks, Taking.results]⟩
    | ok pair =>
      obtain ⟨next, events⟩ := pair
      rw [result] at tail
      have started : (chunk detector store outcome.range c).result = .ok (next, events) := same ▸ result
      obtain ⟨soundNext, contentsNext, takingNext⟩ := contents_of_chunk sound started
      obtain ⟨soundAfter, takingAfter, contentsAfter⟩ := ih tail soundNext
      refine ⟨soundAfter, takingAfter.trans takingNext, ?_⟩
      rw [contentsAfter, takingNext, contentsNext, committed_cons_ok result, List.flatMap_cons,
        List.filterMap_append, Contents.take_append, exactly]

end Commit

end TokenIndexer
