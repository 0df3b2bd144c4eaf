import TokenIndexer.Proofs.Store.Interchange
import TokenIndexer.Proofs.Store.Layered

/-! What a store in trees of bytes has taken is read back from it. -/

namespace TokenIndexer

theorem of_lastResult? {results : List TxResult} {h : Height} {index : UInt32} {r : TxResult}
    (last : lastResult? results h index = some r) : r ∈ results ∧ r.height = h ∧ r.index = index := by
  have member := List.mem_of_getLast? last
  simpa using member

theorem exists_lastResult? {results : List TxResult} {r : TxResult} (member : r ∈ results) :
    ∃ last, lastResult? results r.height r.index = some last := by
  have present : r ∈ results.filter fun other => other.height = r.height ∧ other.index = r.index := by
    simpa using member
  exact Option.ne_none_iff_exists'.1 fun none => List.ne_nil_of_mem present (List.getLast?_eq_none_iff.1 none)

/-- The results of a height as they were written: the last one under each index. -/
structure LastWritten (written : List TxResult) (h : Height) (results : List TxResult) : Prop where
  ascending : results.Pairwise fun a b => a.index < b.index
  last : ∀ r ∈ results, lastResult? written h r.index = some r
  own : ∀ r ∈ results, r.height = h
  /-- No index is missing and none is added. -/
  indices : ∀ index, index ∈ results.map (·.index) ↔ ∃ r ∈ written, r.height = h ∧ r.index = index

theorem lastWritten_of_listed {written results : List TxResult} {h : Height}
    (listed : Listed (lastResult? written h) results) : LastWritten written h results where
  ascending := listed.ascending
  last r member := (listed.mem_iff r).1 member
  own r member := (of_lastResult? ((listed.mem_iff r).1 member)).2.1
  indices index := by
    rw [List.mem_map]
    constructor
    · rintro ⟨r, member, rfl⟩
      obtain ⟨wrote, height, _⟩ := of_lastResult? ((listed.mem_iff r).1 member)
      exact ⟨r, wrote, height, rfl⟩
    · rintro ⟨r, wrote, rfl, rfl⟩
      obtain ⟨last, found⟩ := exists_lastResult? wrote
      have same := (of_lastResult? found).2.2
      exact ⟨last, (listed.mem_iff last).2 (by rw [same, found]), same⟩

namespace KeyedStore

open Session

variable {store after : KeyedStore} {batches : List Batch} {batch : Batch}

/-! ### What is in a batch has a record -/

theorem recordable_written (id : Nat) (recordable : batch.Recordable) (command : Command) :
    (written id batch command).Recordable := by
  cases command with
  | setBlock n b =>
    rw [written]
    split
    · next fits => exact recordable.withBlock fits.2
    · exact recordable
  | setResult n r =>
    rw [written]
    split
    · next fits => exact recordable.withResult fits.2
    · exact recordable
  | setMarker n h =>
    rw [written]
    split
    · exact ⟨recordable.blocks, recordable.results⟩
    · exact recordable
  | begin => exact recordable
  | commit n => exact recordable
  | discard n => exact recordable

theorem recordable_foldl (id : Nat) (commands : List Command) :
    (commands.foldl (written id) .empty).Recordable := by
  induction commands using List.reverseRecOn with
  | nil => exact Batch.recordable_empty
  | append_singleton commands command ih =>
    rw [List.foldl_append]
    exact recordable_written id ih command

theorem recordable_of_taken? {commands : List Command} {command : Command}
    (took : ((opened store).run commands).taken? command = some batch) : batch.Recordable := by
  cases command with
  | commit id =>
    obtain ⟨_, later, _, _, rfl⟩ := written_of_open? (Option.ite_none_right_eq_some.1 took).2
    exact recordable_foldl id later
  | _ => cases took

/-! ### What a store holds of the batches that it took -/

structure Holds (batches : List Batch) (store : KeyedStore) : Prop where
  sound : store.Sound
  contents : store.contents =
    Contents.empty.write (batches.flatMap (·.blocks)) (batches.flatMap (·.results))
  latest : store.latest = .ok (batches.filterMap (·.marker)).getLast?

theorem holds_empty : Holds [] empty := ⟨blank_empty.sound, rfl, rfl⟩

theorem Holds.commit (holds : Holds batches store) (recordable : batch.Recordable)
    (taken : store.commit batch = .ok after) : Holds (batches ++ [batch]) after := by
  have before : Store.Lawful.Sound store := holds.sound
  obtain ⟨sound, written, _⟩ := Store.Lawful.commit_ok before recordable.blocks recordable.results taken
  have wrote : after.contents = store.contents.write batch.blocks batch.results := written
  refine ⟨sound, ?_, ?_⟩
  · rw [wrote, holds.contents, ← Contents.write_append]
    simp
  · obtain ⟨_, rfl⟩ := commit_eq_ok_iff.1 taken
    rw [List.filterMap_append]
    cases marked : batch.marker with
    | none =>
      have same : (store.holding batch store.marks).latest = store.latest := rfl
      simp [marked, same, holds.latest]
    | some new => simp [marked, latest_holding]

theorem holds_run (commands : List Command) :
    Holds ((opened empty).taken commands) ((opened empty).run commands).store := by
  induction commands using List.reverseRecOn with
  | nil => exact holds_empty
  | append_singleton commands command ih =>
    rw [taken_concat, run_concat]
    cases took : ((opened empty).run commands).taken? command with
    | none =>
      rw [store_step_of_none took, Option.toList_none, List.append_nil]
      exact ih
    | some batch => exact ih.commit (recordable_of_taken? took) (eq_commit_of_taken? took).1

structure ReadBack (batches : List Batch) (store : KeyedStore) : Prop where
  latest : store.latest = .ok (batches.filterMap (·.marker)).getLast?
  block : ∀ h, store.block h = .ok (lastBlock? (batches.flatMap (·.blocks)) h)
  result : ∀ h index, store.result h index = .ok (lastResult? (batches.flatMap (·.results)) h index)
  results : ∀ h, ∃ results, store.resultsAt h = .ok results ∧
    LastWritten (batches.flatMap (·.results)) h results ∧
      ∀ index, store.result h index = .ok (results.find? fun r => r.index = index)

/-- After any history of an empty store, whichever batches were open together, refused or given up. -/
theorem readBack_run (commands : List Command) :
    ReadBack ((opened empty).taken commands) ((opened empty).run commands).store := by
  have holds := holds_run commands
  generalize (opened empty).taken commands = batches at holds ⊢
  generalize ((opened empty).run commands).store = store at holds ⊢
  have blocks (h : Height) : store.contents.block h = lastBlock? (batches.flatMap (·.blocks)) h := by
    rw [holds.contents, Contents.block_write_eq]
    exact Option.or_none
  have row (h : Height) : store.contents.result h = lastResult? (batches.flatMap (·.results)) h := by
    funext index
    rw [holds.contents, Contents.result_write_eq]
    exact Option.or_none
  have result (h : Height) (index : UInt32) :
      store.result h index = .ok (lastResult? (batches.flatMap (·.results)) h index) := by
    rw [← row h]
    exact get_eq TxResult.faithful_codec holds.sound.results _
  refine { latest := holds.latest, block := fun h => ?_, result := result, results := fun h => ?_ }
  · rw [← blocks h]
    exact get_eq Block.faithful_codec holds.sound.blocks _
  · obtain ⟨results, read, listed⟩ := listed_resultsAt holds.sound h
    rw [row h] at listed
    refine ⟨results, read, lastWritten_of_listed listed, fun index => ?_⟩
    rw [result h index, listed.find?_eq fun index r held => (of_lastResult? held).2.2]

/-- The keys of two heights share all bytes but the last, and one result is written twice. -/
example :
    let result (h : Height) (index : UInt32) (data : Bytes) : TxResult :=
      ⟨h, index, ⟨[]⟩, ⟨none, data, "", "", 0, 0⟩⟩
    let commands : List Command := [.begin, .setResult 0 (result 256 256 []), .setResult 0 (result 257 0 []),
      .setResult 0 (result 256 1 [1]), .commit 0, .begin, .setResult 1 (result 256 256 [2]), .commit 1]
    ((opened empty).run commands).store.resultsAt 256 = .ok [result 256 1 [1], result 256 256 [2]] := by
  decide +kernel

end KeyedStore

end TokenIndexer
