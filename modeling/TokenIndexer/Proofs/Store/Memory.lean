import TokenIndexer.Proofs.Ordered
import TokenIndexer.Proofs.Store.Laws
import TokenIndexer.Store.Memory

namespace TokenIndexer.MemoryStore

def Sound (store : MemoryStore) : Prop :=
  ∀ h, Ordered.Sorted (store.rowOf h) ∧ ∀ entry ∈ store.rowOf h, entry.2.index = entry.1

def contents (store : MemoryStore) : Contents :=
  ⟨fun h => Ordered.find? h store.blocks, fun h index => Ordered.find? index (store.rowOf h)⟩

theorem rowOf_withResult (store : MemoryStore) (r : TxResult) (h : Height) :
    (store.withResult r).rowOf h =
      if h = r.height then Ordered.insert r.index r (store.rowOf r.height) else store.rowOf h := by
  simp only [withResult, rowOf, Ordered.find?_insert]
  split <;> rfl

theorem sound_withResult {store : MemoryStore} (sound : store.Sound) (r : TxResult) :
    (store.withResult r).Sound := by
  intro h
  rw [rowOf_withResult]
  split
  · obtain ⟨sorted, indexed⟩ := sound r.height
    refine ⟨Ordered.sorted_insert sorted _ _, fun entry member => ?_⟩
    rcases Ordered.mem_insert member with rfl | old
    · rfl
    · exact indexed entry old
  · exact sound h

theorem contents_withBlock (store : MemoryStore) (b : Block) :
    (store.withBlock b).contents = store.contents.write [b] [] := by
  simp only [contents, Contents.write, List.foldl_cons, List.foldl_nil, Contents.mk.injEq]
  refine ⟨?_, rfl⟩
  funext h
  simp [withBlock, Ordered.find?_insert, Contents.putBlock, Function.update_apply]

theorem contents_withResult (store : MemoryStore) (r : TxResult) :
    (store.withResult r).contents = store.contents.write [] [r] := by
  simp only [contents, Contents.write, List.foldl_cons, List.foldl_nil, Contents.mk.injEq]
  refine ⟨rfl, ?_⟩
  funext h index
  rw [rowOf_withResult, Contents.putResult, Function.update_apply]
  split
  · rw [Ordered.find?_insert, Function.update_apply]
  · rfl

structure Wrote (store : MemoryStore) (blocks : List Block) (results : List TxResult)
    (after : MemoryStore) : Prop where
  sound : store.Sound → after.Sound
  contents : after.contents = store.contents.write blocks results
  faults : after.faults = store.faults

theorem Wrote.trans {store middle after : MemoryStore} {blocks blocks' : List Block}
    {results results' : List TxResult} (first : Wrote store blocks results middle)
    (second : Wrote middle blocks' results' after) :
    Wrote store (blocks ++ blocks') (results ++ results') after where
  sound := fun sound => second.sound (first.sound sound)
  contents := by rw [second.contents, first.contents, Contents.write_append]
  faults := second.faults.trans first.faults

theorem wrote_withBlock (store : MemoryStore) (b : Block) : Wrote store [b] [] (store.withBlock b) :=
  ⟨id, contents_withBlock store b, rfl⟩

theorem wrote_withResult (store : MemoryStore) (r : TxResult) :
    Wrote store [] [r] (store.withResult r) :=
  ⟨fun sound => sound_withResult sound r, contents_withResult store r, rfl⟩

theorem wrote_withBlocks (blocks : List Block) (store : MemoryStore) :
    Wrote store blocks [] (blocks.foldl withBlock store) := by
  induction blocks generalizing store with
  | nil => exact ⟨id, rfl, rfl⟩
  | cons b rest ih => exact (wrote_withBlock store b).trans (ih _)

theorem wrote_withResults (results : List TxResult) (store : MemoryStore) :
    Wrote store [] results (results.foldl withResult store) := by
  induction results generalizing store with
  | nil => exact ⟨id, rfl, rfl⟩
  | cons r rest ih => exact (wrote_withResult store r).trans (ih _)

theorem wrote_withBatch (store : MemoryStore) (batch : Batch) :
    Wrote store batch.blocks batch.results (store.withBatch batch) := by
  have both := (wrote_withBlocks batch.blocks store).trans (wrote_withResults batch.results _)
  rw [List.append_nil, List.nil_append] at both
  unfold withBatch
  cases batch.marker with
  | none => exact ⟨both.sound, both.contents, both.faults⟩
  | some h => exact ⟨both.sound, both.contents, both.faults⟩

theorem commit_eq_ok {store after : MemoryStore} {batch : Batch}
    (taken : Store.commit store batch = .ok after) : after = store.withBatch batch := by
  change (if store.faults.commit then _ else _) = _ at taken
  split at taken
  · cases taken
  · cases taken
    rfl

instance : Store.Lawful MemoryStore where
  marker_setMarker {store batch marked h} done := by
    change (if store.faults.marker then _ else _) = _ at done
    split at done
    · cases done
    · cases done
      rfl
  latest_commit {store after batch h latest} read taken marker := by
    rw [commit_eq_ok taken]
    change (if store.faults.reads then _ else _) = _ at read
    change (if (store.withBatch batch).faults.reads then _ else _) = _
    rw [(wrote_withBatch store batch).faults]
    split at read
    · cases read
    · next readable =>
      rw [if_neg readable]
      simp [withBatch, marker, withMarker]
  Sound := Sound
  contents := contents
  taking store := ⟨fun b => b.height ∉ store.faults.blocks, fun _ => true⟩
  block_eq _ _ := rfl
  result_eq _ _ _ := rfl
  results_eq {store} sound h := by
    obtain ⟨sorted, indexed⟩ := sound h
    refine ⟨(store.rowOf h).map (·.2), rfl, ?_, ?_⟩
    · refine List.pairwise_map.2 (List.Pairwise.imp_of_mem ?_ sorted)
      intro a b one other below
      rw [indexed a one, indexed b other]
      exact below
    · intro r
      change _ ↔ Ordered.find? r.index (store.rowOf h) = some r
      rw [Ordered.find?_eq_some_iff sorted, List.mem_map]
      constructor
      · rintro ⟨entry, member, rfl⟩
        rw [indexed entry member]
        exact member
      · intro member
        exact ⟨_, member, rfl⟩
  setBlock_eq store batch b := by
    change (if b.height ∈ store.faults.blocks then _ else _ : Except StoreError Batch).toOption = _
    by_cases refused : b.height ∈ store.faults.blocks <;> simp [refused, Except.toOption]
  setResult_eq _ _ _ := rfl
  commit_ok {store after batch} sound _ _ taken := by
    have wrote := wrote_withBatch store batch
    rw [← commit_eq_ok taken] at wrote
    exact ⟨wrote.sound sound, wrote.contents, by rw [wrote.faults]⟩

theorem blank_empty : Store.Blank empty where
  sound := fun _ => ⟨List.Pairwise.nil, fun _ member => (nomatch member)⟩
  contents := rfl
  latest := rfl

end TokenIndexer.MemoryStore
