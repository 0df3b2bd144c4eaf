import TokenIndexer.Proofs.Store.Keeping
import TokenIndexer.Proofs.Store.Keyed
import TokenIndexer.Proofs.Store.Memory

/-! A batch lies over what was in the store before, also of a store that others have written to. -/

namespace TokenIndexer

def lastBlock? (blocks : List Block) (h : Height) : Option Block :=
  (blocks.filter fun b => b.height = h).getLast?

def lastResult? (results : List TxResult) (h : Height) (index : UInt32) : Option TxResult :=
  (results.filter fun r => r.height = h ∧ r.index = index).getLast?

/-- What readers see where something may have been written over what was there. -/
def overlay {α : Type} (written : Option α) (before : Except StoreError (Option α)) :
    Except StoreError (Option α) :=
  match written with
  | some value => .ok (some value)
  | none => before

theorem overlay_or {α : Type} (late early : Option α) (before : Except StoreError (Option α)) :
    overlay (late.or early) before = overlay late (overlay early before) := by
  cases late <;> rfl

theorem overlay_ok {α : Type} (written before : Option α) :
    overlay written (.ok before) = .ok (written.or before) := by
  cases written <;> rfl

/-- A store whose readers see the batches that it takes over whatever was in it. -/
class Store.Layered (σ : Type) [Store σ] extends Store.Keeping σ where
  block_commit {store after : σ} {batch : Batch} {marker : Height}
    (assembled : Store.Assembled store batch)
    (taken : Store.commit store (batch.withMarker marker) = .ok after) (h : Height) :
    Store.block after h = overlay (lastBlock? batch.blocks h) (Store.block store h)
  result_commit {store after : σ} {batch : Batch} {marker : Height}
    (assembled : Store.Assembled store batch)
    (taken : Store.commit store (batch.withMarker marker) = .ok after) (h : Height) (index : UInt32) :
    Store.result after h index = overlay (lastResult? batch.results h index) (Store.result store h index)

instance {σ : Type} [Store σ] [Store.Layered σ] : Store.Layered (Failing σ) where
  block_commit assembled taken h := by
    have inner := Failing.assembled_inner assembled
    have read := Store.Layered.block_commit inner (Failing.commit_eq_ok taken) h
    exact read
  result_commit assembled taken h index := by
    have inner := Failing.assembled_inner assembled
    have read := Store.Layered.result_commit inner (Failing.commit_eq_ok taken) h index
    exact read

theorem getLast?_filter_cons {α : Type} (p : α → Bool) (a : α) (rest : List α) :
    ((a :: rest).filter p).getLast? = (rest.filter p).getLast?.or (if p a then some a else none) := by
  cases own : p a with
  | false => simp [own]
  | true => cases last : (rest.filter p).getLast? <;> simp [own, List.getLast?_cons, last]

namespace KeyedStore

theorem get_insertAll {α : Type} {codec : Codec α} (key : α → Bytes) (faithful : codec.Faithful)
    {values : List α} (fit : ∀ value ∈ values, (codec.write value).isSome) (k : Bytes)
    (tree : Ordered Bytes Bytes) :
    get (decode codec) k (insertAll codec key values tree) =
      overlay (values.filter fun value => key value = k).getLast? (get (decode codec) k tree) := by
  induction values generalizing tree with
  | nil => rfl
  | cons value rest ih =>
    obtain ⟨bytes, written⟩ := Option.isSome_iff_exists.1 (fit value List.mem_cons_self)
    have read : decode codec bytes = .ok value := by
      rw [decode, Codec.decode?_of_write faithful written]
    have first : get (decode codec) k (Ordered.insert (key value) bytes tree) =
        overlay (if key value = k then some value else none) (get (decode codec) k tree) := by
      rw [get, Ordered.find?_insert]
      by_cases same : key value = k
      · rw [if_pos same.symm, if_pos same]
        change (decode codec bytes).map some = _
        rw [read]
        rfl
      · rw [if_neg (Ne.symm same), if_neg same]
        rfl
    rw [insertAll_cons_some written, ih (fun v member => fit v (List.mem_cons_of_mem _ member)), first,
      getLast?_filter_cons, overlay_or]
    simp only [decide_eq_true_eq]

instance : Store.Layered KeyedStore where
  block_commit {store _ batch _} assembled taken h := by
    obtain ⟨marks, rfl, _⟩ := commit_eq_ok taken
    have fit : ∀ b ∈ batch.blocks, (Block.codec.write b).isSome := (accepted_of_assembled assembled).1
    have own (b : Block) : heightKey b.height = heightKey h ↔ b.height = h := heightKey_injective.eq_iff
    have read := get_insertAll (fun b => heightKey b.height) Block.faithful_codec fit (heightKey h)
      store.blocks
    simp only [own] at read
    exact read
  result_commit {store _ batch _} assembled taken h index := by
    obtain ⟨marks, rfl, _⟩ := commit_eq_ok taken
    have fit : ∀ r ∈ batch.results, (TxResult.codec.write r).isSome := (accepted_of_assembled assembled).2
    have own (r : TxResult) :
        resultKey r.height r.index = resultKey h index ↔ r.height = h ∧ r.index = index := by
      constructor
      · exact resultKey_inj
      · rintro ⟨rfl, rfl⟩
        rfl
    have read := get_insertAll (fun r => resultKey r.height r.index) TxResult.faithful_codec fit
      (resultKey h index) store.results
    simp only [own] at read
    exact read

end KeyedStore

namespace Contents

theorem block_write_eq (c : Contents) (blocks : List Block) (results : List TxResult) (h : Height) :
    (c.write blocks results).block h = (lastBlock? blocks h).or (c.block h) := by
  change blocks.foldl putBlock c.block h = _
  generalize c.block = rows
  induction blocks generalizing rows with
  | nil => rfl
  | cons b rest ih =>
    rw [List.foldl_cons, ih, lastBlock?, lastBlock?, getLast?_filter_cons, Option.or_assoc, putBlock,
      Function.update_apply]
    by_cases own : b.height = h
    · simp [own]
    · simp [own, Ne.symm own]

theorem result_write_eq (c : Contents) (blocks : List Block) (results : List TxResult) (h : Height)
    (index : UInt32) :
    (c.write blocks results).result h index = (lastResult? results h index).or (c.result h index) := by
  change results.foldl putResult c.result h index = _
  generalize c.result = rows
  induction results generalizing rows with
  | nil => rfl
  | cons r rest ih =>
    rw [List.foldl_cons, ih, lastResult?, lastResult?, getLast?_filter_cons, Option.or_assoc, putResult,
      Function.update_apply]
    by_cases height : r.height = h
    · by_cases own : r.index = index
      · simp [height, own]
      · simp [height, own, Ne.symm own]
    · simp [height, Ne.symm height]

end Contents

instance : Store.Layered MemoryStore where
  block_commit {store after batch marker} _ taken h := by
    have wrote : after.contents = store.contents.write batch.blocks batch.results := by
      rw [MemoryStore.commit_eq_ok taken]
      exact (MemoryStore.wrote_withBatch store (batch.withMarker marker)).contents
    change .ok (after.contents.block h) = overlay _ (.ok (store.contents.block h))
    rw [wrote, Contents.block_write_eq, overlay_ok]
  result_commit {store after batch marker} _ taken h index := by
    have wrote : after.contents = store.contents.write batch.blocks batch.results := by
      rw [MemoryStore.commit_eq_ok taken]
      exact (MemoryStore.wrote_withBatch store (batch.withMarker marker)).contents
    change .ok (after.contents.result h index) = overlay _ (.ok (store.contents.result h index))
    rw [wrote, Contents.result_write_eq, overlay_ok]

end TokenIndexer
