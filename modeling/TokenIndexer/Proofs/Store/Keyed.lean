import TokenIndexer.Proofs.Bytes
import TokenIndexer.Proofs.Ordered
import TokenIndexer.Proofs.Record
import TokenIndexer.Proofs.Store.Laws
import TokenIndexer.Store.Keyed

namespace TokenIndexer

namespace KeyedStore

theorem height_lt_count (h : Height) : h.toNat < Word.count 8 := h.toNat_lt

theorem index_lt_count (i : UInt32) : i.toNat < Word.count 4 := i.toNat_lt

theorem heightKey_injective : Function.Injective heightKey := fun a b same =>
  UInt64.toNat_inj.1 (Word.bigEndian_inj (height_lt_count a) (height_lt_count b) same)

theorem heightOfBytes_heightKey (h : Height) : heightOfBytes (heightKey h) = .ok h := by
  rw [heightOfBytes, heightKey, if_pos (Word.length_bigEndian 8 _), Word.ofBigEndian_bigEndian,
    Nat.mod_eq_of_lt (height_lt_count h), UInt64.ofNat_toNat]

theorem resultKey_inj {h h' : Height} {i j : UInt32} (same : resultKey h i = resultKey h' j) :
    h = h' ∧ i = j := by
  obtain ⟨heights, indices⟩ := List.append_inj same (by simp [heightKey])
  refine ⟨heightKey_injective heights, ?_⟩
  exact UInt32.toNat_inj.1 (Word.bigEndian_inj (index_lt_count i) (index_lt_count j) indices)

theorem resultKey_lt {h : Height} {i j : UInt32} (below : i < j) : resultKey h i < resultKey h j :=
  List.append_left_lt (Word.bigEndian_lt (UInt32.lt_iff_toNat_lt.1 below) (index_lt_count j))

theorem lt_of_resultKey_lt {h : Height} {i j : UInt32} (below : resultKey h i < resultKey h j) :
    i < j := by
  by_cases less : i < j
  · exact less
  · exfalso
    by_cases same : i = j
    · rw [same] at below
      exact List.lt_irrefl _ below
    · have above : j < i := UInt32.lt_of_le_of_ne (UInt32.not_lt.1 less) (Ne.symm same)
      exact List.lt_asymm below (resultKey_lt above)

/-- The keys that start with a height's are those of its results. -/
theorem isPrefixOf_resultKey {h h' : Height} {i : UInt32} :
    (heightKey h).isPrefixOf (resultKey h' i) = true ↔ h = h' := by
  rw [List.isPrefixOf_iff_prefix, resultKey]
  constructor
  · rintro ⟨rest, whole⟩
    exact heightKey_injective (List.append_inj whole (by simp [heightKey])).1
  · rintro rfl
    exact List.prefix_append _ _

section Tree

variable {α : Type} {codec : Codec α} {key : α → Bytes} {tree : Ordered Bytes Bytes}

/-- Each entry of a tree is the record of a value under its key. -/
def Records (codec : Codec α) (key : α → Bytes) (tree : Ordered Bytes Bytes) : Prop :=
  ∀ entry ∈ tree, ∃ value, codec.write value = some entry.2 ∧ entry.1 = key value

def view (codec : Codec α) (tree : Ordered Bytes Bytes) (k : Bytes) : Option α :=
  (Ordered.find? k tree).bind codec.decode?

theorem get_eq (faithful : codec.Faithful) (records : Records codec key tree) (k : Bytes) :
    get (decode codec) k tree = .ok (view codec tree k) := by
  unfold get view
  cases found : Ordered.find? k tree with
  | none => rfl
  | some bytes =>
    obtain ⟨value, written, _⟩ := records _ (Ordered.mem_of_find? found)
    have read := Codec.decode?_of_write faithful written
    simp [decode, read, Except.map]

theorem insertAll_cons_some {value : α} {bytes : Bytes} (written : codec.write value = some bytes)
    (rest : List α) (tree : Ordered Bytes Bytes) :
    insertAll codec key (value :: rest) tree =
      insertAll codec key rest (Ordered.insert (key value) bytes tree) := by
  simp [insertAll, written]

theorem insertAll_cons_none {value : α} (refused : codec.write value = none) (rest : List α)
    (tree : Ordered Bytes Bytes) :
    insertAll codec key (value :: rest) tree = insertAll codec key rest tree := by
  simp [insertAll, refused]

theorem records_insertAll (records : Records codec key tree) (values : List α) :
    Records codec key (insertAll codec key values tree) := by
  induction values generalizing tree with
  | nil => exact records
  | cons value rest ih =>
    cases written : codec.write value with
    | none =>
      rw [insertAll_cons_none written]
      exact ih records
    | some bytes =>
      rw [insertAll_cons_some written]
      refine ih fun entry member => ?_
      rcases Ordered.mem_insert member with rfl | old
      · exact ⟨value, written, rfl⟩
      · exact records entry old

theorem sorted_insertAll (sorted : Ordered.Sorted tree) (values : List α) :
    Ordered.Sorted (insertAll codec key values tree) := by
  induction values generalizing tree with
  | nil => exact sorted
  | cons value rest ih =>
    cases written : codec.write value with
    | none =>
      rw [insertAll_cons_none written]
      exact ih sorted
    | some bytes =>
      rw [insertAll_cons_some written]
      exact ih (Ordered.sorted_insert sorted _ _)

theorem view_insertAll (faithful : codec.Faithful) {values : List α}
    (fit : ∀ value ∈ values, (codec.write value).isSome) :
    view codec (insertAll codec key values tree) =
      values.foldl (fun row value => Function.update row (key value) (some value)) (view codec tree) := by
  induction values generalizing tree with
  | nil => rfl
  | cons value rest ih =>
    obtain ⟨bytes, written⟩ := Option.isSome_iff_exists.1 (fit value List.mem_cons_self)
    have step : view codec (Ordered.insert (key value) bytes tree) =
        Function.update (view codec tree) (key value) (some value) := by
      funext k
      rw [view, Ordered.find?_insert, Function.update_apply]
      split
      · exact Codec.decode?_of_write faithful written
      · rfl
    rw [insertAll_cons_some written, ih fun v member => fit v (List.mem_cons_of_mem _ member), step]
    rfl

def values (codec : Codec α) (entries : List (Bytes × Bytes)) : List α :=
  entries.filterMap fun entry => codec.decode? entry.2

theorem mapM_decode (faithful : codec.Faithful) {entries : List (Bytes × Bytes)}
    (records : Records codec key entries) :
    entries.mapM (fun entry => decode codec entry.2) = .ok (values codec entries) ∧
      (values codec entries).map key = entries.map (·.1) := by
  induction entries with
  | nil => exact ⟨rfl, rfl⟩
  | cons entry rest ih =>
    obtain ⟨value, written, same⟩ := records entry List.mem_cons_self
    obtain ⟨read, keys⟩ := ih fun e member => records e (List.mem_cons_of_mem _ member)
    have first : codec.decode? entry.2 = some value := Codec.decode?_of_write faithful written
    have more : values codec (entry :: rest) = value :: values codec rest :=
      List.filterMap_cons_some first
    rw [more, List.map_cons, List.map_cons, keys, same, List.mapM_cons, decode, first, read]
    exact ⟨rfl, rfl⟩

end Tree

theorem moveLatest_eq_ok {new : Height} {marks after : Ordered Bytes Bytes}
    (moved : moveLatest new marks = .ok after) :
    after = Ordered.insert latestKey (heightKey new) marks := by
  unfold moveLatest at moved
  cases found : get heightOfBytes latestKey marks with
  | error e =>
    rw [found] at moved
    cases moved
  | ok current =>
    rw [found] at moved
    cases current with
    | none =>
      cases moved
      rfl
    | some height =>
      simp only [bind, Except.bind, pure, Except.pure] at moved
      split at moved
      · cases moved
      · cases moved
        rfl

theorem commit_eq_ok {store after : KeyedStore} {batch : Batch}
    (taken : store.commit batch = .ok after) :
    ∃ marks, after = ⟨insertAll Block.codec (fun b => heightKey b.height) batch.blocks store.blocks,
      insertAll TxResult.codec (fun r => resultKey r.height r.index) batch.results store.results, marks⟩ ∧
      ∀ new, batch.marker = some new → marks = Ordered.insert latestKey (heightKey new) store.marks := by
  unfold commit at taken
  cases marker : batch.marker with
  | none =>
    simp only [marker, bind, Except.bind] at taken
    cases taken
    exact ⟨_, rfl, fun _ same => (nomatch same)⟩
  | some new =>
    simp only [marker, bind, Except.bind] at taken
    cases moved : moveLatest new store.marks with
    | error e =>
      rw [moved] at taken
      cases taken
    | ok marks =>
      rw [moved] at taken
      cases taken
      refine ⟨marks, rfl, fun other same => ?_⟩
      rw [← Option.some.inj same]
      exact moveLatest_eq_ok moved

/-- The trees hold records of blocks and results under their keys, the results in order. -/
structure Sound (store : KeyedStore) : Prop where
  blocks : Records Block.codec (fun b => heightKey b.height) store.blocks
  results : Records TxResult.codec (fun r => resultKey r.height r.index) store.results
  sorted : Ordered.Sorted store.results

def contents (store : KeyedStore) : Contents :=
  ⟨fun h => view Block.codec store.blocks (heightKey h),
    fun h index => view TxResult.codec store.results (resultKey h index)⟩

theorem listed_resultsAt {store : KeyedStore} (sound : store.Sound) (h : Height) :
    ∃ results, store.resultsAt h = .ok results ∧ Listed (store.contents.result h) results := by
  have records : Records TxResult.codec (fun r => resultKey r.height r.index)
      (store.results.filter fun entry => (heightKey h).isPrefixOf entry.1) := fun entry member =>
    sound.results entry (List.mem_of_mem_filter member)
  obtain ⟨read, keys⟩ := mapM_decode TxResult.faithful_codec records
  have found : ∀ r, r ∈ values TxResult.codec
      (store.results.filter fun entry => (heightKey h).isPrefixOf entry.1) ↔
      r.height = h ∧ view TxResult.codec store.results (resultKey h r.index) = some r := by
    intro r
    rw [values, List.mem_filterMap]
    constructor
    · rintro ⟨entry, member, come⟩
      obtain ⟨present, own⟩ := List.mem_filter.1 member
      obtain ⟨value, written, same⟩ := sound.results entry present
      rw [Codec.decode?_of_write TxResult.faithful_codec written, Option.some.injEq] at come
      subst come
      have under : entry.1 = resultKey value.height value.index := same
      rw [under, isPrefixOf_resultKey] at own
      subst own
      have looked : Ordered.find? entry.1 store.results = some entry.2 :=
        (Ordered.find?_eq_some_iff sound.sorted).2 present
      refine ⟨rfl, ?_⟩
      rw [view, ← under, looked, Option.bind_some,
        Codec.decode?_of_write TxResult.faithful_codec written]
    · rintro ⟨_, seen⟩
      obtain ⟨bytes, looked, come⟩ := Option.bind_eq_some_iff.1 seen
      refine ⟨_, List.mem_filter.2 ⟨Ordered.mem_of_find? looked, ?_⟩, come⟩
      exact isPrefixOf_resultKey.2 rfl
  refine ⟨_, read, ?_, fun r => ?_⟩
  · have ascending := (sound.sorted.filter fun entry => (heightKey h).isPrefixOf entry.1)
    have byKey := List.pairwise_map.2 ascending
    rw [← keys] at byKey
    refine (List.pairwise_map.1 byKey).imp_of_mem fun {a b} one other below => ?_
    rw [((found a).1 one).1, ((found b).1 other).1] at below
    exact lt_of_resultKey_lt below
  · rw [found]
    refine and_iff_right_of_imp fun seen => ?_
    obtain ⟨bytes, looked, come⟩ := Option.bind_eq_some_iff.1 seen
    obtain ⟨value, written, same⟩ := sound.results _ (Ordered.mem_of_find? looked)
    rw [Codec.decode?_of_write TxResult.faithful_codec written, Option.some.injEq] at come
    rw [← come]
    exact (resultKey_inj same).1.symm

theorem foldl_update_heightKey (blocks : List Block) (rows : Bytes → Option Block) :
    (fun h => blocks.foldl (fun row b => Function.update row (heightKey b.height) (some b)) rows
      (heightKey h)) = blocks.foldl Contents.putBlock fun h => rows (heightKey h) := by
  induction blocks generalizing rows with
  | nil => rfl
  | cons b rest ih =>
    rw [List.foldl_cons, List.foldl_cons, ih]
    congr 1
    exact Function.update_comp_eq_of_injective rows heightKey_injective b.height (some b)

theorem foldl_update_resultKey (results : List TxResult) (rows : Bytes → Option TxResult) :
    (fun h i => results.foldl
      (fun row r => Function.update row (resultKey r.height r.index) (some r)) rows (resultKey h i)) =
        results.foldl Contents.putResult fun h i => rows (resultKey h i) := by
  induction results generalizing rows with
  | nil => rfl
  | cons r rest ih =>
    rw [List.foldl_cons, List.foldl_cons, ih]
    congr 1
    funext h i
    rw [Contents.putResult, Function.update_apply]
    by_cases height : h = r.height
    · subst height
      rw [Function.update_apply]
      by_cases index : i = r.index
      · simp [index]
      · have differs : resultKey r.height i ≠ resultKey r.height r.index := fun same =>
          index (resultKey_inj same).2
        simp [index, differs]
    · have differs : resultKey h i ≠ resultKey r.height r.index := fun same =>
        height (resultKey_inj same).1
      rw [if_neg differs, Function.update_of_ne height]

theorem encode_toOption {α β : Type} (codec : Codec α) (value : α) (b : β) :
    ((encode codec value).map fun _ => b).toOption =
      if (codec.write value).isSome then some b else none := by
  unfold encode
  cases codec.write value <;> rfl

instance : Store.Lawful KeyedStore where
  marker_setMarker done := by
    cases done
    rfl
  latest_commit {store after batch h latest} _ taken marker := by
    obtain ⟨marks, rfl, moved⟩ := commit_eq_ok taken
    change get heightOfBytes latestKey marks = _
    rw [moved h marker, get, Ordered.find?_insert, if_pos rfl]
    simp only [heightOfBytes_heightKey, Except.map]
  Sound := Sound
  contents := contents
  taking _ := ⟨fun b => (Block.codec.write b).isSome, fun r => (TxResult.codec.write r).isSome⟩
  block_eq sound h := get_eq Block.faithful_codec sound.blocks _
  result_eq sound h index := get_eq TxResult.faithful_codec sound.results _
  results_eq := listed_resultsAt
  setBlock_eq _ batch b := encode_toOption Block.codec b _
  setResult_eq _ batch r := encode_toOption TxResult.codec r _
  commit_ok {store after batch} sound blocks results taken := by
    obtain ⟨marks, rfl, _⟩ := commit_eq_ok taken
    refine ⟨⟨records_insertAll sound.blocks _, records_insertAll sound.results _,
      sorted_insertAll sound.sorted _⟩, ?_, rfl⟩
    simp only [contents, Contents.write, Contents.mk.injEq]
    rw [view_insertAll Block.faithful_codec blocks, view_insertAll TxResult.faithful_codec results]
    exact ⟨foldl_update_heightKey _ _, foldl_update_resultKey _ _⟩

theorem blank_empty : Store.Blank empty where
  sound := ⟨fun _ member => (nomatch member), fun _ member => (nomatch member), List.Pairwise.nil⟩
  contents := rfl
  latest := rfl

end KeyedStore

end TokenIndexer
