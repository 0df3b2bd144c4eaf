import Mathlib.Data.List.Sort
import Mathlib.Logic.Function.Basic
import TokenIndexer.Store

/-! What a store promises its readers. -/

namespace TokenIndexer

class Store.Marked (σ : Type) [Store σ] : Prop where
  marker_setMarker {store : σ} {batch marked : Batch} {h : Height} :
    Store.setMarker store batch h = .ok marked → marked = batch.withMarker h
  latest_commit {store after : σ} {batch : Batch} {h : Height} {latest : Option Height} :
    Store.latest store = .ok latest → Store.commit store batch = .ok after →
      batch.marker = some h → Store.latest after = .ok (some h)

/-- What readers see of a store, the latest height apart. -/
structure Contents where
  block : Height → Option Block
  result : Height → UInt32 → Option TxResult

namespace Contents

def empty : Contents := ⟨fun _ => none, fun _ _ => none⟩

def putBlock (blocks : Height → Option Block) (b : Block) : Height → Option Block :=
  Function.update blocks b.height (some b)

def putResult (results : Height → UInt32 → Option TxResult) (r : TxResult) :
    Height → UInt32 → Option TxResult :=
  Function.update results r.height (Function.update (results r.height) r.index (some r))

def write (c : Contents) (blocks : List Block) (results : List TxResult) : Contents :=
  ⟨blocks.foldl putBlock c.block, results.foldl putResult c.result⟩

@[simp] theorem write_nil (c : Contents) : c.write [] [] = c := rfl

theorem write_append (c : Contents) (blocks blocks' : List Block) (results results' : List TxResult) :
    c.write (blocks ++ blocks') (results ++ results') = (c.write blocks results).write blocks' results' := by
  simp [write]

theorem block_write_of_forall_ne {h : Height} {blocks : List Block} (others : ∀ b ∈ blocks, b.height ≠ h)
    (c : Contents) (results : List TxResult) : (c.write blocks results).block h = c.block h := by
  change blocks.foldl putBlock c.block h = c.block h
  generalize c.block = rows
  induction blocks generalizing rows with
  | nil => rfl
  | cons b rest ih =>
    rw [List.foldl_cons, ih fun b' member => others b' (List.mem_cons_of_mem _ member)]
    exact Function.update_of_ne (others b List.mem_cons_self).symm _ _

theorem result_write_of_forall_ne {h : Height} {results : List TxResult}
    (others : ∀ r ∈ results, r.height ≠ h) (c : Contents) (blocks : List Block) :
    (c.write blocks results).result h = c.result h := by
  change results.foldl putResult c.result h = c.result h
  generalize c.result = rows
  induction results generalizing rows with
  | nil => rfl
  | cons r rest ih =>
    rw [List.foldl_cons, ih fun r' member => others r' (List.mem_cons_of_mem _ member)]
    exact Function.update_of_ne (others r List.mem_cons_self).symm _ _

end Contents

structure Listed (row : UInt32 → Option TxResult) (results : List TxResult) : Prop where
  ascending : results.Pairwise fun a b => a.index < b.index
  mem_iff : ∀ r, r ∈ results ↔ row r.index = some r

theorem Listed.unique {row : UInt32 → Option TxResult} {one other : List TxResult}
    (listed : Listed row one) (listed' : Listed row other) : one = other := by
  have : Std.Irrefl fun a b : TxResult => a.index < b.index := ⟨fun a => UInt32.lt_irrefl a.index⟩
  have : Std.Antisymm fun a b : TxResult => a.index < b.index :=
    ⟨fun a b below above => absurd below (UInt32.lt_asymm above)⟩
  refine listed.ascending.eq_of_mem_iff listed'.ascending fun r => ?_
  rw [listed.mem_iff, listed'.mem_iff]

theorem Listed.eq_nil {results : List TxResult} (listed : Listed (fun _ => none) results) :
    results = [] := by
  refine List.eq_nil_iff_forall_not_mem.2 fun r member => ?_
  cases (listed.mem_iff r).1 member

theorem Listed.find?_eq {row : UInt32 → Option TxResult} {results : List TxResult} (listed : Listed row results)
    (own : ∀ index r, row index = some r → r.index = index) (index : UInt32) :
    results.find? (fun r => r.index = index) = row index := by
  cases found : results.find? fun r => r.index = index with
  | none =>
    cases held : row index with
    | none => rfl
    | some r =>
      have same := own index r held
      have member : r ∈ results := (listed.mem_iff r).2 (by rw [same, held])
      exact absurd same (by simpa using List.find?_eq_none.1 found r member)
  | some r =>
    have same : r.index = index := by simpa using List.find?_some found
    rw [← same]
    exact ((listed.mem_iff r).1 (List.mem_of_find?_eq_some found)).symm

structure Taking where
  block : Block → Bool
  result : TxResult → Bool

/-- A store whose readers see what was written, and which goes on accepting the same. -/
class Store.Lawful (σ : Type) [Store σ] extends Store.Marked σ where
  /-- What is true of a store that batches alone have written to. -/
  Sound : σ → Prop
  contents : σ → Contents
  taking : σ → Taking
  block_eq {store : σ} (sound : Sound store) (h : Height) :
    Store.block store h = .ok ((contents store).block h)
  result_eq {store : σ} (sound : Sound store) (h : Height) (index : UInt32) :
    Store.result store h index = .ok ((contents store).result h index)
  results_eq {store : σ} (sound : Sound store) (h : Height) :
    ∃ results, Store.results store h = .ok results ∧ Listed ((contents store).result h) results
  setBlock_eq (store : σ) (batch : Batch) (b : Block) :
    (Store.setBlock store batch b).toOption =
      if (taking store).block b then some (batch.withBlock b) else none
  setResult_eq (store : σ) (batch : Batch) (r : TxResult) :
    (Store.setResult store batch r).toOption =
      if (taking store).result r then some (batch.withResult r) else none
  commit_ok {store after : σ} {batch : Batch} (sound : Sound store)
    (blocks : ∀ b ∈ batch.blocks, (taking store).block b)
    (results : ∀ r ∈ batch.results, (taking store).result r)
    (taken : Store.commit store batch = .ok after) :
    Sound after ∧ contents after = (contents store).write batch.blocks batch.results ∧
      taking after = taking store

structure Store.Blank {σ : Type} [Store σ] [Store.Lawful σ] (store : σ) : Prop where
  sound : Store.Lawful.Sound store
  contents : Store.Lawful.contents store = .empty
  latest : Store.latest store = .ok none

structure Alike {σ τ : Type} [Store σ] [Store τ] (store : σ) (other : τ) (h : Height) : Prop where
  block : Store.block store h = Store.block other h
  result : ∀ index, Store.result store h index = Store.result other h index
  results : Store.results store h = Store.results other h

theorem alike_of_contents {σ τ : Type} [Store σ] [Store.Lawful σ] [Store τ] [Store.Lawful τ] {store : σ}
    {other : τ} (sound : Store.Lawful.Sound store) (sound' : Store.Lawful.Sound other)
    (same : Store.Lawful.contents store = Store.Lawful.contents other) (h : Height) :
    Alike store other h where
  block := by rw [Store.Lawful.block_eq sound, Store.Lawful.block_eq sound', same]
  result := fun index => by
    rw [Store.Lawful.result_eq sound, Store.Lawful.result_eq sound', same]
  results := by
    obtain ⟨one, reads, listed⟩ := Store.Lawful.results_eq sound h
    obtain ⟨two, reads', listed'⟩ := Store.Lawful.results_eq sound' h
    rw [reads, reads', listed.unique (same ▸ listed')]

end TokenIndexer
