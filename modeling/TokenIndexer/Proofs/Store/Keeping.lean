import TokenIndexer.Proofs.Store.Laws

/-!
Stores that refuse a write or fail to commit a batch whenever they like, and show all that they accepted of a
batch that they commit.
-/

namespace TokenIndexer

variable {σ : Type} [Store σ]

/-- Batches that come about by writes which a store accepts. -/
inductive Store.Assembled (store : σ) : Batch → Prop where
  | empty : Assembled store .empty
  | withBlock {batch written : Batch} {b : Block} (assembled : Assembled store batch)
      (accepted : Store.setBlock store batch b = .ok written) : Assembled store written
  | withResult {batch written : Batch} {r : TxResult} (assembled : Assembled store batch)
      (accepted : Store.setResult store batch r = .ok written) : Assembled store written

/-- A store whose readers see what it took. Nothing is said about when it takes anything. -/
class Store.Keeping (σ : Type) [Store σ] extends Store.Marked σ where
  /-- What is true of a store that batches alone have written to. -/
  Sound : σ → Prop
  contents : σ → Contents
  block_eq {store : σ} (sound : Sound store) (h : Height) :
    Store.block store h = .ok ((contents store).block h)
  result_eq {store : σ} (sound : Sound store) (h : Height) (index : UInt32) :
    Store.result store h index = .ok ((contents store).result h index)
  results_eq {store : σ} (sound : Sound store) (h : Height) :
    ∃ results, Store.results store h = .ok results ∧ Listed ((contents store).result h) results
  eq_withBlock {store : σ} {batch written : Batch} {b : Block}
    (accepted : Store.setBlock store batch b = .ok written) : written = batch.withBlock b
  eq_withResult {store : σ} {batch written : Batch} {r : TxResult}
    (accepted : Store.setResult store batch r = .ok written) : written = batch.withResult r
  commit_ok {store after : σ} {batch : Batch} {h : Height} (sound : Sound store)
    (assembled : Store.Assembled store batch)
    (taken : Store.commit store (batch.withMarker h) = .ok after) :
    Sound after ∧ contents after = (contents store).write batch.blocks batch.results

section Lawful

variable [Store.Lawful σ] {store : σ} {batch written : Batch}

open Store.Lawful (taking)

theorem accepted_of_setBlock {b : Block} (accepted : Store.setBlock store batch b = .ok written) :
    (taking store).block b = true ∧ written = batch.withBlock b := by
  have law := Store.Lawful.setBlock_eq store batch b
  rw [accepted] at law
  split at law
  · next takes =>
    cases law
    exact ⟨takes, rfl⟩
  · cases law

theorem accepted_of_setResult {r : TxResult} (accepted : Store.setResult store batch r = .ok written) :
    (taking store).result r = true ∧ written = batch.withResult r := by
  have law := Store.Lawful.setResult_eq store batch r
  rw [accepted] at law
  split at law
  · next takes =>
    cases law
    exact ⟨takes, rfl⟩
  · cases law

theorem accepted_of_assembled (assembled : Store.Assembled store batch) :
    (∀ b ∈ batch.blocks, (taking store).block b) ∧ ∀ r ∈ batch.results, (taking store).result r := by
  induction assembled with
  | empty => exact ⟨fun _ none => (nomatch none), fun _ none => (nomatch none)⟩
  | withBlock _ accepted ih =>
    obtain ⟨takes, rfl⟩ := accepted_of_setBlock accepted
    refine ⟨fun b member => ?_, ih.2⟩
    rcases List.mem_append.1 member with old | new
    · exact ih.1 b old
    · rw [List.mem_singleton.1 new]
      exact takes
  | withResult _ accepted ih =>
    obtain ⟨takes, rfl⟩ := accepted_of_setResult accepted
    refine ⟨ih.1, fun r member => ?_⟩
    rcases List.mem_append.1 member with old | new
    · exact ih.2 r old
    · rw [List.mem_singleton.1 new]
      exact takes

instance : Store.Keeping σ where
  Sound := Store.Lawful.Sound
  contents := Store.Lawful.contents
  block_eq := Store.Lawful.block_eq
  result_eq := Store.Lawful.result_eq
  results_eq := Store.Lawful.results_eq
  eq_withBlock accepted := (accepted_of_setBlock accepted).2
  eq_withResult accepted := (accepted_of_setResult accepted).2
  commit_ok {store _ batch h} sound assembled taken := by
    have accepted := accepted_of_assembled assembled
    have blocks : ∀ b ∈ (batch.withMarker h).blocks, (taking store).block b := accepted.1
    have results : ∀ r ∈ (batch.withMarker h).results, (taking store).result r := accepted.2
    obtain ⟨after, same, _⟩ := Store.Lawful.commit_ok sound blocks results taken
    exact ⟨after, same⟩

end Lawful

structure Mishaps where
  block : Block → Option StoreError
  result : TxResult → Option StoreError
  marker : Option StoreError
  commit : Option StoreError

def Mishaps.none : Mishaps := ⟨fun _ => .none, fun _ => .none, .none, .none⟩

/-- A store with a plan of what goes wrong, batch by batch. -/
structure Failing (σ : Type) where
  store : σ
  plan : Nat → Mishaps

namespace Failing

def barring {α : Type} (mishap : Option StoreError) (outcome : Except StoreError α) : Except StoreError α :=
  match mishap with
  | some error => .error error
  | none => outcome

theorem eq_ok_of_barring {α : Type} {mishap : Option StoreError} {outcome : Except StoreError α} {a : α}
    (succeeded : barring mishap outcome = .ok a) : outcome = .ok a := by
  cases mishap with
  | none => exact succeeded
  | some error => cases succeeded

instance : Store (Failing σ) where
  latest failing := Store.latest failing.store
  block failing := Store.block failing.store
  result failing := Store.result failing.store
  results failing := Store.results failing.store
  setBlock failing batch b :=
    barring ((failing.plan 0).block b) (Store.setBlock failing.store batch b)
  setResult failing batch r :=
    barring ((failing.plan 0).result r) (Store.setResult failing.store batch r)
  setMarker failing batch h := barring (failing.plan 0).marker (Store.setMarker failing.store batch h)
  commit failing batch :=
    barring (failing.plan 0).commit
      ((Store.commit failing.store batch).map fun after => ⟨after, fun n => failing.plan (n + 1)⟩)

theorem commit_eq_ok {failing after : Failing σ} {batch : Batch}
    (taken : Store.commit failing batch = .ok after) :
    Store.commit failing.store batch = .ok after.store := by
  have inner := eq_ok_of_barring taken
  cases result : Store.commit failing.store batch with
  | error e =>
    rw [result] at inner
    cases inner
  | ok next =>
    rw [result] at inner
    cases inner
    rfl

theorem assembled_inner {failing : Failing σ} {batch : Batch}
    (assembled : Store.Assembled failing batch) : Store.Assembled failing.store batch := by
  induction assembled with
  | empty => exact .empty
  | withBlock _ accepted ih => exact ih.withBlock (eq_ok_of_barring accepted)
  | withResult _ accepted ih => exact ih.withResult (eq_ok_of_barring accepted)

/-- Whatever is to go wrong. -/
instance [Store.Keeping σ] : Store.Keeping (Failing σ) where
  marker_setMarker marked := Store.Marked.marker_setMarker (eq_ok_of_barring marked)
  latest_commit {failing _ _ _ latest} read taken marker := by
    have before : Store.latest failing.store = .ok latest := read
    have moved := Store.Marked.latest_commit before (commit_eq_ok taken) marker
    exact moved
  Sound failing := Store.Keeping.Sound failing.store
  contents failing := Store.Keeping.contents failing.store
  block_eq sound := Store.Keeping.block_eq sound
  result_eq sound := Store.Keeping.result_eq sound
  results_eq sound := Store.Keeping.results_eq sound
  eq_withBlock accepted := Store.Keeping.eq_withBlock (eq_ok_of_barring accepted)
  eq_withResult accepted := Store.Keeping.eq_withResult (eq_ok_of_barring accepted)
  commit_ok sound assembled taken :=
    Store.Keeping.commit_ok sound (assembled_inner assembled) (commit_eq_ok taken)

end Failing

end TokenIndexer
