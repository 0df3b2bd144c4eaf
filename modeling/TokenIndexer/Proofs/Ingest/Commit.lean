import TokenIndexer.Ingest.Commit
import TokenIndexer.Proofs.Ingest.Consecutive
import TokenIndexer.Proofs.Store.Laws

namespace TokenIndexer.Commit

open Token

variable {σ : Type} [Store σ]

theorem finish_eq_ok {store after : σ} {range : HeightRange} {staged : Staged} {events : List Event}
    (committed : finish store range staged = .ok (after, events)) :
    ∃ batch, Store.setMarker store staged.batch range.last = .ok batch ∧
      Store.commit store batch = .ok after ∧ events = staged.events := by
  unfold finish at committed
  split at committed
  · cases committed
  · next batch marked =>
    split at committed
    · cases committed
    · next taken =>
      cases committed
      exact ⟨batch, marked, taken, rfl⟩

namespace Outcome

def Succeeded (outcome : Outcome σ) : Prop := ∃ after events, outcome.result = .ok (after, events)

end Outcome

def committed (outcomes : List (Outcome σ)) : List HeightRange :=
  (outcomes.filter fun outcome => outcome.result.isOk).map (·.range)

omit [Store σ] in
theorem committed_cons_ok {outcome : Outcome σ} {rest : List (Outcome σ)} {pair : σ × List Event}
    (result : outcome.result = .ok pair) :
    committed (outcome :: rest) = outcome.range :: committed rest := by
  simp [committed, result, Except.isOk, Except.toBool]

omit [Store σ] in
theorem committed_of_succeeded {outcomes : List (Outcome σ)}
    (succeeded : ∀ outcome ∈ outcomes, outcome.Succeeded) :
    committed outcomes = outcomes.map (·.range) := by
  unfold committed
  congr 1
  refine List.filter_eq_self.2 fun outcome member => ?_
  obtain ⟨after, events, result⟩ := succeeded outcome member
  simp [result, Except.isOk, Except.toBool]

/-- The outcomes of committing chunks that are valid for their ranges, from one store to another. -/
def Succession (Valid : HeightRange → Chunk → Prop) : σ → List (Outcome σ) → σ → Prop
  | store, [], after => after = store
  | store, outcome :: rest, after =>
    (∃ detector c, Valid outcome.range c ∧ outcome = chunk detector store outcome.range c) ∧
      match outcome.result with
      | .ok (next, _) => Succession Valid next rest after
      | .error _ => rest = [] ∧ after = store

section Succession

variable {Valid : HeightRange → Chunk → Prop} {store middle after : σ} {outcomes later : List (Outcome σ)}

theorem succession_append (first : Succession Valid store outcomes middle)
    (succeeded : ∀ outcome ∈ outcomes, outcome.Succeeded) (second : Succession Valid middle later after) :
    Succession Valid store (outcomes ++ later) after := by
  induction outcomes generalizing store with
  | nil =>
    cases first
    exact second
  | cons outcome rest ih =>
    obtain ⟨next, events, result⟩ := succeeded outcome List.mem_cons_self
    obtain ⟨origin, tail⟩ := first
    rw [result] at tail
    refine ⟨origin, ?_⟩
    rw [result]
    exact ih tail fun o member => succeeded o (List.mem_cons_of_mem _ member)

theorem eq_chunk_of_succession (succession : Succession Valid store outcomes after)
    {outcome : Outcome σ} (member : outcome ∈ outcomes) :
    ∃ detector before c, Valid outcome.range c ∧ outcome = chunk detector before outcome.range c := by
  induction outcomes generalizing store with
  | nil => cases member
  | cons head rest ih =>
    obtain ⟨⟨detector, c, valid, same⟩, tail⟩ := succession
    rcases List.mem_cons.1 member with rfl | member
    · exact ⟨detector, store, c, valid, same⟩
    · split at tail
      · exact ih tail member
      · rw [tail.1] at member
        cases member

theorem split_of_succession (succession : Succession Valid store outcomes after) {outcome : Outcome σ}
    (member : outcome ∈ outcomes) :
    ∃ earlier later before, outcomes = earlier ++ outcome :: later ∧
      (∀ o ∈ earlier, o.Succeeded) ∧ Succession Valid store earlier before ∧
      (∃ detector c, Valid outcome.range c ∧ outcome = chunk detector before outcome.range c) ∧
      ∀ next events, outcome.result = .ok (next, events) → Succession Valid next later after := by
  induction outcomes generalizing store with
  | nil => cases member
  | cons head rest ih =>
    obtain ⟨origin, tail⟩ := succession
    rcases List.mem_cons.1 member with rfl | member
    · refine ⟨[], rest, store, rfl, fun _ none => (nomatch none), rfl, origin, ?_⟩
      intro next events committed
      rw [committed] at tail
      exact tail
    · cases result : head.result with
      | error e =>
        rw [result] at tail
        rw [tail.1] at member
        cases member
      | ok pair =>
        rw [result] at tail
        obtain ⟨earlier, later, before, rfl, succeeded, first, own, onward⟩ := ih tail member
        refine ⟨head :: earlier, later, before, rfl, ?_, ⟨origin, ?_⟩, own, onward⟩
        · intro o early
          rcases List.mem_cons.1 early with rfl | early
          · exact ⟨pair.1, pair.2, result⟩
          · exact succeeded o early
        · rw [result]
          exact first

/-- Only the last outcome can be a failure. -/
theorem committed_prefix (succession : Succession Valid store outcomes after) :
    ∃ failed, outcomes.map (·.range) = committed outcomes ++ failed ∧ failed.length ≤ 1 := by
  induction outcomes generalizing store with
  | nil => exact ⟨[], rfl, Nat.zero_le _⟩
  | cons head tail ih =>
    obtain ⟨_, onward⟩ := succession
    cases result : head.result with
    | error e =>
      rw [result] at onward
      obtain ⟨rfl, _⟩ := onward
      exact ⟨[head.range], by simp [committed, result, Except.isOk, Except.toBool], Nat.le_refl _⟩
    | ok pair =>
      rw [result] at onward
      obtain ⟨failed, shape, few⟩ := ih onward
      refine ⟨failed, ?_, few⟩
      rw [committed_cons_ok result, List.map_cons, shape]
      rfl

variable [Store.Marked σ]

theorem latest_of_chunk {latest : Option Height} (initial : Store.latest store = .ok latest)
    {detector : Detector} {range : HeightRange} {c : Chunk} {events : List Event}
    (committed : (chunk detector store range c).result = .ok (after, events)) :
    Store.latest after = .ok (some range.last) := by
  obtain ⟨batch, marked, taken, _⟩ := finish_eq_ok committed
  exact Store.Marked.latest_commit initial taken (by rw [Store.Marked.marker_setMarker marked]; rfl)

theorem latest_of_succession {latest : Option Height} (initial : Store.latest store = .ok latest)
    (succession : Succession Valid store outcomes after) :
    Store.latest after = .ok (((committed outcomes).getLast?.map (·.last)).or latest) := by
  induction outcomes generalizing store latest with
  | nil =>
    cases succession
    exact initial
  | cons outcome rest ih =>
    obtain ⟨⟨detector, c, _, same⟩, tail⟩ := succession
    cases result : outcome.result with
    | error e =>
      rw [result] at tail
      obtain ⟨rfl, rfl⟩ := tail
      simpa [committed, result, Except.isOk, Except.toBool] using initial
    | ok pair =>
      obtain ⟨next, events⟩ := pair
      rw [result] at tail
      have started : (chunk detector store outcome.range c).result = .ok (next, events) := same ▸ result
      rw [ih (latest_of_chunk initial started) tail, committed_cons_ok result]
      rcases List.eq_nil_or_concat (committed rest) with empty | ⟨front, range, shape⟩
      · simp [empty]
      · simp [shape, List.getLast?_cons]

end Succession

end TokenIndexer.Commit
