import TokenIndexer.Proofs.Ingest.Independence
import TokenIndexer.Proofs.Ingest.Retries
import TokenIndexer.Proofs.Ingest.Staging

/-!
A range that cannot be fetched ends ingestion, with all that came before it in the store and nothing of this
run from it on.
-/

namespace TokenIndexer

namespace Fetcher

variable {σ : Type} [Store σ] {policy : Policy} {f : Fetcher σ}

theorem commitReady_not_exhausted {range : HeightRange} {attempts : UInt32} {last : FetchFailure}
    (stopped : (f.commitReady policy).stopped = some (.rangeExhausted range attempts last)) : False := by
  fun_induction commitReady policy f with
  | case1 => cases stopped
  | case2 f own chunk slots popped outcome error failed =>
    cases stopped
    change Commit.finish _ _ _ = _ at failed
    unfold Commit.finish at failed
    split at failed
    · cases failed
    · split at failed <;> cases failed
  | case3 f own chunk slots popped outcome store events committed shorter later ih => exact ih stopped

omit [Store σ] in
theorem stopped_assign (stored remote : Height) : (f.assign policy stored remote).stopped = none := by
  unfold assign
  dsimp only
  split <;> rfl

/-- Only a failure can exhaust a range, and only its own. -/
theorem response_of_exhausted {signal : Signal} {range : HeightRange} {attempts : UInt32}
    {last : FetchFailure}
    (stopped : (f.handle policy signal).stopped = some (.rangeExhausted range attempts last)) :
    ∃ response, signal = .response response ∧ response.range = range ∧ response.result = .error last := by
  cases signal with
  | tick remote =>
    change (f.tick policy remote).stopped = _ at stopped
    unfold tick at stopped
    repeat' split at stopped
    all_goals first | cases stopped | rw [stopped_assign] at stopped
    cases stopped
  | response response =>
    refine ⟨response, rfl, ?_⟩
    change (f.respond policy response).stopped = _ at stopped
    rcases respond_cases policy response f with
      ⟨idle, _⟩ | ⟨chunk, slots, _, _, step⟩ | ⟨error, failures, slots, come, _, step⟩
    · rw [idle] at stopped
      cases stopped
    · rw [step] at stopped
      exact (commitReady_not_exhausted stopped).elim
    · rw [step] at stopped
      split at stopped
      · cases stopped
        exact ⟨rfl, come⟩
      · cases stopped

theorem assigned_of_stopped {signal : Signal} {error : FetchError}
    (stopped : (f.handle policy signal).stopped = some error) : (f.handle policy signal).assigned = [] := by
  cases signal with
  | tick remote =>
    change (f.tick policy remote).stopped = _ at stopped
    rcases tick_cases policy remote f with ⟨_, idle⟩ | ⟨stored, height, _, _, _, _, _, step⟩
    · change (f.tick policy remote).assigned = []
      rw [idle]
    · rw [step] at stopped
      cases stopped
  | response response =>
    change (f.respond policy response).stopped = _ at stopped
    change (f.respond policy response).assigned = []
    rcases respond_cases policy response f with
      ⟨idle, _⟩ | ⟨chunk, slots, _, _, step⟩ | ⟨e, failures, slots, _, _, step⟩
    · rw [idle]
      rfl
    · rw [step]
      exact (drained_commitReady (fun _ _ => True) policy { f with slots := slots }
        fun _ _ _ _ => trivial).assigned
    · rw [step] at stopped ⊢
      split at stopped
      · next last =>
        rw [if_pos last]
        rfl
      · cases stopped

end Fetcher

namespace Ingestion

open Store.Keeping

variable {σ : Type} [Store σ]

/-- What a run that began with `store` comes to when a range is exhausted. -/
structure Exhausted (attempts : UInt32) (store : σ) (i : Ingestion σ) (range : HeightRange) : Prop where
  /-- Every attempt at the range was made, and every one failed. -/
  failed : i.failures range = attempts.toNat
  fetched : i.fetches range = attempts.toNat
  undelivered : range ∉ i.delivered
  settled : range ∉ i.outstanding
  below : ∃ stored, i.fetcher.stored = .ok stored ∧ stored < range.first
  /-- From the range on readers see what they saw before the run. -/
  untouched : ∀ h, range.first ≤ h → Alike store i.fetcher.store h
  /-- A range is committed if it was fetched and all those before it were. -/
  complete : ∀ front own back, i.reserved = front ++ own :: back →
    (∀ r ∈ front ++ [own], r ∈ i.delivered) → own ∈ Commit.committed i.outcomes

/-- What failures come to over a run that began with `store` and made `moves`. -/
structure Retries (policy : Policy) (store : σ) (moves : List Move) (i : Ingestion σ) : Prop where
  fetched : ∀ range, i.fetches range ≤ policy.attempts.toNat
  /-- Only its own failures are counted against a range. -/
  own : i.stopped = none → ∀ slot ∈ i.fetcher.slots.slots, slot.failures.toNat = i.failures slot.range
  /-- The last failure that is allowed ends the run, and no other does. -/
  next : ∀ query response rest error, i.stopped = none → i.arrived = response :: rest →
    response.result = .error error →
      (i.advance policy (.receive query)).stopped =
        if i.failures response.range + 1 = policy.attempts.toNat then
          some (.rangeExhausted response.range policy.attempts error)
        else none
  exhausted : ∀ range attempts error, i.stopped = some (.rangeExhausted range attempts error) →
    attempts = policy.attempts ∧ Exhausted policy.attempts store i range
  /-- What goes to the store is what a worker fetched, with a block for each height. -/
  genuine : ∀ outcome ∈ i.outcomes, ∃ detector before answers c,
    outcome = Commit.chunk detector before outcome.range c ∧
      Move.finish outcome.range answers ∈ moves ∧ answers.fetch outcome.range = .ok c ∧
      c.entries.map (·.block.height) = outcome.range.heights

variable [Store.Keeping σ] {store : σ} {policy : Policy} {maxSlots : Nat} {i : Ingestion σ}
  {latest : Option Height}

theorem alike_of_contents_at {after : σ} (sound : Sound store) (soundAfter : Sound after) {h : Height}
    (block : (contents after).block h = (contents store).block h)
    (result : (contents after).result h = (contents store).result h) : Alike store after h where
  block := by rw [block_eq sound, block_eq soundAfter, block]
  result := fun index => by rw [result_eq sound, result_eq soundAfter, result]
  results := by
    obtain ⟨one, reads, listed⟩ := results_eq sound h
    obtain ⟨other, reads', listed'⟩ := results_eq soundAfter h
    rw [reads, reads', listed.unique (result ▸ listed')]

section Pending

variable {range : HeightRange}

omit [Store.Keeping σ] in
theorem Orderly.committed_below {Valid : HeightRange → Chunk → Prop} {bottom : Height}
    (orderly : Orderly Valid bottom store i) (going : i.stopped = none)
    (ascending : Ascending i.reserved) {slot : RangeSlot} (waits : slot ∈ i.fetcher.slots.slots) :
    ∀ done ∈ Commit.committed i.outcomes, done.last < slot.range.first := by
  intro done taken
  rw [Commit.committed_of_succeeded (orderly.succeeded going)] at taken
  rw [orderly.accounted] at ascending
  exact (List.pairwise_append.1 ascending).2.2 done taken _ (List.mem_map_of_mem waits)

theorem Orderly.stored_below (initial : Store.latest store = .ok latest)
    (orderly : Orderly Exact (latest.getD 0) store i) (going : i.stopped = none)
    (tiles : Tiles ((latest.getD 0).toNat + 1) i.reserved) {slot : RangeSlot}
    (waits : slot ∈ i.fetcher.slots.slots) :
    ∃ stored, i.fetcher.stored = .ok stored ∧ stored < slot.range.first := by
  refine ⟨_, orderly.stored_eq initial, ?_⟩
  cases final : (Commit.committed i.outcomes).getLast? with
  | none =>
    have known : slot.range ∈ i.reserved := by
      rw [orderly.accounted]
      exact List.mem_append_right _ (List.mem_map_of_mem waits)
    have ahead := start_le_of_tiles tiles known
    change latest.getD 0 < slot.range.first
    rw [UInt64.lt_iff_toNat_lt]
    omega
  | some done =>
    exact orderly.committed_below going (ascending_of_tiles tiles) waits done
      (List.mem_of_getLast? final)

theorem Orderly.untouched (orderly : Orderly Exact (latest.getD 0) store i) (sound : Sound store)
    (going : i.stopped = none) (ascending : Ascending i.reserved) {slot : RangeSlot}
    (waits : slot ∈ i.fetcher.slots.slots) {h : Height} (above : slot.range.first ≤ h) :
    Alike store i.fetcher.store h := by
  obtain ⟨soundAfter, outside⟩ := Commit.contents_outside orderly.succession sound
  obtain ⟨block, result⟩ := outside h fun done taken => by
    have below := orderly.committed_below going ascending waits done taken
    have beyond : ¬ h ≤ done.last := UInt64.not_le.2 (UInt64.lt_of_lt_of_le below above)
    simp [HeightRange.contains, beyond]
  exact alike_of_contents_at sound soundAfter block result

omit [Store.Keeping σ] in
/-- The first range of the buffer is still to be fetched, so all that came before it is committed. -/
theorem Orderly.committed_of_delivered {attempts : Nat} {Valid : HeightRange → Chunk → Prop}
    {bottom : Height} (orderly : Orderly Valid bottom store i) (going : i.stopped = none)
    (tidy : Tidy maxSlots i) (accounts : Accounts attempts i) {front back : List HeightRange}
    {own : HeightRange} (shape : i.reserved = front ++ own :: back)
    (fetched : ∀ r ∈ front ++ [own], r ∈ i.delivered) : own ∈ Commit.committed i.outcomes := by
  rw [Commit.committed_of_succeeded (orderly.succeeded going)]
  have accounted := orderly.accounted
  cases buffer : i.fetcher.slots.slots with
  | nil =>
    rw [shape, buffer, List.map_nil, List.append_nil] at accounted
    rw [← accounted]
    exact List.mem_append_right _ List.mem_cons_self
  | cons head tail =>
    have empty : head.chunk = none :=
      SlotBuffer.pop?_eq_none_iff.1 tidy.waiting head (by rw [SlotBuffer.front?, buffer]; rfl)
    have pending : head.range ∉ i.delivered := by
      have known : head.range ∈ i.reserved := by
        rw [accounted, buffer]
        exact List.mem_append_right _ List.mem_cons_self
      rw [accounts.delivered _ known, not_not, tidy.matched.mem_iff]
      exact mem_unfilled.2 ⟨head, by simp [buffer], empty, rfl⟩
    rw [shape, buffer, List.map_cons] at accounted
    have ahead : head.range ∉ front ++ [own] := fun member => pending (fetched _ member)
    rw [List.mem_append, List.mem_singleton, not_or] at ahead
    rcases List.append_eq_append_iff.1 accounted with ⟨between, split, rest⟩ | ⟨between, split, rest⟩
    · cases between with
      | nil => exact absurd (List.cons.inj rest).1.symm ahead.2
      | cons next later =>
        rw [split, (List.cons.inj rest).1]
        exact List.mem_append_right _ List.mem_cons_self
    · exfalso
      cases between with
      | nil => exact ahead.2 (List.cons.inj rest).1
      | cons next later =>
        apply ahead.1
        rw [split, (List.cons.inj rest).1]
        exact List.mem_append_right _ List.mem_cons_self

end Pending

theorem Accounts.exhaust {attempts : UInt32} {range : HeightRange} {error : FetchFailure}
    {rest : List Response} (accounts : Accounts policy.attempts.toNat i) (tidy : Tidy maxSlots i)
    (orderly : Orderly Exact (latest.getD 0) store i) (initial : Store.latest store = .ok latest)
    (sound : Sound store) (tiles : Tiles ((latest.getD 0).toNat + 1) i.reserved)
    (going : i.stopped = none) (queue : i.arrived = ⟨range, .error error⟩ :: rest)
    (stopped : (take policy { i with arrived := rest } (.response ⟨range, .error error⟩)).stopped =
      some (.rangeExhausted range attempts error)) :
    attempts = policy.attempts ∧ Exhausted policy.attempts store
      (take policy { i with arrived := rest } (.response ⟨range, .error error⟩)) range := by
  obtain ⟨gone, split⟩ := tidy.mem_outstanding_iff queue
  obtain ⟨front, slot, back, slots, shape, rfl, counted, next, step⟩ :=
    accounts.respond_failure tidy queue rfl
  have handled : i.fetcher.handle policy (.response ⟨slot.range, .error error⟩) =
    i.fetcher.respond policy ⟨slot.range, .error error⟩ := rfl
  rw [stopped_take, handled, step] at stopped
  have last : i.failures slot.range + 1 = policy.attempts.toNat := by
    by_contra more
    rw [if_neg more] at stopped
    cases stopped
  rw [if_pos last] at stopped step
  rw [step] at handled
  cases stopped
  have waits : slot ∈ i.fetcher.slots.slots := by simp [shape]
  have known : slot.range ∈ i.reserved := by
    rw [orderly.accounted]
    exact List.mem_append_right _ (List.mem_map_of_mem waits)
  have store : (take policy { i with arrived := rest }
      (.response ⟨slot.range, .error error⟩)).fetcher.store = i.fetcher.store := by
    rw [fetcher_take, handled]
    rfl
  refine ⟨rfl, { failed := ?_, fetched := ?_, undelivered := ?_, settled := ?_, below := ?_,
                 untouched := ?_, complete := ?_ }⟩
  · rw [failures_take_failure, List.count_singleton_self, ← last]
    rfl
  · rw [fetches_take, handled, ← last]
    exact accounts.fetched slot.range known
  · rw [delivered_take_failure]
    change _ ∉ i.delivered
    rw [accounts.delivered _ known, not_not]
    exact (split slot.range).2 (.inl rfl)
  · have left : (take policy { i with arrived := rest }
        (.response ⟨slot.range, .error error⟩)).outstanding = outstanding { i with arrived := rest } := by
      simp [outstanding, handled, Fetcher.stop]
    rw [left]
    exact gone
  · rw [Fetcher.stored, store]
    exact orderly.stored_below initial going tiles waits
  · intro h above
    rw [store]
    exact orderly.untouched sound going (ascending_of_tiles tiles) waits above
  · intro front own back reserved fetched
    rw [reserved_take_response] at reserved
    rw [delivered_take_failure] at fetched
    have same : (take policy { i with arrived := rest }
        (.response ⟨slot.range, .error error⟩)).outcomes = i.outcomes := by
      rw [outcomes_take, handled]
      exact List.append_nil _
    rw [same]
    exact orderly.committed_of_delivered going tidy accounts reserved fetched

omit [Store.Keeping σ] in
theorem assigned_of_stopped {move : Move} {error : FetchError}
    (stopped : (i.advance policy move).stopped = some error) :
    (i.advance policy move).assigned = i.assigned := by
  revert stopped
  refine advance_preserves (fun j => j.stopped = some error → j.assigned = i.assigned) i move
    (fun _ => rfl) ?_ (fun _ _ _ => rfl) (fun _ _ _ _ _ => rfl) ?_
  · intro remote _ _ stopped
    rw [stopped_take] at stopped
    rw [assigned_take, Fetcher.assigned_of_stopped stopped, List.append_nil]
  · intro query response rest _ _ stopped
    rw [stopped_take] at stopped
    rw [assigned_take, Fetcher.assigned_of_stopped stopped, List.append_nil]
    rfl

section Run

variable {moves : List Move}
  (bounded : ∀ remote, Move.tick (.ok remote) ∈ moves → remote < Height.greatest)

include bounded

omit [Store.Keeping σ] in
theorem fetches_le [Store.Marked σ] (store : σ) (maxSlots : Nat) (range : HeightRange) :
    ((start store maxSlots).run policy moves).fetches range ≤ policy.attempts.toNat := by
  have while_going {made : List Move}
      (few : ∀ remote, Move.tick (.ok remote) ∈ made → remote < Height.greatest)
      (going : ((start store maxSlots).run policy made).stopped = none) :
      ((start store maxSlots).run policy made).fetches range ≤ policy.attempts.toNat := by
    have accounts := accounts_run few going
    by_cases known : range ∈ ((start store maxSlots).run policy made).reserved
    · rw [accounts.fetched range known]
      exact accounts.tolerated range
    · rw [(accounts.unknown range known).1]
      exact Nat.zero_le _
  cases stopped : ((start store maxSlots).run policy moves).stopped with
  | none => exact while_going bounded stopped
  | some error =>
    obtain ⟨earlier, move, later, rfl, going, final⟩ := stopped_run rfl stopped
    rw [final] at stopped ⊢
    rw [fetches, assigned_of_stopped stopped]
    exact while_going (fun remote member => bounded remote (List.mem_append_left _ member)) going

theorem exhausted_run (sound : Sound store) {range : HeightRange} {attempts : UInt32}
    {error : FetchFailure} (stopped : ((start store maxSlots).run policy moves).stopped =
      some (.rangeExhausted range attempts error)) :
    attempts = policy.attempts ∧
      Exhausted policy.attempts store ((start store maxSlots).run policy moves) range := by
  obtain ⟨earlier, move, later, rfl, going, final⟩ := stopped_run rfl stopped
  have few : ∀ remote, Move.tick (.ok remote) ∈ earlier → remote < Height.greatest :=
    fun remote member => bounded remote (List.mem_append_left _ member)
  have tidy := tidy_run few store going
  have accounts := accounts_run few going
  rw [final] at stopped ⊢
  revert stopped
  refine advance_preserves
    (fun j => j.stopped = some (.rangeExhausted range attempts error) →
      attempts = policy.attempts ∧ Exhausted policy.attempts store j range) _ move ?_ ?_ ?_ ?_ ?_
  · intro stopped
    rw [going] at stopped
    cases stopped
  · intro remote _ _ stopped
    rw [stopped_take] at stopped
    obtain ⟨response, none, _⟩ := Fetcher.response_of_exhausted stopped
    cases none
  · intro _ _ stopped
    cases going.symm.trans stopped
  · intro _ _ _ _ stopped
    cases going.symm.trans stopped
  · intro query response rest queue _ stopped
    have taken := stopped
    rw [stopped_take] at taken
    obtain ⟨_, same, own, come⟩ := Fetcher.response_of_exhausted taken
    cases same
    obtain ⟨_, result⟩ := response
    cases own
    cases come
    cases initial : Store.latest store with
    | error e =>
      have quiet : Quiet store ((start store maxSlots).run policy earlier) := quiet_run initial
      have nothing := quiet.outstanding
      rw [outstanding, queue] at nothing
      cases (List.append_eq_nil_iff.1 nothing).2
    | ok latest =>
      have orderly : Orderly Exact (latest.getD 0) store ((start store maxSlots).run policy earlier) := by
        apply orderly_run initial
        intro range answers _ c come
        exact Answers.exact_of_fetch come
      have asked : Accounts (policy.asking query).attempts.toNat
        ((start store maxSlots).run policy earlier) := accounts
      exact asked.exhaust tidy orderly initial sound (tiles_run initial few policy maxSlots) going queue
        stopped

/-- Whatever the interleaving, and whatever becomes of other ranges. -/
theorem retries_run (sound : Sound store) (maxSlots : Nat) :
    Retries policy store moves ((start store maxSlots).run policy moves) := by
  refine { fetched := ?_, own := ?_, next := ?_, exhausted := ?_, genuine := ?_ }
  · exact fetches_le bounded store maxSlots
  · intro going
    exact (accounts_run bounded going).counted
  · intro query response rest error going queue failed
    have accounts := accounts_run bounded going
    have tidy := tidy_run bounded store going
    generalize (start store maxSlots).run policy moves = i at *
    have asked : Accounts (policy.asking query).attempts.toNat i := accounts
    obtain ⟨_, _, _, slots, _, _, _, _, step⟩ := asked.respond_failure tidy queue failed
    have taken : (i.advance policy (.receive query)).stopped =
        (i.fetcher.respond (policy.asking query) response).stopped := by
      simp [advance, going, queue, Fetcher.handle]
    rw [taken, step]
    change (if i.failures response.range + 1 = policy.attempts.toNat then _ else _ : Step σ).stopped = _
    split <;> rfl
  · intro range attempts error stopped
    exact exhausted_run bounded sound stopped
  · intro outcome member
    cases initial : Store.latest store with
    | error e =>
      have quiet : Quiet store ((start store maxSlots).run policy moves) := quiet_run initial
      rw [quiet.outcomes] at member
      cases member
    | ok latest =>
      have orderly : Orderly (fun range c => ∃ answers, Move.finish range answers ∈ moves ∧
          answers.fetch range = .ok c) (latest.getD 0) store
            ((start store maxSlots).run policy moves) := by
        apply orderly_run initial
        intro range answers made c come
        exact ⟨answers, made, come⟩
      obtain ⟨detector, before, c, ⟨answers, made, come⟩, same⟩ :=
        Commit.eq_chunk_of_succession orderly.succession member
      exact ⟨detector, before, answers, c, same, made, come, Answers.heights_of_fetch come⟩

end Run

/-- The second of three ranges fails as often as it may; the first is committed and the third is not. -/
theorem retries_until_exhausted :
    let low : HeightRange := ⟨1, 1, by decide, by decide⟩
    let middle : HeightRange := ⟨2, 2, by decide, by decide⟩
    let high : HeightRange := ⟨3, 3, by decide, by decide⟩
    let unasked := fun _ => .error (.rpc "offline")
    let moves : List Move := [.tick (.ok 3), .finish high Chain.plain.answers, .receive unasked,
      .finish low Chain.plain.answers, .receive unasked, .finish middle Answers.offline, .receive unasked,
      .wake middle, .finish middle Answers.offline, .receive unasked]
    let i := (start MemoryStore.empty 3).run (Policy.plain 1 2) moves
    Retries (Policy.plain 1 2) MemoryStore.empty moves i ∧
      i.stopped = some (.rangeExhausted middle 2 (.node (.rpc "offline"))) ∧
      Exhausted 2 MemoryStore.empty i middle ∧ i.delivered = [high, low] ∧
      Commit.committed i.outcomes = [low] := by
  intro low middle high unasked moves i
  have sound : Sound MemoryStore.empty := MemoryStore.blank_empty.sound
  have bounded : ∀ remote, Move.tick (.ok remote) ∈ moves → remote < Height.greatest := by
    intro remote member
    have three : remote = 3 := by simpa [moves] using member
    rw [three]
    decide
  have retries : Retries (Policy.plain 1 2) MemoryStore.empty moves i := retries_run bounded sound 3
  have stopped : i.stopped = some (.rangeExhausted middle 2 (.node (.rpc "offline"))) := by
    decide +kernel
  exact ⟨retries, stopped, (retries.exhausted _ _ _ stopped).2, by decide +kernel, by decide +kernel⟩

end Ingestion

end TokenIndexer
