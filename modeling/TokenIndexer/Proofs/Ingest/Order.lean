import TokenIndexer.Proofs.Ingest.Schedule

/-!
Ingestion goes up the chain without a gap: the ranges that were reserved are those whose chunks went to the
store, in that order, and then those that are still in the buffer.
-/

namespace TokenIndexer

namespace Fetcher

variable {σ : Type} [Store σ] {f : Fetcher σ} {stored : Height}

theorem stored_of_latest {latest : Option Height} (read : Store.latest f.store = .ok latest) :
    f.stored = .ok (latest.getD 0) := by
  rw [Fetcher.stored, read]
  rfl

omit [Store σ] in
theorem firstMissing_eq_following {height : Height} (behind : stored < height)
    (consecutive : Consecutive stored.next (f.slots.slots.map (·.range))) :
    f.firstMissing stored = following stored.next (f.slots.slots.map (·.range)) := by
  have next := Height.next_of_lt behind
  rcases List.eq_nil_or_concat f.slots.slots with empty | ⟨front, slot, shape⟩
  · simp [firstMissing, SlotBuffer.nextHeight?, empty, following, next]
  · rw [List.concat_eq_append] at shape
    have ahead := start_le_following consecutive
    rw [shape, List.map_append, List.map_singleton, following_concat] at ahead ⊢
    rw [next] at ahead
    simp only [firstMissing, SlotBuffer.nextHeight?, shape, List.getLast?_concat, Option.map_some]
    change (if _ ≤ _ then _ else _) = _
    split
    · next low => exact UInt64.le_antisymm ahead low
    · rfl

end Fetcher

namespace Ingestion

variable {σ : Type} [Store σ] {Valid : HeightRange → Chunk → Prop} {bottom : Height} {store : σ}
  {policy : Policy} {i : Ingestion σ}

/-- Ingestion in order from above `bottom` on, where what workers deliver is valid for their ranges. -/
structure Orderly (Valid : HeightRange → Chunk → Prop) (bottom : Height) (store : σ)
    (i : Ingestion σ) : Prop where
  accounted : i.reserved = i.outcomes.map (·.range) ++ i.fetcher.slots.slots.map (·.range)
  consecutive : Consecutive bottom.next i.reserved
  succession : Commit.Succession Valid store i.outcomes i.fetcher.store
  succeeded : i.stopped = none → ∀ outcome ∈ i.outcomes, outcome.Succeeded
  filled : ∀ slot ∈ i.fetcher.slots.slots, ∀ chunk, slot.chunk = some chunk → Valid slot.range chunk
  outstanding : ∀ range ∈ i.outstanding, range ∈ i.reserved
  delivered : ∀ response ∈ i.arrived, ∀ chunk, response.result = .ok chunk →
    Valid response.range chunk

theorem orderly_start (maxSlots : Nat) : Orderly Valid bottom store (start store maxSlots) where
  accounted := rfl
  consecutive := trivial
  succession := rfl
  succeeded := by simp [start, outcomes]
  filled := by simp [start, Fetcher.start, SlotBuffer.empty]
  outstanding := by simp [start, outstanding]
  delivered := by simp [start]

theorem Orderly.wake (orderly : Orderly Valid bottom store i) {range : HeightRange}
    (waiting : range ∈ i.delayed) :
    Orderly Valid bottom store
      { i with delayed := i.delayed.erase range, running := i.running ++ [range] } := by
  refine { orderly with outstanding := fun other member => orderly.outstanding other ?_ }
  simp only [Ingestion.outstanding, List.mem_append, List.mem_singleton] at member ⊢
  rcases member with (member | member | rfl) | member
  · exact .inl (.inl (List.mem_of_mem_erase member))
  · exact .inl (.inr member)
  · exact .inl (.inl waiting)
  · exact .inr member

theorem Orderly.finish (orderly : Orderly Valid bottom store i) {range : HeightRange}
    {answers : Answers} (busy : range ∈ i.running)
    (valid : ∀ chunk, answers.fetch range = .ok chunk → Valid range chunk) :
    Orderly Valid bottom store
      { i with
        running := i.running.erase range
        arrived := i.arrived ++ [⟨range, answers.fetch range⟩] } := by
  refine { orderly with outstanding := fun other member => orderly.outstanding other ?_, delivered := ?_ }
  · simp only [Ingestion.outstanding, List.map_append, List.map_cons, List.map_nil, List.mem_append,
      List.mem_singleton] at member ⊢
    rcases member with (member | member) | member | rfl
    · exact .inl (.inl member)
    · exact .inl (.inr (List.mem_of_mem_erase member))
    · exact .inr member
    · exact .inl (.inr busy)
  · intro response member chunk come
    rcases List.mem_append.1 member with member | last
    · exact orderly.delivered response member chunk come
    · rw [List.mem_singleton.1 last] at come ⊢
      exact valid chunk come

theorem Orderly.take_idle (orderly : Orderly Valid bottom store i) (going : i.stopped = none)
    {signal : Signal} {stopped : Option FetchError}
    (idle : i.fetcher.handle policy signal = ⟨i.fetcher, [], [], stopped⟩) :
    Orderly Valid bottom store (i.take policy signal) where
  accounted := by simpa [idle] using orderly.accounted
  consecutive := by simpa [idle] using orderly.consecutive
  succession := by simpa [idle] using orderly.succession
  succeeded := by simpa [idle] using fun _ => orderly.succeeded going
  filled := by simpa [idle] using orderly.filled
  outstanding := by simpa [idle, Ingestion.outstanding] using orderly.outstanding
  delivered := orderly.delivered

theorem Orderly.stored_eq [Store.Marked σ] {latest : Option Height}
    (initial : Store.latest store = .ok latest) (orderly : Orderly Valid bottom store i) :
    i.fetcher.stored =
      .ok (((Commit.committed i.outcomes).getLast?.map (·.last)).getD (latest.getD 0)) := by
  rw [Fetcher.stored_of_latest (Commit.latest_of_succession initial orderly.succession), Option.getD_or]

theorem Orderly.firstMissing_eq [Store.Marked σ]
    {latest : Option Height} (initial : Store.latest store = .ok latest)
    (orderly : Orderly Valid (latest.getD 0) store i) (going : i.stopped = none) {stored height : Height}
    (read : i.fetcher.stored = .ok stored) (behind : stored < height) :
    i.fetcher.firstMissing stored = following (latest.getD 0).next i.reserved := by
  have ends := read.symm.trans (orderly.stored_eq initial)
  rw [Except.ok.injEq, Commit.committed_of_succeeded (orderly.succeeded going)] at ends
  have next := congrArg Height.next ends
  rw [← following_next] at next
  have consecutive := orderly.consecutive
  rw [orderly.accounted, consecutive_append, ← next] at consecutive
  rw [orderly.accounted, following_append, ← next]
  exact Fetcher.firstMissing_eq_following behind consecutive.2

theorem Orderly.tick [Store.Marked σ]
    {latest : Option Height} (initial : Store.latest store = .ok latest)
    (orderly : Orderly Valid (latest.getD 0) store i) (going : i.stopped = none)
    (remote : Except NodeError Height) :
    Orderly Valid (latest.getD 0) store (i.take policy (.tick remote)) := by
  rcases Fetcher.tick_cases policy remote i.fetcher with
    ⟨stopped, idle⟩ | ⟨stored, height, _, read, _, behind, _, step⟩
  · exact orderly.take_idle going idle
  · have first := orderly.firstMissing_eq initial going read behind
    have further := SlotBuffer.consecutive_reserve i.fetcher.slots (i.fetcher.firstMissing stored)
      height policy.maxChunkSize
    have handled : i.fetcher.handle policy (.tick remote) =
        i.fetcher.reserving policy (i.fetcher.firstMissing stored) height := step
    refine { accounted := ?_, consecutive := ?_, succession := ?_, succeeded := ?_, filled := ?_,
             outstanding := ?_, delivered := orderly.delivered }
    · simp [handled, orderly.accounted, Function.comp_def, RangeSlot.reserved]
    · rw [reserved_take, handled, Fetcher.outright_reserving, consecutive_append]
      exact ⟨orderly.consecutive, first ▸ further⟩
    · simpa [handled] using orderly.succession
    · simpa [handled] using orderly.succeeded going
    · intro slot member chunk present
      rw [fetcher_take, handled, Fetcher.slots_reserving] at member
      rcases List.mem_append.1 member with old | new
      · exact orderly.filled slot old chunk present
      · obtain ⟨range, _, rfl⟩ := List.mem_map.1 new
        cases present
    · intro range member
      have known := orderly.outstanding range
      simp only [Ingestion.outstanding, delayed_take, running_take, arrived_take, reserved_take,
        handled, Fetcher.outright_reserving, Fetcher.delayed_reserving, List.map_nil,
        List.append_nil, List.mem_append] at member known ⊢
      rcases member with (waiting | busy | new) | come
      · exact .inl (known (.inl (.inl waiting)))
      · exact .inl (known (.inl (.inr busy)))
      · exact .inr new
      · exact .inl (known (.inr come))

theorem Orderly.range_eq (orderly : Orderly Valid bottom store i) {response : Response}
    {rest : List Response} (queue : i.arrived = response :: rest) {slot : RangeSlot}
    (member : slot ∈ i.fetcher.slots.slots) (same : slot.range.first = response.range.first) :
    slot.range = response.range := by
  refine eq_of_first_eq orderly.consecutive ?_ (orderly.outstanding _ ?_) same
  · rw [orderly.accounted]
    exact List.mem_append_right _ (List.mem_map_of_mem member)
  · simp [Ingestion.outstanding, queue]

theorem Orderly.dequeue (orderly : Orderly Valid bottom store i) {response : Response}
    {rest : List Response} (queue : i.arrived = response :: rest) :
    Orderly Valid bottom store { i with arrived := rest } := by
  refine { orderly with outstanding := fun range member => orderly.outstanding range ?_,
                        delivered := fun r member => orderly.delivered r ?_ }
  · simp only [Ingestion.outstanding, queue, List.map_cons, List.mem_append, List.mem_cons] at member ⊢
    rcases member with earlier | come
    · exact .inl earlier
    · exact .inr (.inr come)
  · rw [queue]
    exact List.mem_cons_of_mem _ member

/-- A chunk that fills its range, and the chunks that can leave then. -/
theorem Orderly.fill (orderly : Orderly Valid bottom store i) (going : i.stopped = none)
    {signal : Signal} {slots : SlotBuffer} {front back : List RangeSlot} {slot : RangeSlot}
    {chunk : Chunk} (shape : i.fetcher.slots.slots = front ++ slot :: back)
    (filled : slots.slots = front ++ { slot with chunk := some chunk } :: back)
    (valid : Valid slot.range chunk)
    (handled : i.fetcher.handle policy signal =
      Fetcher.commitReady policy { i.fetcher with slots := slots }) :
    Orderly Valid bottom store (i.take policy signal) := by
  have validSlots : ∀ s ∈ slots.slots, ∀ c, s.chunk = some c → Valid s.range c := by
    intro s member c present
    have old := orderly.filled s
    rw [filled] at member
    simp only [shape, List.mem_append, List.mem_cons] at member old
    rcases member with member | rfl | member
    · exact old (.inl member) c present
    · cases present
      exact valid
    · exact old (.inr (.inr member)) c present
  have drained := Fetcher.drained_commitReady Valid policy { i.fetcher with slots := slots } validSlots
  rw [← handled] at drained
  obtain ⟨ready, rest, ranges, _⟩ := drained.slots
  have sameRanges : i.fetcher.slots.slots.map (·.range) = slots.slots.map (·.range) := by
    simp [shape, filled]
  refine { accounted := ?_, consecutive := ?_, succession := ?_, succeeded := ?_, filled := ?_,
           outstanding := ?_, delivered := orderly.delivered }
  · rw [reserved_take, drained.assigned, outcomes_take, fetcher_take, orderly.accounted, sameRanges,
      show slots.slots = _ from rest]
    simp [ranges]
  · simpa [drained.assigned] using orderly.consecutive
  · rw [outcomes_take, fetcher_take]
    exact Commit.succession_append orderly.succession (orderly.succeeded going) drained.succession
  · intro stillGoing outcome member
    rw [stopped_take] at stillGoing
    rw [outcomes_take] at member
    rcases List.mem_append.1 member with old | new
    · exact orderly.succeeded going outcome old
    · exact (drained.going stillGoing).1 outcome new
  · intro s member
    apply validSlots s
    rw [show slots.slots = _ from rest]
    exact List.mem_append_right _ member
  · simpa [drained.assigned, Ingestion.outstanding] using orderly.outstanding

theorem Orderly.fail (orderly : Orderly Valid bottom store i) (going : i.stopped = none)
    {signal : Signal} {slots : SlotBuffer} {front back : List RangeSlot} {slot : RangeSlot}
    {failures : UInt32} (shape : i.fetcher.slots.slots = front ++ slot :: back)
    (failed : slots.slots = front ++ { slot with failures := failures } :: back)
    {assigned : List Assignment} {stopped : Option FetchError}
    (retried : assigned = [] ∨ assigned = [⟨slot.range, true⟩])
    (handled : i.fetcher.handle policy signal =
      ⟨{ i.fetcher with slots := slots }, assigned, [], stopped⟩) :
    Orderly Valid bottom store (i.take policy signal) := by
  have noneOutright : assigned.filter (fun a => !a.delayed) = [] := by
    rcases retried with rfl | rfl <;> rfl
  have known : slot.range ∈ i.reserved := by
    simp [orderly.accounted, shape]
  refine { accounted := ?_, consecutive := ?_, succession := ?_, succeeded := ?_, filled := ?_,
           outstanding := ?_, delivered := orderly.delivered }
  · simp [handled, noneOutright, orderly.accounted, shape, failed]
  · simpa [handled, noneOutright] using orderly.consecutive
  · simpa [handled] using orderly.succession
  · simpa [handled] using fun _ => orderly.succeeded going
  · intro s member c present
    have old := orderly.filled
    rw [fetcher_take, handled, failed] at member
    simp only [shape, List.mem_append, List.mem_cons] at member old
    rcases member with member | rfl | member
    · exact old s (.inl member) c present
    · exact old slot (.inr (.inl rfl)) c present
    · exact old s (.inr (.inr member)) c present
  · intro range member
    have reserved : (i.take policy signal).reserved = i.reserved := by simp [handled, noneOutright]
    rw [reserved]
    have old := orderly.outstanding range
    simp only [Ingestion.outstanding, delayed_take, running_take, arrived_take, handled, noneOutright,
      List.map_nil, List.append_nil, List.mem_append] at member old
    rcases member with ((waiting | again) | busy) | come
    · exact old (.inl (.inl waiting))
    · rcases retried with rfl | rfl
      · cases again
      · rw [List.mem_singleton.1 again]
        exact known
    · exact old (.inl (.inr busy))
    · exact old (.inr come)

theorem Orderly.receive (orderly : Orderly Valid bottom store i) (going : i.stopped = none)
    {response : Response} {rest : List Response} (queue : i.arrived = response :: rest) :
    Orderly Valid bottom store (take policy { i with arrived := rest } (.response response)) := by
  have dequeued := orderly.dequeue queue
  rcases Fetcher.respond_cases policy response i.fetcher with
    ⟨idle, _⟩ | ⟨chunk, slots, come, filled, step⟩ | ⟨error, attempts, slots, _, failed, step⟩
  · exact dequeued.take_idle going idle
  · obtain ⟨front, slot, back, shape, same, rfl⟩ := SlotBuffer.fill?_eq_some filled
    have range := orderly.range_eq queue (by simp [shape]) same
    refine dequeued.fill going shape rfl ?_ step
    rw [range]
    exact orderly.delivered response (by simp [queue]) chunk come
  · obtain ⟨front, slot, back, shape, same, _, rfl⟩ := SlotBuffer.fail?_eq_some failed
    have range := orderly.range_eq queue (by simp [shape]) same
    split at step
    · exact dequeued.fail going shape rfl (.inl rfl) step
    · exact dequeued.fail going shape rfl (.inr (by rw [range])) step

theorem orderly_advance [Store.Marked σ] {latest : Option Height}
    (initial : Store.latest store = .ok latest) (orderly : Orderly Valid (latest.getD 0) store i)
    {move : Move} (valid : ∀ range answers, move = .finish range answers →
      ∀ chunk, answers.fetch range = .ok chunk → Valid range chunk) :
    Orderly Valid (latest.getD 0) store (i.advance policy move) := by
  refine advance_preserves _ i move orderly ?_ ?_ ?_ ?_
  · intro remote _ going
    exact orderly.tick initial going remote
  · intro range waiting
    exact orderly.wake waiting
  · intro range answers same busy
    exact orderly.finish busy (valid range answers same)
  · intro query response rest queue going
    exact orderly.receive going queue

theorem orderly_run [Store.Marked σ] {latest : Option Height}
    (initial : Store.latest store = .ok latest) {moves : List Move}
    (valid : ∀ range answers, Move.finish range answers ∈ moves →
      ∀ chunk, answers.fetch range = .ok chunk → Valid range chunk) (maxSlots : Nat) :
    Orderly Valid (latest.getD 0) store ((start store maxSlots).run policy moves) := by
  refine run_preserves _ (orderly_start maxSlots) fun i move member orderly => ?_
  apply orderly_advance initial orderly
  rintro range answers rfl
  exact valid range answers member

end Ingestion

end TokenIndexer
