import TokenIndexer.Proofs.Ingest.Reservation

/-!
As long as ingestion goes on, the ranges that a response is still to come for are those of the slots without a
chunk, each one once.
-/

namespace TokenIndexer

def unfilled (slots : List RangeSlot) : List HeightRange :=
  (slots.filter fun slot => slot.chunk.isNone).map (·.range)

theorem unfilled_append (front back : List RangeSlot) :
    unfilled (front ++ back) = unfilled front ++ unfilled back := by
  simp [unfilled]

theorem unfilled_cons_none {slot : RangeSlot} (empty : slot.chunk = none) (rest : List RangeSlot) :
    unfilled (slot :: rest) = slot.range :: unfilled rest := by
  simp [unfilled, empty]

theorem unfilled_cons_some {slot : RangeSlot} (filled : slot.chunk ≠ none) (rest : List RangeSlot) :
    unfilled (slot :: rest) = unfilled rest := by
  simp [unfilled, filled]

theorem unfilled_eq_nil {slots : List RangeSlot} (filled : ∀ slot ∈ slots, slot.chunk ≠ none) :
    unfilled slots = [] := by
  rw [unfilled, List.filter_eq_nil_iff.2 fun slot member => by simpa using filled slot member]
  rfl

theorem unfilled_reserved (ranges : List HeightRange) :
    unfilled (ranges.map RangeSlot.reserved) = ranges := by
  simp [unfilled, List.filter_map, RangeSlot.reserved, Function.comp_def]

theorem mem_unfilled {slots : List RangeSlot} {range : HeightRange} :
    range ∈ unfilled slots ↔ ∃ slot ∈ slots, slot.chunk = none ∧ slot.range = range := by
  simp [unfilled, and_assoc]

theorem length_unfilled_le (slots : List RangeSlot) : (unfilled slots).length ≤ slots.length := by
  rw [unfilled, List.length_map]
  exact List.length_filter_le _ _

theorem eq_of_ascending {slots : List RangeSlot} (ascending : Ascending (slots.map (·.range)))
    {a b : RangeSlot} (one : a ∈ slots) (other : b ∈ slots) (same : a.range.first = b.range.first) :
    a = b := by
  have distinct : (slots.map (·.range.first)).Nodup := by
    refine List.pairwise_map.2 ((List.pairwise_map.1 ascending).imp fun {a b} below equal => ?_)
    rw [← equal] at below
    exact UInt64.not_le.2 below a.range.ordered
  exact List.inj_on_of_nodup_map distinct one other same

theorem nodup_of_ascending {ranges : List HeightRange} (ascending : Ascending ranges) : ranges.Nodup := by
  refine ascending.imp fun {a b} below equal => ?_
  rw [← equal] at below
  exact UInt64.not_le.2 below a.ordered

theorem nodup_unfilled {slots : List RangeSlot} (ascending : Ascending (slots.map (·.range))) :
    (unfilled slots).Nodup :=
  (nodup_of_ascending ascending).sublist (List.filter_sublist.map _)

namespace SlotBuffer

theorem position?_of_ascending {buffer : SlotBuffer}
    (ascending : Ascending (buffer.slots.map (·.range))) {slot : RangeSlot} (member : slot ∈ buffer.slots) :
    ∃ index, buffer.position? slot.range.first = some index ∧ buffer.slots[index]? = some slot := by
  have sorted : buffer.slots.Pairwise fun a b => a.range.first ≤ b.range.first := by
    refine (List.pairwise_map.1 ascending).imp fun {a b} below => ?_
    exact UInt64.le_trans a.range.ordered (UInt64.le_of_lt below)
  obtain ⟨index, found⟩ := position?_of_mem sorted member rfl
  obtain ⟨other, present, same⟩ := first_eq_of_position? found
  rw [eq_of_ascending ascending (List.mem_of_getElem? present) member same] at present
  exact ⟨index, found, present⟩

end SlotBuffer

theorem Fetcher.lt_firstMissing {σ : Type} {f : Fetcher σ} (stored : Height)
    (ascending : Ascending (f.slots.slots.map (·.range)))
    (below : ∀ slot ∈ f.slots.slots, slot.range.last < Height.greatest) {slot : RangeSlot}
    (member : slot ∈ f.slots.slots) : slot.range.last < f.firstMissing stored := by
  rcases List.eq_nil_or_concat f.slots.slots with empty | ⟨front, final, shape⟩
  · rw [empty] at member
    cases member
  · rw [List.concat_eq_append] at shape
    have bound := below final (by simp [shape])
    have reached : slot.range.last ≤ final.range.last := by
      rw [shape] at member ascending
      rcases List.mem_append.1 member with early | last
      · rw [List.map_append, List.map_singleton] at ascending
        have before := (List.pairwise_append.1 ascending).2.2 _ (List.mem_map_of_mem early) _
          (List.mem_singleton_self _)
        exact UInt64.le_trans (UInt64.le_of_lt before) final.range.ordered
      · rw [List.mem_singleton.1 last]
        exact UInt64.le_refl _
    have next : final.range.last.next ≤ f.firstMissing stored := by
      rw [firstMissing, SlotBuffer.nextHeight?, shape, List.getLast?_concat, Option.map_some]
      change _ ≤ if _ ≤ _ then _ else _
      split
      · next low => exact low
      · exact UInt64.le_refl _
    rw [UInt64.lt_iff_toNat_lt, Height.toNat_greatest] at bound
    rw [UInt64.le_iff_toNat_le] at reached next
    rw [Height.toNat_next] at next
    rw [UInt64.lt_iff_toNat_lt]
    omega

namespace Ingestion

variable {σ : Type} {policy : Policy} {maxSlots : Nat} {i : Ingestion σ}

/-- The buffer in order, with a response to come for exactly what is missing in it. -/
structure Tidy (maxSlots : Nat) (i : Ingestion σ) : Prop where
  limit : i.fetcher.slots.limit = max maxSlots 1
  room : i.fetcher.slots.slots.length ≤ i.fetcher.slots.limit
  ascending : Ascending (i.fetcher.slots.slots.map (·.range))
  below : ∀ slot ∈ i.fetcher.slots.slots, slot.range.last < Height.greatest
  waiting : i.fetcher.slots.pop? = none
  matched : i.outstanding.Perm (unfilled i.fetcher.slots.slots)

theorem tidy_start (store : σ) (maxSlots : Nat) : Tidy maxSlots (start store maxSlots) where
  limit := rfl
  room := Nat.zero_le _
  ascending := List.Pairwise.nil
  below := fun _ none => nomatch none
  waiting := rfl
  matched := List.Perm.nil

/-- What a response is to come for may move around among the waiting, the working and the delivered. -/
theorem Tidy.moved (tidy : Tidy maxSlots i) {j : Ingestion σ} (same : j.fetcher = i.fetcher)
    (moved : j.outstanding.Perm i.outstanding) : Tidy maxSlots j where
  limit := same ▸ tidy.limit
  room := same ▸ tidy.room
  ascending := same ▸ tidy.ascending
  below := same ▸ tidy.below
  waiting := same ▸ tidy.waiting
  matched := same ▸ moved.trans tidy.matched

theorem Tidy.wake (tidy : Tidy maxSlots i) {range : HeightRange} (waiting : range ∈ i.delayed) :
    Tidy maxSlots { i with delayed := i.delayed.erase range, running := i.running ++ [range] } := by
  refine tidy.moved rfl (List.perm_iff_count.2 fun other => ?_)
  have taken := (List.perm_cons_erase waiting).count_eq other
  simp only [outstanding, List.count_append, List.count_cons, List.count_nil] at taken ⊢
  omega

theorem Tidy.finish (tidy : Tidy maxSlots i) {range : HeightRange} {answers : Answers}
    (busy : range ∈ i.running) :
    Tidy maxSlots
      { i with
        running := i.running.erase range
        arrived := i.arrived ++ [⟨range, answers.fetch range⟩] } := by
  refine tidy.moved rfl (List.perm_iff_count.2 fun other => ?_)
  have taken := (List.perm_cons_erase busy).count_eq other
  simp only [outstanding, List.map_append, List.map_cons, List.map_nil, List.count_append,
    List.count_cons, List.count_nil] at taken ⊢
  omega

theorem Tidy.slot_of_arrived (tidy : Tidy maxSlots i) {response : Response}
    (come : response ∈ i.arrived) :
    ∃ slot ∈ i.fetcher.slots.slots, slot.chunk = none ∧ slot.range = response.range := by
  have expected : response.range ∈ i.outstanding :=
    List.mem_append_right _ (List.mem_map_of_mem come)
  exact mem_unfilled.1 (tidy.matched.mem_iff.1 expected)

variable [Store σ]

theorem Tidy.tick (tidy : Tidy maxSlots i) (remote : Except NodeError Height)
    (bounded : ∀ height, remote = .ok height → height < Height.greatest) :
    Tidy maxSlots (i.take policy (.tick remote)) := by
  rcases Fetcher.tick_cases policy remote i.fetcher with
    ⟨stopped, idle⟩ | ⟨stored, height, vacant, _, same, _, _, step⟩
  · refine tidy.moved ?_ ?_
    · rw [fetcher_take, Fetcher.handle, idle]
    · simp [outstanding, Fetcher.handle, idle]
  · have handled : i.fetcher.handle policy (.tick remote) =
        i.fetcher.reserving policy (i.fetcher.firstMissing stored) height := step
    have reaches : ∀ range ∈ i.fetcher.reservedBy policy (i.fetcher.firstMissing stored) height,
        range.last < Height.greatest := fun range member =>
      UInt64.lt_of_le_of_lt (SlotBuffer.last_le_of_mem_reserve member) (bounded height same)
    refine { limit := ?_, room := ?_, ascending := ?_, below := ?_, waiting := ?_, matched := ?_ }
    · rw [fetcher_take, handled]
      exact tidy.limit
    · rw [fetcher_take, handled]
      exact SlotBuffer.length_reserve_le tidy.room
    · rw [fetcher_take, handled, Fetcher.slots_reserving, List.map_append,
        RangeSlot.map_range_reserved]
      refine List.pairwise_append.2 ⟨tidy.ascending, SlotBuffer.ascending_reserve _ _ _ _, ?_⟩
      intro old earlier new later
      obtain ⟨slot, member, rfl⟩ := List.mem_map.1 earlier
      have start := start_le_of_consecutive (SlotBuffer.consecutive_reserve _ _ _ _) later
      exact UInt64.lt_of_lt_of_le (Fetcher.lt_firstMissing stored tidy.ascending tidy.below member) start
    · intro slot member
      rw [fetcher_take, handled, Fetcher.slots_reserving] at member
      rcases List.mem_append.1 member with old | new
      · exact tidy.below slot old
      · obtain ⟨range, reserved, rfl⟩ := List.mem_map.1 new
        exact reaches range reserved
    · rw [SlotBuffer.pop?_eq_none_iff, fetcher_take, handled, SlotBuffer.front?,
        Fetcher.slots_reserving]
      intro slot front
      have waiting := SlotBuffer.pop?_eq_none_iff.1 tidy.waiting slot
      rw [SlotBuffer.front?] at waiting
      cases shape : i.fetcher.slots.slots with
      | nil =>
        rw [shape, List.nil_append] at front
        obtain ⟨range, _, rfl⟩ := List.mem_map.1 (List.mem_of_head? front)
        rfl
      | cons head rest =>
        rw [shape] at front waiting
        exact waiting front
    · rw [fetcher_take, handled, Fetcher.slots_reserving, unfilled_append, unfilled_reserved]
      refine List.Perm.trans ?_ (tidy.matched.append_right _)
      refine List.perm_iff_count.2 fun other => ?_
      simp only [outstanding, delayed_take, running_take, arrived_take, handled,
        Fetcher.outright_reserving, Fetcher.delayed_reserving, List.map_nil, List.append_nil,
        List.count_append]
      omega

/-- A chunk that fills its slot, and the complete slots that leave then. -/
theorem Tidy.fill (tidy : Tidy maxSlots i) {response : Response} {rest : List Response}
    (queue : i.arrived = response :: rest) {front back : List RangeSlot} {slot : RangeSlot}
    {chunk : Chunk} (shape : i.fetcher.slots.slots = front ++ slot :: back) (empty : slot.chunk = none)
    (same : slot.range = response.range)
    (handled : i.fetcher.handle policy (.response response) = Fetcher.commitReady policy
      { i.fetcher with slots :=
        { i.fetcher.slots with slots := front ++ { slot with chunk := some chunk } :: back } })
    (going : (i.fetcher.handle policy (.response response)).stopped = none) :
    Tidy maxSlots (take policy { i with arrived := rest } (.response response)) := by
  have drained := Fetcher.drained_commitReady (fun _ _ => True) policy
    { i.fetcher with slots :=
      { i.fetcher.slots with slots := front ++ { slot with chunk := some chunk } :: back } }
    fun _ _ _ _ => trivial
  rw [← handled] at drained
  obtain ⟨ready, remaining, _, complete⟩ := drained.slots
  have ranges : i.fetcher.slots.slots.map (·.range) = ready.map (·.range) ++
      (i.fetcher.handle policy (.response response)).fetcher.slots.slots.map (·.range) := by
    rw [← List.map_append, ← remaining, shape]
    simp
  have ascending := tidy.ascending
  have matched := tidy.matched
  rw [ranges] at ascending
  refine { limit := ?_, room := ?_, ascending := ?_, below := ?_, waiting := ?_, matched := ?_ }
  · exact drained.limit.trans tidy.limit
  · have room := tidy.room
    have lengths := congrArg List.length ranges
    simp only [List.length_append, List.length_map] at lengths
    rw [fetcher_take, drained.limit]
    change (i.fetcher.handle policy (.response response)).fetcher.slots.slots.length ≤
      i.fetcher.slots.limit
    omega
  · exact (List.pairwise_append.1 ascending).2.1
  · intro s member
    have known : s.range ∈ i.fetcher.slots.slots.map (·.range) := by
      rw [ranges]
      exact List.mem_append_right _ (List.mem_map_of_mem member)
    obtain ⟨old, present, equal⟩ := List.mem_map.1 known
    rw [← equal]
    exact tidy.below old present
  · exact (drained.going going).2
  · have left : unfilled (i.fetcher.handle policy (.response response)).fetcher.slots.slots =
        unfilled front ++ unfilled back := by
      have whole := congrArg unfilled remaining
      rw [unfilled_append, unfilled_append, unfilled_eq_nil complete,
        unfilled_cons_some (by simp)] at whole
      exact whole.symm
    rw [fetcher_take, left]
    refine List.perm_iff_count.2 fun other => ?_
    have counted := matched.count_eq other
    rw [shape, unfilled_append, unfilled_cons_none empty, same] at counted
    simp only [outstanding, queue, delayed_take, running_take, arrived_take, drained.assigned,
      List.filter_nil, List.map_nil, List.append_nil, List.map_cons, List.count_append,
      List.count_cons] at counted ⊢
    omega

theorem Tidy.fail (tidy : Tidy maxSlots i) {response : Response} {rest : List Response}
    (queue : i.arrived = response :: rest) {front back : List RangeSlot} {slot : RangeSlot}
    {failures : UInt32} (shape : i.fetcher.slots.slots = front ++ slot :: back)
    (empty : slot.chunk = none)
    (handled : i.fetcher.handle policy (.response response) =
      ⟨{ i.fetcher with slots :=
          { i.fetcher.slots with slots := front ++ { slot with failures := failures } :: back } },
        [⟨response.range, true⟩], [], none⟩) :
    Tidy maxSlots (take policy { i with arrived := rest } (.response response)) := by
  have ranges : i.fetcher.slots.slots.map (·.range) =
      (front ++ { slot with failures := failures } :: back).map (·.range) := by
    simp [shape]
  have ascending := tidy.ascending
  rw [ranges] at ascending
  refine { limit := ?_, room := ?_, ascending := ?_, below := ?_, waiting := ?_, matched := ?_ }
  · rw [fetcher_take, handled]
    exact tidy.limit
  · have lengths := congrArg List.length ranges
    simp only [List.length_map] at lengths
    rw [fetcher_take, handled]
    exact lengths ▸ tidy.room
  · rw [fetcher_take, handled]
    exact ascending
  · intro s member
    rw [fetcher_take, handled] at member
    have known : s.range ∈ i.fetcher.slots.slots.map (·.range) := by
      rw [ranges]
      exact List.mem_map_of_mem member
    obtain ⟨old, present, equal⟩ := List.mem_map.1 known
    rw [← equal]
    exact tidy.below old present
  · have waiting := tidy.waiting
    rw [SlotBuffer.pop?_eq_none_iff, SlotBuffer.front?] at waiting ⊢
    rw [shape] at waiting
    rw [fetcher_take, handled]
    intro s first
    cases front with
    | nil =>
      cases first
      exact empty
    | cons head tail => exact waiting s first
  · have still : { slot with failures := failures }.chunk = none := empty
    have kept : unfilled (front ++ { slot with failures := failures } :: back) =
        unfilled i.fetcher.slots.slots := by
      rw [shape, unfilled_append, unfilled_append, unfilled_cons_none empty, unfilled_cons_none still]
    rw [fetcher_take, handled]
    change List.Perm _ (unfilled (front ++ { slot with failures := failures } :: back))
    rw [kept]
    refine List.Perm.trans (List.perm_iff_count.2 fun other => ?_) tidy.matched
    simp only [outstanding, queue, delayed_take, running_take, arrived_take, handled]
    simp only [List.filter_cons, List.filter_nil, Bool.not_true, Bool.false_eq_true, ite_true, ite_false,
      List.map_cons, List.map_nil, List.append_nil, List.count_append, List.count_cons, List.count_nil]
    omega

theorem Tidy.receive (tidy : Tidy maxSlots i) {response : Response} {rest : List Response}
    (queue : i.arrived = response :: rest)
    (going : (take policy { i with arrived := rest } (.response response)).stopped = none) :
    Tidy maxSlots (take policy { i with arrived := rest } (.response response)) := by
  obtain ⟨own, present, empty, same⟩ := tidy.slot_of_arrived (queue ▸ List.mem_cons_self)
  rw [stopped_take] at going
  rcases Fetcher.respond_cases policy response i.fetcher with
    ⟨_, missed⟩ | ⟨chunk, slots, _, filled, step⟩ | ⟨error, attempts, slots, _, failed, step⟩
  · obtain ⟨index, found, _⟩ := SlotBuffer.position?_of_ascending tidy.ascending present
    rw [same, missed] at found
    cases found
  · obtain ⟨front, slot, back, shape, first, rfl⟩ := SlotBuffer.fill?_eq_some filled
    obtain rfl : slot = own :=
      eq_of_ascending tidy.ascending (by simp [shape]) present (by rw [first, same])
    exact tidy.fill queue shape empty same step going
  · obtain ⟨front, slot, back, shape, first, _, rfl⟩ := SlotBuffer.fail?_eq_some failed
    obtain rfl : slot = own :=
      eq_of_ascending tidy.ascending (by simp [shape]) present (by rw [first, same])
    split at step
    · rw [Fetcher.handle, step] at going
      cases going
    · exact tidy.fail queue shape empty step

theorem tidy_run {moves : List Move}
    (bounded : ∀ remote, Move.tick (.ok remote) ∈ moves → remote < Height.greatest) (store : σ)
    (going : ((start store maxSlots).run policy moves).stopped = none) :
    Tidy maxSlots ((start store maxSlots).run policy moves) := by
  suffices kept : ((start store maxSlots).run policy moves).stopped = none →
      Tidy maxSlots ((start store maxSlots).run policy moves) from kept going
  refine run_preserves (fun i => i.stopped = none → Tidy maxSlots i)
    (fun _ => tidy_start store maxSlots) ?_
  intro i move member tidy
  refine advance_preserves (fun i => i.stopped = none → Tidy maxSlots i) i move tidy ?_ ?_ ?_ ?_
  · rintro remote rfl going _
    exact (tidy going).tick remote fun height same => bounded height (same ▸ member)
  · intro range waiting going
    exact (tidy going).wake waiting
  · intro range answers _ busy going
    exact (tidy going).finish busy
  · intro query response rest queue going stillGoing
    exact (tidy going).receive queue stillGoing

/-- Slots and workers in balance, between two steps of the fetcher. -/
structure Balanced (maxSlots : Nat) (i : Ingestion σ) : Prop where
  room : i.fetcher.slots.slots.length ≤ max maxSlots 1
  /-- A slot without a chunk has one assignment: it waits, is worked on, or is delivered. -/
  assigned : ∀ slot ∈ i.fetcher.slots.slots, slot.chunk = none → i.outstanding.count slot.range = 1
  filled : ∀ slot ∈ i.fetcher.slots.slots, slot.chunk ≠ none → slot.range ∉ i.outstanding
  /-- There are no other assignments. -/
  reserved : ∀ range ∈ i.outstanding, ∃ slot ∈ i.fetcher.slots.slots,
    slot.range = range ∧ slot.chunk = none
  front : ∀ slot, i.fetcher.slots.front? = some slot → slot.chunk = none
  /-- A response that is delivered is found its slot, and overwrites no chunk. -/
  taken : ∀ response ∈ i.arrived, ∃ index slot,
    i.fetcher.slots.position? response.range.first = some index ∧
      i.fetcher.slots.slots[index]? = some slot ∧ slot.range = response.range ∧ slot.chunk = none
  /-- All responses that are still to come fit in where they wait for the fetcher. -/
  inFlight : i.outstanding.length ≤ Fetcher.responseRoom maxSlots

theorem balanced_run {moves : List Move}
    (bounded : ∀ remote, Move.tick (.ok remote) ∈ moves → remote < Height.greatest) (store : σ)
    (going : ((start store maxSlots).run policy moves).stopped = none) :
    Balanced maxSlots ((start store maxSlots).run policy moves) := by
  have tidy := tidy_run bounded store going
  generalize (start store maxSlots).run policy moves = i at tidy
  have room := tidy.limit ▸ tidy.room
  refine { room := room, assigned := ?_, filled := ?_, reserved := ?_, front := ?_, taken := ?_,
           inFlight := ?_ }
  · intro slot member empty
    rw [tidy.matched.count_eq]
    exact List.count_eq_one_of_mem (nodup_unfilled tidy.ascending)
      (mem_unfilled.2 ⟨slot, member, empty, rfl⟩)
  · intro slot member filled assigned
    obtain ⟨other, present, empty, same⟩ := mem_unfilled.1 (tidy.matched.mem_iff.1 assigned)
    rw [eq_of_ascending tidy.ascending present member (congrArg _ same)] at empty
    exact filled empty
  · intro range assigned
    obtain ⟨slot, member, empty, same⟩ := mem_unfilled.1 (tidy.matched.mem_iff.1 assigned)
    exact ⟨slot, member, same, empty⟩
  · exact SlotBuffer.pop?_eq_none_iff.1 tidy.waiting
  · intro response come
    obtain ⟨slot, member, empty, same⟩ := tidy.slot_of_arrived come
    obtain ⟨index, found, present⟩ := SlotBuffer.position?_of_ascending tidy.ascending member
    exact ⟨index, slot, same ▸ found, present, same, empty⟩
  · rw [tidy.matched.length_eq]
    exact (length_unfilled_le _).trans room

/-- The range above has come in, and the one below has failed and waits. -/
theorem balanced_after_failure :
    let low : HeightRange := ⟨1, 1, by decide, by decide⟩
    let high : HeightRange := ⟨2, 2, by decide, by decide⟩
    let unasked := fun _ => .error (.rpc "offline")
    let moves : List Move := [.tick (.ok 2), .finish high Chain.plain.answers, .receive unasked,
      .finish low Answers.offline, .receive unasked]
    let i := (start MemoryStore.empty 2).run (Policy.plain 1 3) moves
    (∀ remote, Move.tick (.ok remote) ∈ moves → remote < Height.greatest) ∧ i.stopped = none ∧
      Balanced 2 i ∧ i.outstanding = [low] := by
  intro low high unasked moves i
  have bounded : ∀ remote, Move.tick (.ok remote) ∈ moves → remote < Height.greatest := by
    intro remote member
    have two : remote = 2 := by simpa [moves] using member
    rw [two]
    decide
  have going : i.stopped = none := by decide +kernel
  exact ⟨bounded, going, balanced_run bounded MemoryStore.empty going, by decide +kernel⟩

end Ingestion

end TokenIndexer
