import Mathlib.Data.List.Induction
import TokenIndexer.Proofs.Ingest.Order
import TokenIndexer.Proofs.Store.Memory

/-!
What is reserved over a whole run ascends, with one exception: a range that ends at the greatest height may be
followed by that height again.
-/

namespace TokenIndexer.Ingestion

variable {σ : Type} [Store σ] {Valid : HeightRange → Chunk → Prop} {store : σ} {policy : Policy}
  {moves : List Move} {maxSlots : Nat}

theorem reserved_advance (policy : Policy) (i : Ingestion σ) (move : Move) :
    (i.advance policy move).reserved = i.reserved ∨
      ∃ stored height, move = .tick (.ok height) ∧ i.stopped = none ∧
        i.fetcher.slots.isFull = false ∧ i.fetcher.stored = .ok stored ∧ stored < height ∧
        (i.advance policy move).reserved =
          i.reserved ++ i.fetcher.reservedBy policy (i.fetcher.firstMissing stored) height := by
  by_cases going : i.stopped = none
  · have awake : ¬ i.stopped.isSome := by simp [going]
    cases move with
    | tick remote =>
      rw [advance, if_neg awake]
      rcases Fetcher.tick_cases policy remote i.fetcher with
        ⟨stopped, idle⟩ | ⟨stored, height, vacant, read, rfl, behind, _, step⟩
      · exact .inl (by simp [Fetcher.handle, idle])
      · refine .inr ⟨stored, height, rfl, going, vacant, read, behind, ?_⟩
        simp [Fetcher.handle, step]
    | wake range =>
      rw [advance, if_neg awake]
      left
      split <;> rfl
    | finish range answers =>
      rw [advance, if_neg awake]
      left
      split <;> rfl
    | receive query =>
      rw [advance, if_neg awake]
      left
      split
      · rfl
      · exact reserved_take_response _ _ _
  · left
    unfold advance
    rw [if_pos (Option.isSome_iff_ne_none.2 going)]

theorem reserved_prefix (policy : Policy) (moves : List Move) (i : Ingestion σ) :
    i.reserved <+: (i.run policy moves).reserved := by
  apply run_preserves (fun j => i.reserved <+: j.reserved) (List.prefix_refl _)
  intro j move _ ahead
  rcases reserved_advance policy j move with same | ⟨stored, height, _, _, _, _, _, more⟩
  · rw [same]
    exact ahead
  · rw [more]
    exact ahead.trans (List.prefix_append _ _)

theorem last_le_of_mem_reserved {range : HeightRange}
    (member : range ∈ ((start store maxSlots).run policy moves).reserved) :
    ∃ remote, Move.tick (.ok remote) ∈ moves ∧ range.last ≤ remote := by
  suffices reported : ∀ range ∈ ((start store maxSlots).run policy moves).reserved,
      ∃ remote, Move.tick (.ok remote) ∈ moves ∧ range.last ≤ remote from reported range member
  refine run_preserves (fun i => ∀ range ∈ i.reserved,
    ∃ remote, Move.tick (.ok remote) ∈ moves ∧ range.last ≤ remote) (fun _ none => nomatch none) ?_
  intro i move made reported
  rcases reserved_advance policy i move with same | ⟨stored, height, rfl, _, _, _, _, more⟩
  · rw [same]
    exact reported
  · rw [more]
    intro range member
    rcases List.mem_append.1 member with old | new
    · exact reported range old
    · exact ⟨height, made, SlotBuffer.last_le_of_mem_reserve new⟩

/-- No move has had any effect on the store or the buffer. -/
structure Quiet (store : σ) (i : Ingestion σ) : Prop where
  store : i.fetcher.store = store
  slots : i.fetcher.slots.slots = []
  assigned : i.assigned = []
  outcomes : i.outcomes = []
  outstanding : i.outstanding = []

/-- Where the latest height cannot be read nothing is ever reserved. -/
theorem quiet_run {error : StoreError} (unread : Store.latest store = .error error) :
    Quiet store ((start store maxSlots).run policy moves) := by
  apply run_preserves (Quiet store) ⟨rfl, rfl, rfl, rfl, rfl⟩
  intro i move _ quiet
  have none (range : HeightRange) : range ∉ i.outstanding := by simp [quiet.outstanding]
  refine advance_preserves (Quiet store) i move quiet ?_ ?_ ?_ ?_
  · intro remote _ _
    rcases Fetcher.tick_cases policy remote i.fetcher with
      ⟨stopped, idle⟩ | ⟨stored, height, _, read, _⟩
    · have handled : i.fetcher.handle policy (.tick remote) = ⟨i.fetcher, [], [], stopped⟩ := idle
      refine { store := ?_, slots := ?_, assigned := ?_, outcomes := ?_, outstanding := ?_ }
      · simpa [handled] using quiet.store
      · simpa [handled] using quiet.slots
      · simpa [handled] using quiet.assigned
      · simpa [handled] using quiet.outcomes
      · simpa [handled, outstanding] using quiet.outstanding
    · rw [Fetcher.stored, quiet.store, unread] at read
      cases read
  · intro range waiting
    exact absurd (by simp [outstanding, waiting]) (none range)
  · intro range answers _ busy
    exact absurd (by simp [outstanding, busy]) (none range)
  · intro query response rest queue _
    exact absurd (by simp [outstanding, queue]) (none response.range)

/-- There is room to reserve the greatest height, which the buffer holds already. -/
structure Retakes (i : Ingestion σ) : Prop where
  going : i.stopped = none
  vacant : i.fetcher.slots.isFull = false
  top : ∃ slot, i.fetcher.slots.slots.getLast? = some slot ∧ slot.range.last = Height.greatest

/-- At some point of a run the node reports the greatest height, and it is reserved again. -/
def TopRetaken (policy : Policy) (moves : List Move) (i : Ingestion σ) : Prop :=
  ∃ earlier later, moves = earlier ++ .tick (.ok Height.greatest) :: later ∧
    (i.run policy earlier).Retakes

variable [Store.Marked σ] {latest : Option Height} {i : Ingestion σ}

theorem reserved_eq_nil (initial : Store.latest store = .ok latest)
    (top : latest.getD 0 = Height.greatest) :
    ((start store maxSlots).run policy moves).reserved = [] := by
  suffices both : Orderly (fun _ _ => True) (latest.getD 0) store
      ((start store maxSlots).run policy moves) ∧
      ((start store maxSlots).run policy moves).reserved = [] from both.2
  refine run_preserves (fun i => Orderly (fun _ _ => True) (latest.getD 0) store i ∧
    i.reserved = []) ⟨orderly_start maxSlots, rfl⟩ ?_
  rintro i move _ ⟨orderly, nothing⟩
  refine ⟨orderly_advance initial orderly fun _ _ _ _ _ => trivial, ?_⟩
  rcases reserved_advance policy i move with same | ⟨stored, height, _, _, _, read, behind, _⟩
  · rw [same, nothing]
  · have accounted := orderly.accounted
    rw [nothing] at accounted
    have outcomes : i.outcomes = [] := List.map_eq_nil_iff.1 (List.append_eq_nil_iff.1 accounted.symm).1
    rw [orderly.stored_eq initial, outcomes, Except.ok.injEq] at read
    have stays : stored = Height.greatest := read.symm.trans top
    rw [stays] at behind
    exact absurd (Height.le_greatest height) (UInt64.not_le.2 behind)

theorem tiles_run (initial : Store.latest store = .ok latest)
    (bounded : ∀ remote, Move.tick (.ok remote) ∈ moves → remote < Height.greatest) (policy : Policy)
    (maxSlots : Nat) :
    Tiles ((latest.getD 0).toNat + 1) ((start store maxSlots).run policy moves).reserved := by
  have orderly : Orderly (fun _ _ => True) (latest.getD 0) store
      ((start store maxSlots).run policy moves) :=
    orderly_run initial (fun _ _ _ _ _ => trivial) maxSlots
  refine tiles_above orderly.consecutive fun range member => ?_
  obtain ⟨remote, made, reaches⟩ := last_le_of_mem_reserved member
  exact UInt64.lt_of_le_of_lt reaches (bounded remote made)

/-- Where the buffer is empty, everything that was reserved is committed. -/
theorem Orderly.stored_of_empty (initial : Store.latest store = .ok latest)
    (orderly : Orderly Valid (latest.getD 0) store i) (going : i.stopped = none)
    (empty : i.fetcher.slots.slots = []) {front : List HeightRange} {final : HeightRange}
    (shape : i.reserved = front ++ [final]) : i.fetcher.stored = .ok final.last := by
  have accounted := orderly.accounted
  rw [empty, List.map_nil, List.append_nil, shape] at accounted
  rw [orderly.stored_eq initial, Commit.committed_of_succeeded (orderly.succeeded going), ← accounted,
    List.getLast?_concat]
  rfl

/-- As long as the stored height is below another one, a range up to the greatest height is at the end
of the buffer when it is the last that was reserved. -/
theorem Orderly.top_of_reserved (initial : Store.latest store = .ok latest)
    (orderly : Orderly Valid (latest.getD 0) store i) (going : i.stopped = none) {stored height : Height}
    (read : i.fetcher.stored = .ok stored) (behind : stored < height) {front : List HeightRange}
    {final : HeightRange} (shape : i.reserved = front ++ [final]) (top : final.last = Height.greatest) :
    ∃ slot, i.fetcher.slots.slots.getLast? = some slot ∧ slot.range.last = Height.greatest := by
  rcases List.eq_nil_or_concat i.fetcher.slots.slots with empty | ⟨slots, slot, filled⟩
  · have stays := read.symm.trans (orderly.stored_of_empty initial going empty shape)
    rw [Except.ok.injEq, top] at stays
    rw [stays] at behind
    exact absurd (Height.le_greatest height) (UInt64.not_le.2 behind)
  · have accounted := orderly.accounted
    rw [filled, List.concat_eq_append, List.map_append, List.map_singleton, shape,
      ← List.append_assoc] at accounted
    have range : final = slot.range := List.singleton_inj.1 (List.append_inj' accounted rfl).2
    refine ⟨slot, by simp [filled], ?_⟩
    rw [← range, top]

theorem Orderly.ascending_advance (initial : Store.latest store = .ok latest)
    (orderly : Orderly Valid (latest.getD 0) store i) (ascending : Ascending i.reserved) {move : Move}
    (fresh : move = .tick (.ok Height.greatest) → ¬ i.Retakes) :
    Ascending (i.advance policy move).reserved := by
  rcases reserved_advance policy i move with same | ⟨stored, height, made, going, vacant, read, behind, more⟩
  · rw [same]
    exact ascending
  · rw [more]
    refine List.pairwise_append.2 ⟨ascending, SlotBuffer.ascending_reserve _ _ _ _, ?_⟩
    intro old earlier new later
    have further := SlotBuffer.consecutive_reserve i.fetcher.slots (i.fetcher.firstMissing stored)
      height policy.maxChunkSize
    have ahead : old.last.next ≤ new.first := by
      calc
        old.last.next ≤ following (latest.getD 0).next i.reserved :=
          next_le_following orderly.consecutive earlier
        _ = i.fetcher.firstMissing stored := (orderly.firstMissing_eq initial going read behind).symm
        _ ≤ new.first := start_le_of_consecutive further later
    by_cases top : old.last = Height.greatest
    · exfalso
      have reported : height = Height.greatest := by
        rw [top, Height.next_greatest] at ahead
        apply UInt64.le_antisymm (Height.le_greatest height)
        calc
          Height.greatest ≤ new.first := ahead
          _ ≤ new.last := new.ordered
          _ ≤ height := SlotBuffer.last_le_of_mem_reserve later
      apply fresh (by rw [made, reported])
      refine ⟨going, vacant, ?_⟩
      rcases List.eq_nil_or_concat i.reserved with nothing | ⟨front, final, shape⟩
      · rw [nothing] at earlier
        cases earlier
      · rw [List.concat_eq_append] at shape
        have last : old = final := eq_of_top (shape ▸ ascending) (shape ▸ earlier) top
        exact orderly.top_of_reserved initial going read behind shape (last ▸ top)
    · have bound := Height.toNat_le old.last
      rw [Height.eq_greatest_iff] at top
      rw [UInt64.le_iff_toNat_le, Height.toNat_next] at ahead
      rw [UInt64.lt_iff_toNat_lt]
      omega

theorem Orderly.behind_of_apart (initial : Store.latest store = .ok latest)
    (low : latest.getD 0 ≠ Height.greatest) (orderly : Orderly Valid (latest.getD 0) store i)
    (apart : Apart i.reserved) (retakes : i.Retakes) :
    ∃ stored, i.fetcher.stored = .ok stored ∧ stored < Height.greatest := by
  obtain ⟨slot, final, top⟩ := retakes.top
  refine ⟨_, orderly.stored_eq initial, UInt64.lt_of_le_of_ne (Height.le_greatest _) ?_⟩
  intro all
  cases last : (Commit.committed i.outcomes).getLast? with
  | none =>
    rw [last] at all
    exact low all
  | some range =>
    rw [last] at all
    rw [orderly.accounted, ← Commit.committed_of_succeeded (orderly.succeeded retakes.going)] at apart
    have waiting := List.mem_map_of_mem (f := (·.range)) (List.mem_of_getLast? final)
    exact not_apart_of_top (List.mem_of_getLast? last) waiting all top apart

theorem Orderly.not_apart_tick (initial : Store.latest store = .ok latest)
    (low : latest.getD 0 ≠ Height.greatest) (sized : policy.maxChunkSize ≠ 0)
    (orderly : Orderly Valid (latest.getD 0) store i) (retakes : i.Retakes) :
    ¬ Apart (i.advance policy (.tick (.ok Height.greatest))).reserved := by
  intro apart
  obtain ⟨later, whole⟩ := reserved_prefix policy [.tick (.ok Height.greatest)] i
  change _ = (i.advance policy (.tick (.ok Height.greatest))).reserved at whole
  have before : Apart i.reserved := by
    rw [← whole] at apart
    exact (List.pairwise_append.1 apart).1
  obtain ⟨stored, read, behind⟩ := orderly.behind_of_apart initial low before retakes
  obtain ⟨slot, final, top⟩ := retakes.top
  obtain ⟨slots, filled⟩ := List.getLast?_eq_some_iff.1 final
  have accounted := orderly.accounted
  rw [filled, List.map_append, List.map_singleton] at accounted
  have missing : i.fetcher.firstMissing stored = Height.greatest := by
    rw [orderly.firstMissing_eq initial retakes.going read behind, accounted, ← List.append_assoc,
      following_concat, top, Height.next_greatest]
  have step := Fetcher.tick_eq_reserving policy retakes.vacant read rfl behind
    (UInt64.le_of_eq missing)
  rw [missing] at step
  have taken : (i.advance policy (.tick (.ok Height.greatest))).reserved =
      i.reserved ++ i.fetcher.reservedBy policy Height.greatest Height.greatest := by
    simp [advance, retakes.going, Fetcher.handle, step]
  obtain ⟨new, rest, shape⟩ := List.exists_cons_of_ne_nil
    (SlotBuffer.reserve_ne_nil retakes.vacant (by decide) (UInt64.le_refl Height.greatest) sized)
  have further := SlotBuffer.consecutive_reserve i.fetcher.slots Height.greatest Height.greatest
    policy.maxChunkSize
  rw [shape] at further
  have again : new.last = Height.greatest := by
    apply UInt64.le_antisymm (Height.le_greatest _)
    calc
      Height.greatest = new.first := further.1.symm
      _ ≤ new.last := new.ordered
  rw [taken] at apart
  refine not_apart_of_top ?_ ?_ top again apart
  · simp [accounted]
  · rw [Fetcher.reservedBy, shape]
    exact List.mem_cons_self

/-- What is reserved ascends, and shares no height, unless the node reports the greatest height while
the buffer has room and ends with that height already. -/
theorem ascending_reserved_iff (initial : Store.latest store = .ok latest)
    (sized : policy.maxChunkSize ≠ 0) :
    (Ascending ((start store maxSlots).run policy moves).reserved ↔
      ¬ TopRetaken policy moves (start store maxSlots)) ∧
    (Apart ((start store maxSlots).run policy moves).reserved ↔
      ¬ TopRetaken policy moves (start store maxSlots)) := by
  have orderly (made : List Move) : Orderly (fun _ _ => True) (latest.getD 0) store
      ((start store maxSlots).run policy made) := by
    exact orderly_run initial (fun _ _ _ _ _ => trivial) maxSlots
  have fresh (apart : Apart ((start store maxSlots).run policy moves).reserved) :
      ¬ TopRetaken policy moves (start store maxSlots) := by
    rintro ⟨earlier, later, rfl, retakes⟩
    have low : latest.getD 0 ≠ Height.greatest := by
      intro top
      obtain ⟨slot, final, _⟩ := retakes.top
      have accounted := (orderly earlier).accounted
      rw [reserved_eq_nil initial top] at accounted
      have empty := (List.append_eq_nil_iff.1 accounted.symm).2
      rw [List.map_eq_nil_iff.1 empty] at final
      cases final
    apply (orderly earlier).not_apart_tick initial low sized retakes
    obtain ⟨rest, whole⟩ := reserved_prefix policy later
      (((start store maxSlots).run policy earlier).advance policy (.tick (.ok Height.greatest)))
    rw [run_append] at apart
    change Apart (run policy later (advance _ _ _)).reserved at apart
    rw [← whole] at apart
    exact (List.pairwise_append.1 apart).1
  have ascends (kept : ¬ TopRetaken policy moves (start store maxSlots)) :
      Ascending ((start store maxSlots).run policy moves).reserved := by
    clear fresh
    induction moves using List.reverseRecOn with
    | nil => exact List.Pairwise.nil
    | append_singleton moves move ih =>
      rw [run_append]
      refine (orderly moves).ascending_advance initial (ih ?_) ?_
      · rintro ⟨earlier, later, rfl, retakes⟩
        exact kept ⟨earlier, later ++ [move], by simp, retakes⟩
      · rintro rfl retakes
        exact kept ⟨moves, [], rfl, retakes⟩
  constructor
  · exact ⟨fun ascending => fresh (apart_of_ascending ascending), ascends⟩
  · exact ⟨fresh, fun kept => apart_of_ascending (ascends kept)⟩

/-- Two ticks one height below the top reserve the greatest height twice. -/
theorem greatest_reserved_twice :
    let policy := Policy.plain 1 1
    let store := MemoryStore.startingAt (some (Height.greatest - 1)) .none
    let moves : List Move := [.tick (.ok Height.greatest), .tick (.ok Height.greatest)]
    policy.maxChunkSize ≠ 0 ∧ Store.latest store = .ok (some (Height.greatest - 1)) ∧
      ¬ Apart ((start store 2).run policy moves).reserved := by
  intro policy store moves
  have initial : Store.latest store = .ok (some (Height.greatest - 1)) := rfl
  have sized : policy.maxChunkSize ≠ 0 := by decide
  refine ⟨sized, initial, fun apart => ?_⟩
  apply (ascending_reserved_iff initial sized).2.1 apart
  refine ⟨[.tick (.ok Height.greatest)], [], rfl, ⟨by decide, by decide, ?_⟩⟩
  exact ⟨.reserved ⟨Height.greatest, Height.greatest, by decide, by decide⟩, by decide, rfl⟩

end TokenIndexer.Ingestion
