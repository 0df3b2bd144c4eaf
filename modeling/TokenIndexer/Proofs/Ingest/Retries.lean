import TokenIndexer.Proofs.Ingest.Balance

/-!
A range is given to a worker when it is reserved, and once more after each of its failures but the last one
that is allowed.
-/

namespace TokenIndexer

/-- How often a range is fetched at most: as often as it may fail, and at least once. -/
def Policy.attempts (policy : Policy) : UInt32 := max policy.maxAttempts 1

theorem Policy.toNat_attempts (policy : Policy) :
    policy.attempts.toNat = max policy.maxAttempts.toNat 1 := by
  change (if _ ≤ _ then _ else _ : UInt32).toNat = _
  split
  · next low =>
    have : policy.maxAttempts.toNat ≤ 1 := UInt32.le_iff_toNat_le.1 low
    rw [Nat.max_eq_right this]
    rfl
  · next high =>
    have : 1 < policy.maxAttempts.toNat := UInt32.lt_iff_toNat_lt.1 (UInt32.not_le.1 high)
    omega

section Limit

variable {policy : Policy} {failures : UInt32}

theorem Policy.toNat_succ (few : failures.toNat < policy.attempts.toNat) :
    (failures + 1).toNat = failures.toNat + 1 := by
  have most := policy.attempts.toNat_lt
  rw [UInt32.toNat_add]
  exact Nat.mod_eq_of_lt (by simp; omega)

/-- The limit is met and not passed: a policy that allows no failure at all ends the run at the first. -/
theorem Policy.limit_iff (few : failures.toNat < policy.attempts.toNat) :
    policy.maxAttempts ≤ failures + 1 ↔ failures + 1 = policy.attempts := by
  have next := Policy.toNat_succ few
  have limit := policy.toNat_attempts
  rw [UInt32.le_iff_toNat_le, ← UInt32.toNat_inj]
  omega

end Limit

namespace Signal

def failed? : Signal → Option HeightRange
  | .response ⟨range, .error _⟩ => some range
  | _ => none

def delivered? : Signal → Option HeightRange
  | .response ⟨range, .ok _⟩ => some range
  | _ => none

end Signal

namespace Ingestion

variable {σ : Type}

def failures (i : Ingestion σ) (range : HeightRange) : Nat :=
  (i.history.filterMap (·.signal.failed?)).count range

/-- The ranges that were fetched so far, as the fetcher learned of it. -/
def delivered (i : Ingestion σ) : List HeightRange := i.history.filterMap (·.signal.delivered?)

def fetches (i : Ingestion σ) (range : HeightRange) : Nat := (i.assigned.map (·.range)).count range

section Take

variable [Store σ] (policy : Policy) (i : Ingestion σ) (signal : Signal)

theorem failures_take (range : HeightRange) :
    (i.take policy signal).failures range = i.failures range + signal.failed?.toList.count range := by
  rw [failures, take, List.filterMap_append, List.count_append]
  cases found : signal.failed? <;> simp [failures, found]

theorem delivered_take : (i.take policy signal).delivered = i.delivered ++ signal.delivered?.toList := by
  rw [delivered, take, List.filterMap_append]
  cases found : signal.delivered? <;> simp [delivered, found]

theorem fetches_take (range : HeightRange) :
    (i.take policy signal).fetches range =
      i.fetches range + ((i.fetcher.handle policy signal).assigned.map (·.range)).count range := by
  rw [fetches, assigned_take, List.map_append, List.count_append, fetches]

variable (range other : HeightRange) (error : FetchFailure)

theorem failures_take_failure : (i.take policy (.response ⟨range, .error error⟩)).failures other =
    i.failures other + [range].count other := failures_take ..

theorem delivered_take_failure :
    (i.take policy (.response ⟨range, .error error⟩)).delivered = i.delivered := by
  rw [delivered_take]
  exact List.append_nil _

end Take

variable {policy : Policy} {attempts maxSlots : Nat} {i : Ingestion σ}

/-- The books of a run that goes on: what has been counted for each range is its own. -/
structure Accounts (attempts : Nat) (i : Ingestion σ) : Prop where
  counted : ∀ slot ∈ i.fetcher.slots.slots, slot.failures.toNat = i.failures slot.range
  tolerated : ∀ range, i.failures range < attempts
  fetched : ∀ range ∈ i.reserved, i.fetches range = i.failures range + 1
  unknown : ∀ range, range ∉ i.reserved →
    i.fetches range = 0 ∧ i.failures range = 0 ∧ range ∉ i.delivered
  delivered : ∀ range ∈ i.reserved, range ∈ i.delivered ↔ range ∉ i.outstanding

theorem accounts_start (some_allowed : 0 < attempts) (store : σ) (maxSlots : Nat) :
    Accounts attempts (start store maxSlots) where
  counted := fun _ none => nomatch none
  tolerated := fun _ => some_allowed
  fetched := fun _ none => nomatch none
  unknown := fun _ _ => ⟨rfl, rfl, List.not_mem_nil⟩
  delivered := fun _ none => nomatch none

theorem Accounts.reserve (accounts : Accounts attempts i) {j : Ingestion σ} (new : List HeightRange)
    (once : new.Nodup) (fresh : ∀ range ∈ new, range ∉ i.reserved)
    (slots : j.fetcher.slots.slots = i.fetcher.slots.slots ++ new.map .reserved)
    (failures : ∀ range, j.failures range = i.failures range)
    (fetches : ∀ range, j.fetches range = i.fetches range + new.count range)
    (delivered : j.delivered = i.delivered)
    (reserved : ∀ range, range ∈ j.reserved ↔ range ∈ i.reserved ∨ range ∈ new)
    (outstanding : ∀ range, range ∈ j.outstanding ↔ range ∈ i.outstanding ∨ range ∈ new) :
    Accounts attempts j where
  counted := fun slot member => by
    rw [failures]
    rw [slots] at member
    rcases List.mem_append.1 member with old | added
    · exact accounts.counted slot old
    · obtain ⟨range, new, rfl⟩ := List.mem_map.1 added
      exact (accounts.unknown range (fresh range new)).2.1.symm
  tolerated := fun range => by
    rw [failures]
    exact accounts.tolerated range
  fetched := fun range known => by
    rw [fetches, failures]
    rcases (reserved range).1 known with old | new
    · rw [accounts.fetched range old, List.count_eq_zero.2 fun new => fresh range new old]
    · obtain ⟨unfetched, unfailed, _⟩ := accounts.unknown range (fresh range new)
      rw [unfetched, unfailed, List.count_eq_one_of_mem once new]
  unknown := fun range unknown => by
    rw [reserved, not_or] at unknown
    rw [fetches, failures, delivered, List.count_eq_zero.2 unknown.2]
    exact accounts.unknown range unknown.1
  delivered := fun range known => by
    rw [delivered, outstanding]
    rcases (reserved range).1 known with old | new
    · have elsewhere := fun new => fresh range new old
      rw [accounts.delivered range old]
      tauto
    · have undelivered := (accounts.unknown range (fresh range new)).2.2
      tauto

theorem Accounts.congr (accounts : Accounts attempts i) {j : Ingestion σ}
    (slots : j.fetcher.slots.slots = i.fetcher.slots.slots)
    (failures : ∀ range, j.failures range = i.failures range)
    (fetches : ∀ range, j.fetches range = i.fetches range) (delivered : j.delivered = i.delivered)
    (reserved : j.reserved = i.reserved)
    (outstanding : ∀ range, range ∈ j.outstanding ↔ range ∈ i.outstanding) : Accounts attempts j := by
  refine accounts.reserve [] List.nodup_nil (fun _ none => nomatch none) ?_ failures fetches delivered
    (fun range => ?_) fun range => ?_
  · rw [slots, List.map_nil, List.append_nil]
  · simp [reserved]
  · simp [outstanding]

/-- A range that is fetched once more after a failure has one more of each counted for it. -/
theorem Accounts.retry (accounts : Accounts attempts i) {j : Ingestion σ} {range : HeightRange}
    (known : range ∈ i.reserved) (allowed : i.failures range + 1 < attempts)
    (counted : ∀ slot ∈ j.fetcher.slots.slots, slot.failures.toNat = j.failures slot.range)
    (failures : ∀ other, j.failures other = i.failures other + [range].count other)
    (fetches : ∀ other, j.fetches other = i.fetches other + [range].count other)
    (delivered : j.delivered = i.delivered) (reserved : j.reserved = i.reserved)
    (outstanding : ∀ other, other ∈ j.outstanding ↔ other ∈ i.outstanding) : Accounts attempts j where
  counted := counted
  tolerated := fun other => by
    have few := accounts.tolerated other
    rw [failures]
    by_cases own : other = range
    · rw [own, List.count_singleton_self]
      exact allowed
    · rw [List.count_eq_zero.2 fun member => own (List.mem_singleton.1 member)]
      exact few
  fetched := fun other reserved' => by
    rw [fetches, failures, accounts.fetched other (reserved ▸ reserved')]
    omega
  unknown := fun other unknown => by
    rw [reserved] at unknown
    have differs : other ∉ [range] := fun member => unknown (List.mem_singleton.1 member ▸ known)
    rw [fetches, failures, delivered, List.count_eq_zero.2 differs]
    exact accounts.unknown other unknown
  delivered := fun other reserved' => by
    rw [delivered, outstanding]
    exact accounts.delivered other (reserved ▸ reserved')

theorem Accounts.deliver (accounts : Accounts attempts i) {j : Ingestion σ} {range : HeightRange}
    (known : range ∈ i.reserved)
    (counted : ∀ slot ∈ j.fetcher.slots.slots, slot.failures.toNat = i.failures slot.range)
    (failures : ∀ other, j.failures other = i.failures other)
    (fetches : ∀ other, j.fetches other = i.fetches other)
    (delivered : j.delivered = i.delivered ++ [range]) (reserved : j.reserved = i.reserved)
    (outstanding : ∀ other, other ∈ j.outstanding ↔ other ∈ i.outstanding ∧ other ≠ range) :
    Accounts attempts j where
  counted := fun slot member => by
    rw [failures]
    exact counted slot member
  tolerated := fun other => by
    rw [failures]
    exact accounts.tolerated other
  fetched := fun other reserved' => by
    rw [fetches, failures]
    exact accounts.fetched other (reserved ▸ reserved')
  unknown := fun other unknown => by
    rw [reserved] at unknown
    obtain ⟨unfetched, unfailed, undelivered⟩ := accounts.unknown other unknown
    rw [fetches, failures, delivered]
    refine ⟨unfetched, unfailed, fun member => ?_⟩
    rcases List.mem_append.1 member with old | new
    · exact undelivered old
    · exact unknown (List.mem_singleton.1 new ▸ known)
  delivered := fun other reserved' => by
    rw [delivered, outstanding, List.mem_append, List.mem_singleton,
      accounts.delivered other (reserved ▸ reserved'), not_and_or, not_not]

theorem Accounts.wake (accounts : Accounts attempts i) {range : HeightRange} (waiting : range ∈ i.delayed) :
    Accounts attempts { i with delayed := i.delayed.erase range, running := i.running ++ [range] } := by
  refine accounts.congr rfl (fun _ => rfl) (fun _ => rfl) rfl rfl fun other => ?_
  have moved := (List.perm_cons_erase waiting).mem_iff (a := other)
  simp only [outstanding, List.mem_append, List.mem_cons, List.not_mem_nil, or_false] at moved ⊢
  rw [moved]
  tauto

theorem Accounts.finish (accounts : Accounts attempts i) {range : HeightRange} {answers : Answers}
    (busy : range ∈ i.running) :
    Accounts attempts
      { i with
        running := i.running.erase range
        arrived := i.arrived ++ [⟨range, answers.fetch range⟩] } := by
  refine accounts.congr rfl (fun _ => rfl) (fun _ => rfl) rfl rfl fun other => ?_
  have moved := (List.perm_cons_erase busy).mem_iff (a := other)
  simp only [outstanding, List.map_append, List.map_cons, List.map_nil, List.mem_append, List.mem_cons,
    List.not_mem_nil, or_false] at moved ⊢
  rw [moved]
  tauto

theorem Tidy.found (tidy : Tidy maxSlots i) {response : Response} (come : response ∈ i.arrived) :
    i.fetcher.slots.position? response.range.first ≠ none := by
  obtain ⟨slot, present, _, same⟩ := tidy.slot_of_arrived come
  obtain ⟨index, found, _⟩ := SlotBuffer.position?_of_ascending tidy.ascending present
  rw [← same, found]
  exact Option.some_ne_none index

theorem Tidy.nodup_outstanding (tidy : Tidy maxSlots i) : i.outstanding.Nodup :=
  tidy.matched.nodup_iff.2 (nodup_unfilled tidy.ascending)

theorem Tidy.mem_outstanding_iff (tidy : Tidy maxSlots i) {response : Response} {rest : List Response}
    (queue : i.arrived = response :: rest) :
    response.range ∉ outstanding { i with arrived := rest } ∧
      ∀ range, range ∈ i.outstanding ↔
        range = response.range ∨ range ∈ outstanding { i with arrived := rest } := by
  have first : i.outstanding.Perm (response.range :: outstanding { i with arrived := rest }) := by
    rw [outstanding, queue]
    exact List.perm_middle
  refine ⟨(List.nodup_cons.1 (first.nodup_iff.1 tidy.nodup_outstanding)).1, fun range => ?_⟩
  rw [first.mem_iff, List.mem_cons]

variable [Store σ]

theorem Accounts.tick (accounts : Accounts attempts i) (remote : Except NodeError Height)
    (distinct : (i.take policy (.tick remote)).reserved.Nodup) :
    Accounts attempts (i.take policy (.tick remote)) := by
  have failures (range : HeightRange) :
      (i.take policy (.tick remote)).failures range = i.failures range := by
    rw [failures_take]
    rfl
  have delivered : (i.take policy (.tick remote)).delivered = i.delivered := by
    rw [delivered_take]
    exact List.append_nil _
  rcases Fetcher.tick_cases policy remote i.fetcher with
    ⟨stopped, idle⟩ | ⟨stored, height, _, _, _, _, _, step⟩
  · have handled : i.fetcher.handle policy (.tick remote) = ⟨i.fetcher, [], [], stopped⟩ := idle
    refine accounts.congr ?_ failures (fun range => ?_) delivered ?_ fun range => ?_
    · rw [fetcher_take, handled]
    · rw [fetches_take, handled]
      rfl
    · simp [handled]
    · simp [outstanding, handled]
  · have handled : i.fetcher.handle policy (.tick remote) =
        i.fetcher.reserving policy (i.fetcher.firstMissing stored) height := step
    rw [reserved_take, handled, Fetcher.outright_reserving] at distinct
    obtain ⟨_, once, apart⟩ := List.nodup_append.1 distinct
    have fresh : ∀ range ∈ i.fetcher.reservedBy policy (i.fetcher.firstMissing stored) height,
        range ∉ i.reserved := fun range new old => apart range old range new rfl
    refine accounts.reserve (i.fetcher.reservedBy policy (i.fetcher.firstMissing stored) height) once
      fresh ?_ failures (fun range => ?_) delivered (fun range => ?_) fun range => ?_
    · rw [fetcher_take, handled, Fetcher.slots_reserving]
    · rw [fetches_take, handled]
      simp [Fetcher.reserving, Fetcher.reservedBy, Function.comp_def]
    · rw [reserved_take, handled, Fetcher.outright_reserving, List.mem_append]
    · simp only [outstanding, delayed_take, running_take, arrived_take, handled,
        Fetcher.outright_reserving, Fetcher.delayed_reserving, List.map_nil, List.append_nil,
        List.mem_append]
      tauto

/-- A failure is the last that is allowed, or the range is fetched once more. -/
theorem Accounts.respond_failure (accounts : Accounts policy.attempts.toNat i) (tidy : Tidy maxSlots i)
    {response : Response} {rest : List Response} (queue : i.arrived = response :: rest)
    {error : FetchFailure} (failed : response.result = .error error) :
    ∃ front slot back slots, i.fetcher.slots.slots = front ++ slot :: back ∧
      slot.range = response.range ∧
      slots.slots = front ++ { slot with failures := slot.failures + 1 } :: back ∧
      (slot.failures + 1).toNat = i.failures response.range + 1 ∧
      i.fetcher.respond policy response =
        if i.failures response.range + 1 = policy.attempts.toNat then
          Fetcher.stop { i.fetcher with slots := slots }
            (.rangeExhausted response.range policy.attempts error)
        else { Fetcher.idle { i.fetcher with slots := slots } with
          assigned := [⟨response.range, true⟩] } := by
  obtain ⟨own, present, empty, same⟩ := tidy.slot_of_arrived (queue ▸ List.mem_cons_self)
  rcases Fetcher.respond_cases policy response i.fetcher with
    ⟨_, missed⟩ | ⟨chunk, _, come, _, _⟩ | ⟨e, _, slots, come, counted, step⟩
  · exact absurd missed (tidy.found (queue ▸ List.mem_cons_self))
  · rw [failed] at come
    cases come
  · rw [failed] at come
    cases come
    obtain ⟨front, slot, back, shape, first, rfl, filled⟩ := SlotBuffer.fail?_eq_some counted
    obtain rfl : slot = own :=
      eq_of_ascending tidy.ascending (by simp [shape]) present (by rw [first, same])
    have mine := accounts.counted slot present
    rw [same] at mine
    have few := accounts.tolerated response.range
    have tolerated : slot.failures.toNat < policy.attempts.toNat := mine ▸ few
    have next : (slot.failures + 1).toNat = i.failures response.range + 1 :=
      mine ▸ Policy.toNat_succ tolerated
    refine ⟨front, slot, back, slots, shape, same, by rw [filled], next, ?_⟩
    have limit : policy.maxAttempts ≤ slot.failures + 1 ↔
        i.failures response.range + 1 = policy.attempts.toNat := by
      rw [Policy.limit_iff tolerated, ← UInt32.toNat_inj, next]
    rw [step]
    by_cases last : i.failures response.range + 1 = policy.attempts.toNat
    · rw [if_pos (limit.2 last), if_pos last, (Policy.limit_iff tolerated).1 (limit.2 last)]
    · rw [if_neg fun reached => last (limit.1 reached), if_neg last]

theorem Accounts.succeed (accounts : Accounts attempts i) (tidy : Tidy maxSlots i) {range : HeightRange}
    {chunk : Chunk} {rest : List Response} (queue : i.arrived = ⟨range, .ok chunk⟩ :: rest)
    (known : range ∈ i.reserved) :
    Accounts attempts (take policy { i with arrived := rest } (.response ⟨range, .ok chunk⟩)) := by
  obtain ⟨gone, split⟩ := tidy.mem_outstanding_iff queue
  rcases Fetcher.respond_cases policy ⟨range, .ok chunk⟩ i.fetcher with
    ⟨_, missed⟩ | ⟨_, slots, come, filled, step⟩ | ⟨_, _, _, come, _⟩
  · exact absurd missed (tidy.found (queue ▸ List.mem_cons_self))
  · cases come
    have drained := Fetcher.drained_commitReady (fun _ _ => True) policy
      { i.fetcher with slots := slots } fun _ _ _ _ => trivial
    rw [← step] at drained
    obtain ⟨front, slot, back, shape, _, rfl⟩ := SlotBuffer.fill?_eq_some filled
    obtain ⟨ready, left, _, _⟩ := drained.slots
    change front ++ { slot with chunk := some chunk } :: back = _ at left
    have handled : i.fetcher.handle policy (.response ⟨range, .ok chunk⟩) =
      i.fetcher.respond policy ⟨range, .ok chunk⟩ := rfl
    refine accounts.deliver known (fun s member => ?_) (fun _ => failures_take ..) (fun other => ?_)
      (delivered_take ..) (reserved_take_response ..) fun other => ?_
    · have old := accounts.counted
      have inside : s ∈ front ++ { slot with chunk := some chunk } :: back := by
        rw [left]
        exact List.mem_append_right _ member
      simp only [shape, List.mem_append, List.mem_cons] at inside old
      rcases inside with early | rfl | late
      · exact old s (.inl early)
      · exact old slot (.inr (.inl rfl))
      · exact old s (.inr (.inr late))
    · rw [fetches_take, handled, drained.assigned]
      rfl
    · have left : (take policy { i with arrived := rest } (.response ⟨range, .ok chunk⟩)).outstanding =
          outstanding { i with arrived := rest } := by
        simp [outstanding, handled, drained.assigned]
      rw [left, split]
      by_cases own : other = range
      · simp [own, gone]
      · simp [own]
  · cases come

theorem Accounts.fail (accounts : Accounts policy.attempts.toNat i) (tidy : Tidy maxSlots i)
    {range : HeightRange} {error : FetchFailure} {rest : List Response}
    (queue : i.arrived = ⟨range, .error error⟩ :: rest) (known : range ∈ i.reserved)
    (going : (take policy { i with arrived := rest } (.response ⟨range, .error error⟩)).stopped = none) :
    Accounts policy.attempts.toNat
      (take policy { i with arrived := rest } (.response ⟨range, .error error⟩)) := by
  obtain ⟨gone, split⟩ := tidy.mem_outstanding_iff queue
  obtain ⟨front, slot, back, slots, shape, same, counted, next, step⟩ :=
    accounts.respond_failure tidy queue rfl
  have handled : i.fetcher.handle policy (.response ⟨range, .error error⟩) =
    i.fetcher.respond policy ⟨range, .error error⟩ := rfl
  rw [stopped_take, handled, step] at going
  have more : i.failures range + 1 ≠ policy.attempts.toNat := by
    intro last
    rw [if_pos last] at going
    cases going
  rw [if_neg more] at step
  rw [step] at handled
  have others {other : HeightRange} (differs : other ≠ range) : [range].count other = 0 :=
    List.count_eq_zero.2 fun member => differs (List.mem_singleton.1 member)
  refine accounts.retry known (Nat.lt_of_le_of_ne (accounts.tolerated range) more) (fun s member => ?_)
    (fun _ => failures_take_failure ..) (fun other => ?_) (delivered_take_failure ..)
    (reserved_take_response ..) fun other => ?_
  · rw [fetcher_take, handled] at member
    change s ∈ slots.slots at member
    have old := accounts.counted
    have distinct := nodup_of_ascending tidy.ascending
    rw [shape, List.map_append, List.map_cons, same] at distinct
    obtain ⟨_, tail, apart⟩ := List.nodup_append.1 distinct
    rw [failures_take_failure]
    simp only [counted, shape, List.mem_append, List.mem_cons] at member old
    rcases member with early | rfl | late
    · rw [others fun equal => apart _ (List.mem_map_of_mem early) range List.mem_cons_self equal]
      exact old s (.inl early)
    · change (slot.failures + 1).toNat = i.failures slot.range + [range].count slot.range
      rw [next, same, List.count_singleton_self]
    · rw [others fun equal => (List.nodup_cons.1 tail).1 (equal ▸ List.mem_map_of_mem late)]
      exact old s (.inr (.inr late))
  · rw [fetches_take, handled]
    rfl
  · rw [split]
    simp only [outstanding, delayed_take, running_take, arrived_take, handled]
    simp only [List.filter_cons, List.filter_nil, Bool.not_true, Bool.false_eq_true, if_true, if_false,
      List.map_cons, List.map_nil, List.append_nil, List.mem_append, List.mem_singleton]
    tauto

theorem Accounts.advance (accounts : Accounts policy.attempts.toNat i) (tidy : Tidy maxSlots i)
    (known : ∀ range ∈ i.outstanding, range ∈ i.reserved) {move : Move}
    (distinct : (i.advance policy move).reserved.Nodup)
    (going : (i.advance policy move).stopped = none) :
    Accounts policy.attempts.toNat (i.advance policy move) := by
  revert distinct going
  refine advance_preserves
    (fun j => j.reserved.Nodup → j.stopped = none → Accounts policy.attempts.toNat j) i move
    (fun _ _ => accounts) ?_ ?_ ?_ ?_
  · intro remote _ _ distinct _
    exact accounts.tick remote distinct
  · intro range waiting _ _
    exact accounts.wake waiting
  · intro range answers _ busy _ _
    exact accounts.finish busy
  · intro query response rest queue _ _ going
    have reserved : response.range ∈ i.reserved := known _ (by simp [outstanding, queue])
    have same : Accounts (policy.asking query).attempts.toNat i := accounts
    obtain ⟨range, result⟩ := response
    cases result with
    | ok chunk => exact accounts.succeed tidy queue reserved
    | error error => exact same.fail tidy queue reserved going

section Run

variable [Store.Marked σ] {store : σ} {moves : List Move}

theorem nodup_reserved_run
    (bounded : ∀ remote, Move.tick (.ok remote) ∈ moves → remote < Height.greatest) (policy : Policy)
    (store : σ) (maxSlots : Nat) : ((start store maxSlots).run policy moves).reserved.Nodup := by
  cases initial : Store.latest store with
  | error e =>
    have quiet : Quiet store ((start store maxSlots).run policy moves) := quiet_run initial
    rw [reserved, quiet.assigned]
    exact List.nodup_nil
  | ok latest => exact nodup_of_ascending (ascending_of_tiles (tiles_run initial bounded policy maxSlots))

theorem reserved_of_outstanding_run {range : HeightRange}
    (outstanding : range ∈ ((start store maxSlots).run policy moves).outstanding) :
    range ∈ ((start store maxSlots).run policy moves).reserved := by
  cases initial : Store.latest store with
  | error e =>
    have quiet : Quiet store ((start store maxSlots).run policy moves) := quiet_run initial
    rw [quiet.outstanding] at outstanding
    cases outstanding
  | ok latest =>
    have orderly : Orderly (fun _ _ => True) (latest.getD 0) store
        ((start store maxSlots).run policy moves) :=
      orderly_run initial (fun _ _ _ _ _ => trivial) maxSlots
    exact orderly.outstanding range outstanding

theorem accounts_run
    (bounded : ∀ remote, Move.tick (.ok remote) ∈ moves → remote < Height.greatest)
    (going : ((start store maxSlots).run policy moves).stopped = none) :
    Accounts policy.attempts.toNat ((start store maxSlots).run policy moves) := by
  -- On the last move: the books are kept only while the run goes on, and it went on before that move too.
  induction moves using List.reverseRecOn with
  | nil =>
    refine accounts_start ?_ store maxSlots
    rw [policy.toNat_attempts]
    exact Nat.lt_of_lt_of_le Nat.zero_lt_one (Nat.le_max_right _ _)
  | append_singleton moves move ih =>
    have earlier : ∀ remote, Move.tick (.ok remote) ∈ moves → remote < Height.greatest :=
      fun remote member => bounded remote (List.mem_append_left _ member)
    have distinct := nodup_reserved_run bounded policy store maxSlots
    rw [run_append] at going distinct ⊢
    cases before : ((start store maxSlots).run policy moves).stopped with
    | some e =>
      have same : ((start store maxSlots).run policy moves).run policy [move] =
          (start store maxSlots).run policy moves := advance_of_stopped before move
      rw [same, before] at going
      cases going
    | none =>
      exact (ih earlier before).advance (tidy_run earlier store before)
        (fun range => reserved_of_outstanding_run) distinct going

end Run

end Ingestion

end TokenIndexer
