import TokenIndexer.Proofs.Ingest.Retries

/-!
Words that do not overflow. The steps of the fetcher are said for any arithmetic, so that they can be done in
the one that it uses and in one that ends where a result does not fit.
-/

namespace TokenIndexer

inductive Overflow where
  | above
  | below
  deriving DecidableEq

/-- What is computed with heights and counters, and what becomes of a result that does not fit. -/
structure Arithmetic (m : Type → Type) where
  add : Height → Height → m Height
  sub : Height → Height → m Height
  count : UInt32 → m UInt32

namespace Arithmetic

/-- Results that do not fit wrap around. -/
def wrapping : Arithmetic Id where
  add a b := a + b
  sub a b := a - b
  count n := n + 1

/-- The first result that does not fit ends the computation. -/
def checked : Arithmetic (Except Overflow) where
  add a b := if a.toNat + b.toNat < UInt64.size then .ok (a + b) else .error .above
  sub a b := if b ≤ a then .ok (a - b) else .error .below
  count n := if n.toNat + 1 < UInt32.size then .ok (n + 1) else .error .above

variable {m : Type → Type} [Monad m] {σ : Type}

/-! ### The steps in any arithmetic -/

section Steps

def size (ops : Arithmetic m) (range : HeightRange) : m Height := do
  let above ← ops.sub range.last range.first
  ops.add above 1

def split (ops : Arithmetic m) (size last : Height) : Nat → Height → m (List HeightRange)
  | 0, _ => pure []
  | count + 1, first => do
    let more ← ops.sub size 1
    let stop := min (first.advance more) last
    match HeightRange.make first stop with
    | .error _ => pure []
    | .ok range =>
      if stop = last then pure [range]
      else do
        let next ← ops.add stop 1
        let rest ← ops.split size last count next
        pure (range :: rest)

def rangesOf (ops : Arithmetic m) (free : Nat) (first last size : Height) : m (List HeightRange) :=
  if last < first ∨ size = 0 then pure [] else ops.split size last free first

def reserve (ops : Arithmetic m) (buffer : SlotBuffer) (first last size : Height) :
    m (List HeightRange × SlotBuffer) := do
  let ranges ← ops.rangesOf buffer.free first last size
  pure (ranges, { buffer with slots := buffer.slots ++ ranges.map RangeSlot.reserved })

def fail? (ops : Arithmetic m) (buffer : SlotBuffer) (h : Height) : m (Option (UInt32 × SlotBuffer)) :=
  match buffer.position? h with
  | none => pure none
  | some index =>
    match buffer.slots[index]? with
    | none => pure none
    | some slot => do
      let failures ← ops.count slot.failures
      pure (some (failures, buffer.modify index fun slot => { slot with failures := failures }))

def firstMissing (ops : Arithmetic m) (f : Fetcher σ) (stored : Height) : m Height := do
  let above ← ops.add stored 1
  match f.slots.nextHeight? with
  | some next => pure (max next above)
  | none => pure above

def assign (ops : Arithmetic m) (policy : Policy) (f : Fetcher σ) (stored remote : Height) :
    m (Step σ) := do
  let first ← ops.firstMissing f stored
  if remote < first then pure f.idle
  else do
    let (ranges, slots) ← ops.reserve f.slots first remote policy.maxChunkSize
    pure ⟨{ f with slots := slots }, ranges.map fun range => ⟨range, false⟩, [], none⟩

variable [Store σ]

def tick (ops : Arithmetic m) (policy : Policy) (remote : Except NodeError Height) (f : Fetcher σ) :
    m (Step σ) :=
  if f.slots.isFull then pure f.idle
  else
    match f.stored with
    | .error e => pure (f.stop (.localHeight e))
    | .ok stored =>
      match remote with
      | .error _ => pure f.idle
      | .ok remote =>
        if remote < stored then pure (f.stop (.chainReset stored remote))
        else if remote = stored then pure f.idle
        else ops.assign policy f stored remote

/-- Chunks are filled in and committed without arithmetic. -/
def respond (ops : Arithmetic m) (policy : Policy) (response : Response) (f : Fetcher σ) : m (Step σ) :=
  match response.result with
  | .ok _ => pure (f.respond policy response)
  | .error e => do
    match ← ops.fail? f.slots response.range.first with
    | none => pure f.idle
    | some (attempts, slots) =>
      let counted : Fetcher σ := { f with slots := slots }
      if policy.maxAttempts ≤ attempts then
        pure (counted.stop (.rangeExhausted response.range attempts e))
      else pure { counted.idle with assigned := [⟨response.range, true⟩] }

def handle (ops : Arithmetic m) (policy : Policy) (f : Fetcher σ) : Signal → m (Step σ)
  | .tick remote => ops.tick policy remote f
  | .response response => ops.respond policy response f

end Steps

/-! ### Any arithmetic in which what fits comes out right -/

structure Faithful (ops : Arithmetic m) : Prop where
  add : ∀ a b : Height, a.toNat + b.toNat < UInt64.size → ops.add a b = pure (a + b)
  sub : ∀ a b : Height, b ≤ a → ops.sub a b = pure (a - b)

theorem faithful_wrapping : wrapping.Faithful := ⟨fun _ _ _ => rfl, fun _ _ _ => rfl⟩

theorem faithful_checked : checked.Faithful := ⟨fun _ _ fits => if_pos fits, fun _ _ fits => if_pos fits⟩

variable {ops : Arithmetic m} {policy : Policy} {f : Fetcher σ}

theorem Faithful.succ (faithful : ops.Faithful) {h other : Height} (below : h < other) :
    ops.add h 1 = pure (h + 1) := by
  apply faithful.add
  have bound := other.toNat_lt_size
  rw [UInt64.lt_iff_toNat_lt] at below
  exact Nat.lt_of_le_of_lt (Nat.succ_le_of_lt below) bound

theorem Faithful.pred (faithful : ops.Faithful) {h : Height} (positive : h ≠ 0) :
    ops.sub h 1 = pure (h - 1) := by
  apply faithful.sub
  have above := UInt64.lt_iff_toNat_lt.1 (UInt64.pos_iff_ne_zero.2 positive)
  exact UInt64.le_iff_toNat_le.2 above

variable [LawfulMonad m]

theorem Faithful.size (faithful : ops.Faithful) (range : HeightRange) : ops.size range = pure range.size := by
  have fits : (range.last - range.first).toNat + (1 : Height).toNat < UInt64.size := by
    have positive : 0 < range.first.toNat := by simpa [UInt64.lt_iff_toNat_lt] using range.positive
    have ordered := range.toNat_ordered
    have bound := range.last.toNat_lt_size
    rw [UInt64.toNat_sub_of_le _ _ range.ordered]
    change _ + 1 < _
    omega
  rw [Arithmetic.size, faithful.sub _ _ range.ordered, pure_bind, faithful.add _ _ fits]
  rfl

theorem Faithful.split (faithful : ops.Faithful) {size : Height} (sized : size ≠ 0) (last : Height)
    (count : Nat) (first : Height) :
    ops.split size last count first = pure (SlotBuffer.split size last count first) := by
  induction count generalizing first with
  | zero => rfl
  | succ count ih =>
    rw [Arithmetic.split, SlotBuffer.split, faithful.pred sized, pure_bind]
    cases made : HeightRange.make first (min (first.advance (size - 1)) last) with
    | error e => simp only [made]
    | ok range =>
      by_cases done : min (first.advance (size - 1)) last = last
      · simp only [made, if_pos done]
      · -- The end was not reached, so there is a height after the last one of this range.
        have below := UInt64.lt_of_le_of_ne Std.min_le_right done
        simp only [made, if_neg done, faithful.succ below, ih, pure_bind]

theorem Faithful.reserve (faithful : ops.Faithful) (buffer : SlotBuffer) (first last size : Height) :
    ops.reserve buffer first last size = pure (buffer.reserve first last size) := by
  have ranges : ops.rangesOf buffer.free first last size =
      pure (SlotBuffer.rangesOf buffer.free first last size) := by
    rw [Arithmetic.rangesOf, SlotBuffer.rangesOf]
    split
    · rfl
    · next some =>
      rw [not_or] at some
      exact faithful.split some.2 last buffer.free first
  rw [Arithmetic.reserve, ranges, pure_bind]
  rfl

theorem fail?_eq {buffer : SlotBuffer}
    (counts : ∀ slot ∈ buffer.slots, ops.count slot.failures = pure (slot.failures + 1)) (h : Height) :
    ops.fail? buffer h = pure (buffer.fail? h) := by
  rw [Arithmetic.fail?, SlotBuffer.fail?]
  cases buffer.position? h with
  | none => rfl
  | some index =>
    cases present : buffer.slots[index]? with
    | none => simp [present]
    | some slot =>
      have counted := counts slot (List.mem_of_getElem? present)
      have marked : (buffer.modify index fun slot => { slot with failures := slot.failures + 1 }) =
          buffer.modify index fun other => { other with failures := slot.failures + 1 } :=
        SlotBuffer.modify_congr present rfl
      simp [present, counted, marked]

theorem Faithful.assign (faithful : ops.Faithful) (policy : Policy) (f : Fetcher σ) {stored remote : Height}
    (behind : stored < remote) : ops.assign policy f stored remote = pure (f.assign policy stored remote) := by
  have first : ops.firstMissing f stored = pure (f.firstMissing stored) := by
    rw [Arithmetic.firstMissing, Fetcher.firstMissing, faithful.succ behind, pure_bind]
    cases f.slots.nextHeight? <;> rfl
  rw [Arithmetic.assign, Fetcher.assign, first, pure_bind]
  simp only [faithful.reserve, pure_bind]
  split <;> rfl

/-- There is no height above the greatest one. No tick asks for it. -/
example : checked.firstMissing (Fetcher.start () 1) Height.greatest = .error .above := rfl

variable [Store σ]

theorem Faithful.tick (faithful : ops.Faithful) (policy : Policy) (remote : Except NodeError Height)
    (f : Fetcher σ) : ops.tick policy remote f = pure (f.tick policy remote) := by
  rw [Arithmetic.tick, Fetcher.tick]
  split
  · rfl
  · cases f.stored with
    | error e => rfl
    | ok stored =>
      cases remote with
      | error e => rfl
      | ok remote =>
        by_cases reset : remote < stored
        · simp only [if_pos reset]
        · by_cases current : remote = stored
          · simp only [if_neg reset, if_pos current]
          · have behind := UInt64.lt_of_le_of_ne (UInt64.not_lt.1 reset) (Ne.symm current)
            simp only [if_neg reset, if_neg current, faithful.assign policy f behind]

theorem respond_eq
    (counts : ∀ slot ∈ f.slots.slots, ops.count slot.failures = pure (slot.failures + 1))
    (response : Response) : ops.respond policy response f = pure (f.respond policy response) := by
  rw [Arithmetic.respond]
  cases result : response.result with
  | ok chunk => rfl
  | error e =>
    rw [Fetcher.respond, result]
    simp only [fail?_eq counts, pure_bind]
    cases f.slots.fail? response.range.first with
    | none => rfl
    | some counted =>
      simp only
      split <;> rfl

theorem Faithful.handle (faithful : ops.Faithful) (policy : Policy)
    (counts : ∀ slot ∈ f.slots.slots, ops.count slot.failures = pure (slot.failures + 1))
    (signal : Signal) : ops.handle policy f signal = pure (f.handle policy signal) := by
  cases signal with
  | tick remote => exact faithful.tick policy remote f
  | response response => exact respond_eq counts response

/-- The steps that are taken are those in which results wrap around. -/
theorem handle_wrapping (policy : Policy) (f : Fetcher σ) (signal : Signal) :
    wrapping.handle policy f signal = f.handle policy signal :=
  faithful_wrapping.handle policy (fun _ _ => rfl) signal

end Arithmetic

/-! ### Counters -/

namespace Fetcher

variable {σ : Type} {policy : Policy} {f : Fetcher σ}

def Tolerant (policy : Policy) (f : Fetcher σ) : Prop :=
  ∀ slot ∈ f.slots.slots, slot.failures < policy.attempts

theorem tolerant_start (policy : Policy) (store : σ) (maxSlots : Nat) :
    (start store maxSlots).Tolerant policy := fun _ none => nomatch none

theorem Tolerant.change (tolerant : f.Tolerant policy) {front back : List RangeSlot} {slot changed : RangeSlot}
    (shape : f.slots.slots = front ++ slot :: back)
    (few : slot.failures < policy.attempts → changed.failures < policy.attempts) :
    ∀ other ∈ front ++ changed :: back, other.failures < policy.attempts := by
  intro other member
  rw [Tolerant, shape] at tolerant
  rcases List.mem_append.1 member with before | later
  · exact tolerant other (List.mem_append_left _ before)
  · rcases List.mem_cons.1 later with rfl | after
    · exact few (tolerant slot (List.mem_append_right _ List.mem_cons_self))
    · exact tolerant other (List.mem_append_right _ (List.mem_cons_of_mem _ after))

variable [Store σ]

theorem Tolerant.tick (tolerant : f.Tolerant policy) (remote : Except NodeError Height) :
    (f.tick policy remote).fetcher.Tolerant policy := by
  have unfailed : 0 < policy.attempts := by
    rw [UInt32.lt_iff_toNat_lt, policy.toNat_attempts]
    exact Nat.lt_of_lt_of_le Nat.zero_lt_one (Nat.le_max_right _ _)
  rcases tick_cases policy remote f with ⟨stopped, idle⟩ | ⟨stored, height, _, _, _, _, _, reserves⟩
  · rw [idle]
    exact tolerant
  · rw [reserves]
    intro slot member
    rw [slots_reserving] at member
    rcases List.mem_append.1 member with old | new
    · exact tolerant slot old
    · obtain ⟨range, _, rfl⟩ := List.mem_map.1 new
      exact unfailed

/-- Failures are counted up to the last one that is allowed, and with that one the fetcher stops. -/
theorem Tolerant.respond (tolerant : f.Tolerant policy) (response : Response)
    (going : (f.respond policy response).stopped = none) :
    (f.respond policy response).fetcher.Tolerant policy := by
  rcases respond_cases policy response f with
    ⟨idle, _⟩ | ⟨chunk, slots, _, filled, step⟩ | ⟨error, attempts, slots, _, failed, step⟩
  · rw [idle]
    exact tolerant
  · obtain ⟨front, slot, back, shape, _, rfl⟩ := SlotBuffer.fill?_eq_some filled
    have kept : ∀ other ∈ front ++ { slot with chunk := some chunk } :: back,
        other.failures < policy.attempts := tolerant.change shape id
    have drained := drained_commitReady (fun _ _ => True) policy
      { f with slots := { f.slots with slots := front ++ { slot with chunk := some chunk } :: back } }
      fun _ _ _ _ => trivial
    obtain ⟨ready, left, _⟩ := drained.slots
    rw [step]
    intro other member
    have present := List.mem_append_right ready member
    rw [← left] at present
    exact kept other present
  · obtain ⟨front, slot, back, shape, _, rfl, rfl⟩ := SlotBuffer.fail?_eq_some failed
    rw [step] at going ⊢
    split at going
    · cases going
    · next spared =>
      rw [if_neg spared]
      apply tolerant.change shape
      intro _
      have below := UInt32.lt_iff_toNat_lt.1 (UInt32.not_le.1 spared)
      rw [UInt32.lt_iff_toNat_lt, policy.toNat_attempts]
      exact Nat.lt_of_lt_of_le below (Nat.le_max_left _ _)

end Fetcher

namespace Ingestion

open Arithmetic

variable {σ : Type} [Store σ]

theorem tolerant_run (policy : Policy) (store : σ) (maxSlots : Nat) (moves : List Move) :
    ((start store maxSlots).run policy moves).stopped = none →
      ((start store maxSlots).run policy moves).fetcher.Tolerant policy := by
  refine run_preserves (fun i => i.stopped = none → i.fetcher.Tolerant policy) ?_ ?_
  · intro _
    exact Fetcher.tolerant_start policy store maxSlots
  · intro i move _ tolerant
    refine advance_preserves (fun j => j.stopped = none → j.fetcher.Tolerant policy) i move tolerant
      ?_ ?_ ?_ ?_
    · intro remote _ going _
      exact (tolerant going).tick remote
    · intro _ _ going
      exact tolerant going
    · intro _ _ _ _ going
      exact tolerant going
    · intro query response rest _ awake going
      rw [stopped_take] at going
      have before : i.fetcher.Tolerant (policy.asking query) := tolerant awake
      exact before.respond response going

/-- Ingestion whose words are wide enough for all that is computed with them. -/
structure Fitting (policy : Policy) (i : Ingestion σ) : Prop where
  /-- The steps are taken in words that wrap around. -/
  plain : ∀ query signal, wrapping.handle (policy.asking query) i.fetcher signal =
    i.fetcher.handle (policy.asking query) signal
  /-- Until the fetcher stops, they come to the same with every result checked, whatever comes next. -/
  step : i.stopped = none → ∀ query signal, checked.handle (policy.asking query) i.fetcher signal =
    .ok (i.fetcher.handle (policy.asking query) signal)
  counters : i.stopped = none → ∀ slot ∈ i.fetcher.slots.slots, slot.failures < policy.attempts
  reserve : ∀ buffer first last size,
    checked.reserve buffer first last size = .ok (buffer.reserve first last size)
  size : ∀ range, checked.size range = .ok range.size

/-- Whatever the heights, the limits and the interleaving. -/
theorem fitting_run (policy : Policy) (store : σ) (maxSlots : Nat) (moves : List Move) :
    Fitting policy ((start store maxSlots).run policy moves) := by
  have tolerant := tolerant_run policy store maxSlots moves
  refine { plain := fun query => handle_wrapping (policy.asking query) _, step := ?_, counters := tolerant,
           reserve := faithful_checked.reserve, size := faithful_checked.size }
  intro going query signal
  refine faithful_checked.handle _ (fun slot member => ?_) signal
  have few := UInt32.lt_iff_toNat_lt.1 (tolerant going slot member)
  have most := policy.attempts.toNat_lt_size
  exact if_pos (Nat.lt_of_le_of_lt (Nat.succ_le_of_lt few) most)

end Ingestion

end TokenIndexer
