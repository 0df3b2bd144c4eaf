import TokenIndexer.Ingest.Fetcher
import TokenIndexer.Proofs.Ingest.Commit
import TokenIndexer.Proofs.Ingest.Slots

namespace TokenIndexer.Fetcher

variable {σ : Type}

def reserving (policy : Policy) (f : Fetcher σ) (first remote : Height) : Step σ :=
  ⟨{ f with slots := (f.slots.reserve first remote policy.maxChunkSize).2 },
    (f.slots.reserve first remote policy.maxChunkSize).1.map fun range => ⟨range, false⟩, [], none⟩

def reservedBy (policy : Policy) (f : Fetcher σ) (first remote : Height) : List HeightRange :=
  (f.slots.reserve first remote policy.maxChunkSize).1

section Reserving

variable (policy : Policy) (f : Fetcher σ) (first remote : Height)

@[simp] theorem slots_reserving :
    (f.reserving policy first remote).fetcher.slots.slots =
      f.slots.slots ++ (f.reservedBy policy first remote).map .reserved := rfl

@[simp] theorem store_reserving : (f.reserving policy first remote).fetcher.store = f.store := rfl

@[simp] theorem outcomes_reserving : (f.reserving policy first remote).outcomes = [] := rfl

@[simp] theorem stopped_reserving : (f.reserving policy first remote).stopped = none := rfl

@[simp] theorem outright_reserving :
    ((f.reserving policy first remote).assigned.filter fun a => !a.delayed).map (·.range) =
      f.reservedBy policy first remote := by
  simp [reserving, reservedBy, List.filter_map, Function.comp_def]

@[simp] theorem delayed_reserving :
    (f.reserving policy first remote).assigned.filter (·.delayed) = [] := by
  simp [reserving, List.filter_map, Function.comp_def]

end Reserving

variable [Store σ] {policy : Policy} {f : Fetcher σ}

theorem tick_cases (policy : Policy) (remote : Except NodeError Height) (f : Fetcher σ) :
    (∃ stopped, f.tick policy remote = ⟨f, [], [], stopped⟩) ∨
      ∃ stored height, f.slots.isFull = false ∧ f.stored = .ok stored ∧ remote = .ok height ∧
        stored < height ∧ f.firstMissing stored ≤ height ∧
        f.tick policy remote = f.reserving policy (f.firstMissing stored) height := by
  unfold tick
  split
  · exact .inl ⟨none, rfl⟩
  · next vacant =>
    split
    · exact .inl ⟨_, rfl⟩
    · next stored read =>
      split
      · exact .inl ⟨none, rfl⟩
      · next height =>
        split
        · exact .inl ⟨_, rfl⟩
        · next notBehind =>
          split
          · exact .inl ⟨none, rfl⟩
          · next differs =>
            unfold assign
            by_cases beyond : height < f.firstMissing stored
            · exact .inl ⟨none, by simp [beyond, idle]⟩
            · refine .inr ⟨stored, height, by simpa using vacant, read, rfl, ?_,
                UInt64.not_lt.1 beyond, by simp [beyond, reserving]⟩
              exact UInt64.lt_of_le_of_ne (UInt64.not_lt.1 notBehind) (Ne.symm differs)

theorem tick_eq_reserving (policy : Policy) {remote : Except NodeError Height} {stored height : Height}
    (vacant : f.slots.isFull = false) (read : f.stored = .ok stored) (answered : remote = .ok height)
    (behind : stored < height) (missing : f.firstMissing stored ≤ height) :
    f.tick policy remote = f.reserving policy (f.firstMissing stored) height := by
  have notBehind : ¬ height < stored := UInt64.not_lt.2 (UInt64.le_of_lt behind)
  have differs : height ≠ stored := Ne.symm (UInt64.ne_of_lt behind)
  simp [tick, vacant, read, answered, notBehind, differs, assign, UInt64.not_lt.2 missing, reserving]

/-- What it comes to when complete chunks leave at the front. -/
structure Drained (Valid : HeightRange → Chunk → Prop) (f : Fetcher σ) (step : Step σ) : Prop where
  assigned : step.assigned = []
  limit : step.fetcher.slots.limit = f.slots.limit
  slots : ∃ ready : List RangeSlot, f.slots.slots = ready ++ step.fetcher.slots.slots ∧
    ready.map (·.range) = step.outcomes.map (·.range) ∧ ∀ slot ∈ ready, slot.chunk ≠ none
  succession : Commit.Succession Valid f.store step.outcomes step.fetcher.store
  going : step.stopped = none →
    (∀ outcome ∈ step.outcomes, outcome.Succeeded) ∧ step.fetcher.slots.pop? = none

theorem drained_commitReady (Valid : HeightRange → Chunk → Prop) (policy : Policy) (f : Fetcher σ)
    (valid : ∀ slot ∈ f.slots.slots, ∀ chunk, slot.chunk = some chunk → Valid slot.range chunk) :
    Drained Valid f (f.commitReady policy) := by
  fun_induction commitReady policy f with
  | case1 f waiting =>
    exact ⟨rfl, rfl, ⟨[], by simp [idle]⟩, rfl, fun _ => ⟨by simp [idle], waiting⟩⟩
  | case2 f range chunk slots popped outcome error failed =>
    obtain ⟨slot, rfl, filled, shape, limit⟩ := SlotBuffer.pop?_eq_some popped
    refine ⟨rfl, limit, ⟨[slot], ?_, rfl, ?_⟩, ⟨⟨policy.detector, chunk, ?_, rfl⟩, ?_⟩, ?_⟩
    · simpa using shape
    · simp [filled]
    · exact valid slot (shape ▸ List.mem_cons_self) chunk filled
    · simp [failed]
    · intro going
      cases going
  | case3 f range chunk slots popped outcome store events committed shorter later ih =>
    obtain ⟨slot, rfl, filled, shape, limit⟩ := SlotBuffer.pop?_eq_some popped
    have drained := ih fun s member => valid s (shape ▸ List.mem_cons_of_mem _ member)
    obtain ⟨ready, rest, ranges, allReady⟩ := drained.slots
    refine ⟨drained.assigned, drained.limit.trans limit, ⟨slot :: ready, ?_, ?_, ?_⟩,
      ⟨⟨policy.detector, chunk, ?_, rfl⟩, ?_⟩, ?_⟩
    · rw [shape]
      exact congrArg (slot :: ·) rest
    · rw [List.map_cons, ranges]
      rfl
    · intro s member
      rcases List.mem_cons.1 member with rfl | member
      · simp [filled]
      · exact allReady s member
    · exact valid slot (shape ▸ List.mem_cons_self) chunk filled
    · rw [committed]
      exact drained.succession
    · intro going
      obtain ⟨succeeded, waiting⟩ := drained.going going
      refine ⟨fun o member => ?_, waiting⟩
      rcases List.mem_cons.1 member with rfl | member
      · exact ⟨store, events, committed⟩
      · exact succeeded o member

/-- What a response does. A failure is counted, and unless it is the last one that is allowed the
range is assigned again. -/
theorem respond_cases (policy : Policy) (response : Response) (f : Fetcher σ) :
    (f.respond policy response = f.idle ∧
      f.slots.position? response.range.first = none) ∨
    (∃ chunk slots, response.result = .ok chunk ∧
      f.slots.fill? response.range.first chunk = some slots ∧
      f.respond policy response = commitReady policy { f with slots := slots }) ∨
    ∃ error attempts slots, response.result = .error error ∧
      f.slots.fail? response.range.first = some (attempts, slots) ∧
      f.respond policy response =
        if policy.maxAttempts ≤ attempts then
          stop { f with slots := slots } (.rangeExhausted response.range attempts error)
        else { idle { f with slots := slots } with assigned := [⟨response.range, true⟩] } := by
  unfold respond
  cases result : response.result with
  | ok chunk =>
    cases filled : f.slots.fill? response.range.first chunk with
    | none =>
      refine .inl ⟨by simp only [filled], ?_⟩
      simpa [SlotBuffer.fill?] using filled
    | some slots => exact .inr (.inl ⟨chunk, slots, rfl, filled, by simp only [filled]⟩)
  | error error =>
    cases failed : f.slots.fail? response.range.first with
    | none =>
      refine .inl ⟨rfl, ?_⟩
      cases position : f.slots.position? response.range.first with
      | none => rfl
      | some index =>
        obtain ⟨attempts, slots, counted⟩ := SlotBuffer.fail?_isSome position
        rw [counted] at failed
        cases failed
    | some counted =>
      obtain ⟨attempts, slots⟩ := counted
      exact .inr (.inr ⟨error, attempts, slots, rfl, rfl, rfl⟩)

theorem outright_respond (policy : Policy) (response : Response) (f : Fetcher σ) :
    (f.respond policy response).assigned.filter (fun a => !a.delayed) = [] := by
  rcases respond_cases policy response f with
    ⟨idle, _⟩ | ⟨chunk, slots, _, _, step⟩ | ⟨error, attempts, slots, _, _, step⟩
  · rw [idle]
    rfl
  · have drained := drained_commitReady (fun _ _ => True) policy { f with slots := slots }
      fun _ _ _ _ => trivial
    rw [step, drained.assigned]
    rfl
  · rw [step]
    split <;> rfl

end TokenIndexer.Fetcher
