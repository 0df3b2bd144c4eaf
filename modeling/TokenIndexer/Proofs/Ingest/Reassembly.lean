import TokenIndexer.Proofs.Ingest.Division

/-! A buffer as a queue of ranges, each with the chunk that was set for it last. -/

namespace TokenIndexer

namespace RangeSlot

def filled (chunk : Chunk) (slot : RangeSlot) : RangeSlot := { slot with chunk := some chunk }

def failed (slot : RangeSlot) : RangeSlot := { slot with failures := slot.failures + 1 }

end RangeSlot

namespace SlotBuffer

variable {buffer : SlotBuffer} {start : Height}

def Sorted (buffer : SlotBuffer) : Prop :=
  buffer.slots.Pairwise fun a b => a.range.first < b.range.first

def changeAt (buffer : SlotBuffer) (start : Height) (change : RangeSlot → RangeSlot) : SlotBuffer :=
  { buffer with
    slots := buffer.slots.map fun slot => if slot.range.first = start then change slot else slot }

theorem position?_eq_none_iff (sorted : buffer.Sorted) :
    buffer.position? start = none ↔ ∀ slot ∈ buffer.slots, slot.range.first ≠ start := by
  constructor
  · intro missing slot member same
    have weak : buffer.slots.Pairwise fun a b => a.range.first ≤ b.range.first :=
      sorted.imp UInt64.le_of_lt
    obtain ⟨index, found⟩ := position?_of_mem weak member same
    rw [missing] at found
    cases found
  · intro others
    cases found : buffer.position? start with
    | none => rfl
    | some index =>
      obtain ⟨slot, present, same⟩ := first_eq_of_position? found
      exact absurd same (others slot (List.mem_of_getElem? present))

/-- The search finds what looking at one slot after the other finds. -/
theorem position?_eq_findIdx? (sorted : buffer.Sorted) (start : Height) :
    buffer.position? start = buffer.slots.findIdx? fun slot => slot.range.first = start := by
  cases found : buffer.position? start with
  | none =>
    symm
    rw [List.findIdx?_eq_none_iff]
    intro slot member
    exact decide_eq_false ((position?_eq_none_iff sorted).1 found slot member)
  | some index =>
    obtain ⟨slot, present, same⟩ := first_eq_of_position? found
    obtain ⟨inside, rfl⟩ := List.getElem?_eq_some_iff.1 present
    symm
    rw [List.findIdx?_eq_some_iff_getElem]
    refine ⟨inside, decide_eq_true same, ?_⟩
    intro earlier before here
    have below := List.pairwise_iff_getElem.1 sorted earlier index (by omega) inside before
    rw [of_decide_eq_true here, same] at below
    exact UInt64.lt_irrefl _ below

theorem modify_eq_changeAt (sorted : buffer.Sorted) {index : Nat}
    (found : buffer.position? start = some index) (change : RangeSlot → RangeSlot) :
    buffer.modify index change = buffer.changeAt start change := by
  obtain ⟨slot, present, same⟩ := first_eq_of_position? found
  obtain ⟨front, back, shape, changed⟩ := modify_eq present change
  unfold Sorted at sorted
  rw [shape] at sorted
  obtain ⟨_, tail, across⟩ := List.pairwise_append.1 sorted
  have unchanged (others : List RangeSlot) (differ : ∀ s ∈ others, s.range.first ≠ start) :
      (others.map fun s => if s.range.first = start then change s else s) = others := by
    calc
      _ = others.map id := List.map_congr_left fun s member => if_neg (differ s member)
      _ = others := List.map_id others
  have before : ∀ s ∈ front, s.range.first ≠ start := by
    intro s member
    rw [← same]
    exact UInt64.ne_of_lt (across s member slot List.mem_cons_self)
  have behind : ∀ s ∈ back, s.range.first ≠ start := by
    intro s member
    rw [← same]
    exact (UInt64.ne_of_lt ((List.pairwise_cons.1 tail).1 s member)).symm
  rw [changed, changeAt, shape, List.map_append, List.map_cons, if_pos same, unchanged front before,
    unchanged back behind]

theorem fill?_cases (sorted : buffer.Sorted) (start : Height) (chunk : Chunk) :
    ((∀ slot ∈ buffer.slots, slot.range.first ≠ start) ∧ buffer.fill? start chunk = none) ∨
      ((∃ slot ∈ buffer.slots, slot.range.first = start) ∧
        buffer.fill? start chunk = some (buffer.changeAt start (.filled chunk))) := by
  unfold fill?
  cases found : buffer.position? start with
  | none => exact .inl ⟨(position?_eq_none_iff sorted).1 found, rfl⟩
  | some index =>
    obtain ⟨slot, present, same⟩ := first_eq_of_position? found
    refine .inr ⟨⟨slot, List.mem_of_getElem? present, same⟩, ?_⟩
    exact congrArg some (modify_eq_changeAt sorted found (.filled chunk))

theorem fail?_cases (sorted : buffer.Sorted) (start : Height) :
    ((∀ slot ∈ buffer.slots, slot.range.first ≠ start) ∧ buffer.fail? start = none) ∨
      ∃ slot ∈ buffer.slots, slot.range.first = start ∧
        buffer.fail? start = some (slot.failures + 1, buffer.changeAt start .failed) := by
  unfold fail?
  cases found : buffer.position? start with
  | none => exact .inl ⟨(position?_eq_none_iff sorted).1 found, rfl⟩
  | some index =>
    obtain ⟨slot, present, same⟩ := first_eq_of_position? found
    refine .inr ⟨slot, List.mem_of_getElem? present, same, ?_⟩
    rw [Option.bind_some, present, ← modify_eq_changeAt sorted found]
    rfl

section ChangeAt

variable {change : RangeSlot → RangeSlot}

theorem range_changed (ranges : ∀ slot, (change slot).range = slot.range) (start : Height)
    (slot : RangeSlot) :
    (if slot.range.first = start then change slot else slot).range = slot.range := by
  split
  · exact ranges slot
  · rfl

theorem sorted_changeAt (ranges : ∀ slot, (change slot).range = slot.range) (sorted : buffer.Sorted) :
    (buffer.changeAt start change).Sorted := by
  rw [Sorted, changeAt, List.pairwise_map]
  apply sorted.imp
  intro earlier later below
  rwa [range_changed ranges, range_changed ranges]

theorem changeAt_changeAt (ranges : ∀ slot, (change slot).range = slot.range) (buffer : SlotBuffer)
    (start : Height) (further : RangeSlot → RangeSlot) :
    (buffer.changeAt start change).changeAt start further =
      buffer.changeAt start (further ∘ change) := by
  rw [changeAt, changeAt, changeAt, List.map_map]
  congr 1
  apply List.map_congr_left
  intro slot _
  by_cases here : slot.range.first = start
  · simp [here, ranges]
  · simp [here]

end ChangeAt

inductive Command where
  | reserve (first last size : Height)
  | fill (start : Height) (chunk : Chunk)
  | fail (start : Height)
  | pop
  deriving DecidableEq

inductive Call where
  | reserve (first last size : Height) (ranges : List HeightRange)
  | fill (start : Height) (chunk : Chunk) (found : Bool)
  | fail (start : Height) (attempts : Option UInt32)
  | pop (left : Option (HeightRange × Chunk))
  deriving DecidableEq

/-- Does what it is asked; what cannot be done leaves the buffer as it was. -/
def step (buffer : SlotBuffer) : Command → Call × SlotBuffer
  | .reserve first last size =>
    let (ranges, after) := buffer.reserve first last size
    (.reserve first last size ranges, after)
  | .fill start chunk =>
    match buffer.fill? start chunk with
    | some after => (.fill start chunk true, after)
    | none => (.fill start chunk false, buffer)
  | .fail start =>
    match buffer.fail? start with
    | some (attempts, after) => (.fail start (some attempts), after)
    | none => (.fail start none, buffer)
  | .pop =>
    match buffer.pop? with
    | some (left, after) => (.pop (some left), after)
    | none => (.pop none, buffer)

theorem step_fill (sorted : buffer.Sorted) (start : Height) (chunk : Chunk) :
    buffer.step (.fill start chunk) =
      if ∃ slot ∈ buffer.slots, slot.range.first = start then
        (.fill start chunk true, buffer.changeAt start (.filled chunk))
      else (.fill start chunk false, buffer) := by
  rcases fill?_cases sorted start chunk with ⟨absent, missing⟩ | ⟨present, filled⟩
  · rw [step, missing, if_neg (by simpa using absent)]
  · rw [step, filled, if_pos present]

/-- Setting a chunk again changes nothing more. -/
theorem step_fill_again (sorted : buffer.Sorted) (start : Height) (chunk : Chunk) :
    (buffer.step (.fill start chunk)).2.step (.fill start chunk) = buffer.step (.fill start chunk) := by
  rw [step_fill sorted]
  by_cases present : ∃ slot ∈ buffer.slots, slot.range.first = start
  · have ranges (slot : RangeSlot) : (slot.filled chunk).range = slot.range := rfl
    have kept : (buffer.changeAt start (.filled chunk)).Sorted := sorted_changeAt ranges sorted
    have still : ∃ slot ∈ (buffer.changeAt start (.filled chunk)).slots, slot.range.first = start := by
      obtain ⟨slot, member, here⟩ := present
      exact ⟨slot.filled chunk, List.mem_map.2 ⟨slot, member, if_pos here⟩, here⟩
    rw [if_pos present, step_fill kept, if_pos still, changeAt_changeAt ranges]
    rfl
  · rw [if_neg present, step_fill sorted, if_neg present]

namespace Call

def reserved : Call → List HeightRange
  | .reserve _ _ _ ranges => ranges
  | _ => []

def popped : Call → Option (HeightRange × Chunk)
  | .pop left => left
  | _ => none

def chunkAt (start : Height) : Call → Option Chunk
  | .fill h chunk true => if h = start then some chunk else none
  | _ => none

def failedAt (start : Height) : Call → Bool
  | .fail h (some _) => h = start
  | _ => false

end Call

structure Usage where
  buffer : SlotBuffer
  calls : List Call

namespace Usage

def fresh (maxSlots : Nat) : Usage := ⟨.empty maxSlots, []⟩

def ask (usage : Usage) (command : Command) : Usage :=
  let (call, after) := usage.buffer.step command
  ⟨after, usage.calls ++ [call]⟩

def run (usage : Usage) (commands : List Command) : Usage := commands.foldl ask usage

def reserved (usage : Usage) : List HeightRange := usage.calls.flatMap Call.reserved

def popped (usage : Usage) : List (HeightRange × Chunk) := usage.calls.filterMap Call.popped

def waiting (usage : Usage) : List HeightRange := usage.reserved.drop usage.popped.length

def chunkAt (usage : Usage) (start : Height) : Option Chunk :=
  (usage.calls.filterMap (Call.chunkAt start)).getLast?

def failuresAt (usage : Usage) (start : Height) : Nat := usage.calls.countP (Call.failedAt start)

/-- Whether a command that reserves ranges starts above all that were reserved before. -/
def startsAbove (usage : Usage) : Command → Bool
  | .reserve first _ _ => usage.reserved.all fun range => range.last < first
  | _ => true

def rising (usage : Usage) : List Command → Bool
  | [] => true
  | command :: rest => usage.startsAbove command && (usage.ask command).rising rest

def slotOf (usage : Usage) (range : HeightRange) : RangeSlot :=
  ⟨range, usage.chunkAt range.first, UInt32.ofNat (usage.failuresAt range.first)⟩

section Ask

variable (usage : Usage) (command : Command)

theorem buffer_ask : (usage.ask command).buffer = (usage.buffer.step command).2 := rfl

theorem reserved_ask :
    (usage.ask command).reserved = usage.reserved ++ (usage.buffer.step command).1.reserved := by
  simp [reserved, ask]

theorem popped_ask :
    (usage.ask command).popped = usage.popped ++ (usage.buffer.step command).1.popped.toList := by
  cases left : (usage.buffer.step command).1.popped <;> simp [popped, ask, left]

theorem chunkAt_ask (start : Height) :
    (usage.ask command).chunkAt start =
      ((usage.buffer.step command).1.chunkAt start).or (usage.chunkAt start) := by
  cases own : (usage.buffer.step command).1.chunkAt start <;>
    simp [chunkAt, ask, List.getLast?_append, own]

theorem failuresAt_ask (start : Height) :
    (usage.ask command).failuresAt start =
      usage.failuresAt start + if (usage.buffer.step command).1.failedAt start then 1 else 0 := by
  simp [failuresAt, ask, List.countP_append, List.countP_cons]

end Ask

/-- The buffer is what the calls make of it. -/
structure Tracked (maxSlots : Nat) (usage : Usage) : Prop where
  limit : usage.buffer.limit = max maxSlots 1
  bounded : usage.buffer.slots.length ≤ usage.buffer.limit
  ascending : Ascending usage.reserved
  accounted : usage.reserved = usage.popped.map (·.1) ++ usage.waiting
  slots : usage.buffer.slots = usage.waiting.map usage.slotOf
  paired : ∀ left ∈ usage.popped, usage.chunkAt left.1.first = some left.2
  /-- Nothing is known about a start before a range is reserved there. -/
  unknown : ∀ start, (∀ range ∈ usage.reserved, range.first ≠ start) →
    usage.chunkAt start = none ∧ usage.failuresAt start = 0

theorem tracked_fresh (maxSlots : Nat) : Tracked maxSlots (fresh maxSlots) where
  limit := rfl
  bounded := Nat.zero_le _
  ascending := List.Pairwise.nil
  accounted := rfl
  slots := rfl
  paired := fun _ none => (nomatch none)
  unknown := fun _ _ => ⟨rfl, rfl⟩

section Tracked

variable {maxSlots : Nat} {usage : Usage}

theorem waiting_eq {ranges : List HeightRange}
    (accounted : usage.reserved = usage.popped.map (·.1) ++ ranges) : usage.waiting = ranges := by
  rw [waiting, accounted, ← List.length_map (·.1), List.drop_left]

theorem Tracked.ascending_waiting (tracked : Tracked maxSlots usage) : Ascending usage.waiting :=
  tracked.ascending.sublist (List.drop_sublist _ _)

theorem Tracked.ranges_eq (tracked : Tracked maxSlots usage) :
    usage.buffer.slots.map (·.range) = usage.waiting := by
  rw [tracked.slots, List.map_map]
  exact List.map_id _

theorem Tracked.sorted (tracked : Tracked maxSlots usage) : usage.buffer.Sorted := by
  rw [Sorted, tracked.slots, List.pairwise_map]
  apply tracked.ascending_waiting.imp
  intro earlier later below
  exact UInt64.lt_of_le_of_lt earlier.ordered below

theorem Tracked.first_mem_iff (tracked : Tracked maxSlots usage) (start : Height) :
    (∃ slot ∈ usage.buffer.slots, slot.range.first = start) ↔ start ∈ usage.waiting.map (·.first) := by
  simp [tracked.slots, slotOf]

theorem Tracked.left_ne (tracked : Tracked maxSlots usage) {left : HeightRange × Chunk}
    {range : HeightRange} (gone : left ∈ usage.popped) (member : range ∈ usage.waiting) :
    left.1.first ≠ range.first := by
  have ascending := tracked.ascending
  rw [tracked.accounted] at ascending
  have below := (List.pairwise_append.1 ascending).2.2 left.1 (List.mem_map_of_mem gone) range member
  exact UInt64.ne_of_lt (UInt64.lt_of_le_of_lt left.1.ordered below)

section Ask

variable {command : Command} {call : Call} {buffer : SlotBuffer}

theorem ranges_ask (did : usage.buffer.step command = (call, buffer)) (added : call.reserved = [])
    (taken : call.popped = none) :
    (usage.ask command).reserved = usage.reserved ∧ (usage.ask command).popped = usage.popped ∧
      (usage.ask command).waiting = usage.waiting := by
  have reserved : (usage.ask command).reserved = usage.reserved := by
    rw [reserved_ask, did, added, List.append_nil]
  have popped : (usage.ask command).popped = usage.popped := by
    rw [popped_ask, did, taken]
    exact List.append_nil _
  refine ⟨reserved, popped, ?_⟩
  rw [waiting, waiting, reserved, popped]

theorem known_ask (unset : ∀ start, (usage.buffer.step command).1.chunkAt start = none)
    (unfailed : ∀ start, (usage.buffer.step command).1.failedAt start = false) :
    (∀ start, (usage.ask command).chunkAt start = usage.chunkAt start) ∧
      (∀ start, (usage.ask command).failuresAt start = usage.failuresAt start) ∧
      (usage.ask command).slotOf = usage.slotOf := by
  have chunks (start : Height) : (usage.ask command).chunkAt start = usage.chunkAt start := by
    rw [chunkAt_ask, unset, Option.none_or]
  have failures (start : Height) : (usage.ask command).failuresAt start = usage.failuresAt start := by
    rw [failuresAt_ask, unfailed]
    rfl
  refine ⟨chunks, failures, ?_⟩
  funext range
  rw [slotOf, slotOf, chunks, failures]

theorem Tracked.idle (tracked : Tracked maxSlots usage)
    (did : usage.buffer.step command = (call, usage.buffer)) (added : call.reserved = [])
    (taken : call.popped = none) (unset : ∀ start, call.chunkAt start = none)
    (unfailed : ∀ start, call.failedAt start = false) : Tracked maxSlots (usage.ask command) := by
  obtain ⟨reserved, popped, waiting⟩ := ranges_ask did added taken
  have buffer : (usage.ask command).buffer = usage.buffer := by rw [buffer_ask, did]
  obtain ⟨chunks, failures, slots⟩ : _ ∧ _ ∧ (usage.ask command).slotOf = usage.slotOf :=
    known_ask (by rwa [did]) (by rwa [did])
  constructor
  · rw [buffer]
    exact tracked.limit
  · rw [buffer]
    exact tracked.bounded
  · rw [reserved]
    exact tracked.ascending
  · rw [reserved, popped, waiting]
    exact tracked.accounted
  · rw [buffer, waiting, slots]
    exact tracked.slots
  · intro left gone
    rw [popped] at gone
    rw [chunks]
    exact tracked.paired left gone
  · intro start others
    rw [reserved] at others
    rw [chunks, failures]
    exact tracked.unknown start others

theorem Tracked.changed (tracked : Tracked maxSlots usage) {start : Height}
    {change : RangeSlot → RangeSlot} (present : ∃ slot ∈ usage.buffer.slots, slot.range.first = start)
    (did : usage.buffer.step command = (call, usage.buffer.changeAt start change))
    (added : call.reserved = []) (taken : call.popped = none)
    (others : ∀ other, other ≠ start → call.chunkAt other = none ∧ call.failedAt other = false)
    (own : ∀ range : HeightRange, range.first = start →
      (usage.ask command).slotOf range = change (usage.slotOf range)) :
    Tracked maxSlots (usage.ask command) := by
  obtain ⟨reserved, popped, waiting⟩ := ranges_ask did added taken
  have buffer : (usage.ask command).buffer = usage.buffer.changeAt start change := by
    rw [buffer_ask, did]
  have chunks {other : Height} (differs : other ≠ start) :
      (usage.ask command).chunkAt other = usage.chunkAt other := by
    rw [chunkAt_ask, did, (others other differs).1, Option.none_or]
  have failures {other : Height} (differs : other ≠ start) :
      (usage.ask command).failuresAt other = usage.failuresAt other := by
    rw [failuresAt_ask, did, (others other differs).2]
    rfl
  obtain ⟨range, member, here⟩ := List.mem_map.1 ((tracked.first_mem_iff start).1 present)
  constructor
  · rw [buffer]
    exact tracked.limit
  · rw [buffer, changeAt, List.length_map]
    exact tracked.bounded
  · rw [reserved]
    exact tracked.ascending
  · rw [reserved, popped, waiting]
    exact tracked.accounted
  · rw [buffer, changeAt, waiting, tracked.slots, List.map_map]
    apply List.map_congr_left
    intro other _
    change (if other.first = start then change (usage.slotOf other) else usage.slotOf other) = _
    by_cases same : other.first = start
    · rw [if_pos same, own other same]
    · rw [if_neg same, slotOf, slotOf, chunks same, failures same]
  · -- what has left has other starts, and keeps its chunk
    intro left gone
    rw [popped] at gone
    have apart := tracked.left_ne gone member
    rw [here] at apart
    rw [chunks apart]
    exact tracked.paired left gone
  · intro missing unreserved
    rw [reserved] at unreserved
    have apart : missing ≠ start := by
      intro same
      exact unreserved range (List.mem_of_mem_drop member) (here.trans same.symm)
    rw [chunks apart, failures apart]
    exact tracked.unknown missing unreserved

end Ask

theorem tracked_reserve (tracked : Tracked maxSlots usage) {first last size : Height}
    (above : usage.startsAbove (.reserve first last size) = true) :
    Tracked maxSlots (usage.ask (.reserve first last size)) := by
  have below : ∀ range ∈ usage.reserved, range.last < first := by
    simpa [startsAbove] using above
  have ahead {range : HeightRange} (member : range ∈ (usage.buffer.reserve first last size).1) :
      first ≤ range.first := start_le_of_consecutive (consecutive_reserve _ _ _ _) member
  have reserved := reserved_ask usage (.reserve first last size)
  change _ = usage.reserved ++ (usage.buffer.reserve first last size).1 at reserved
  have popped : (usage.ask (.reserve first last size)).popped = usage.popped := by
    rw [popped_ask]
    exact List.append_nil _
  obtain ⟨chunks, failures, slots⟩ : _ ∧ _ ∧ (usage.ask (.reserve first last size)).slotOf = _ :=
    known_ask (fun _ => rfl) fun _ => rfl
  have accounted : (usage.ask (.reserve first last size)).reserved =
      usage.popped.map (·.1) ++ (usage.waiting ++ (usage.buffer.reserve first last size).1) := by
    rw [reserved, ← List.append_assoc, ← tracked.accounted]
  have waiting : (usage.ask (.reserve first last size)).waiting =
      usage.waiting ++ (usage.buffer.reserve first last size).1 := by
    apply waiting_eq
    rw [popped, accounted]
  -- nothing is known yet about the starts of the new ranges
  have fresh : ∀ range ∈ (usage.buffer.reserve first last size).1,
      RangeSlot.reserved range = usage.slotOf range := by
    intro range member
    have unreserved : ∀ old ∈ usage.reserved, old.first ≠ range.first := by
      intro old known
      have low := UInt64.lt_of_le_of_lt old.ordered (below old known)
      exact UInt64.ne_of_lt (UInt64.lt_of_lt_of_le low (ahead member))
    obtain ⟨none, zero⟩ := tracked.unknown range.first unreserved
    rw [slotOf, none, zero]
    rfl
  constructor
  · exact tracked.limit
  · exact length_reserve_le tracked.bounded
  · rw [reserved]
    refine List.pairwise_append.2 ⟨tracked.ascending, ascending_reserve _ _ _ _, ?_⟩
    intro old known range member
    exact UInt64.lt_of_lt_of_le (below old known) (ahead member)
  · rw [popped, waiting, accounted]
  · rw [waiting, slots, List.map_append, ← tracked.slots, ← List.map_congr_left fresh]
    rfl
  · intro left gone
    rw [popped] at gone
    rw [chunks]
    exact tracked.paired left gone
  · intro start others
    rw [reserved] at others
    rw [chunks, failures]
    exact tracked.unknown start fun range member => others range (List.mem_append_left _ member)

theorem tracked_fill (tracked : Tracked maxSlots usage) (start : Height) (chunk : Chunk) :
    Tracked maxSlots (usage.ask (.fill start chunk)) := by
  have did := step_fill tracked.sorted start chunk
  by_cases present : ∃ slot ∈ usage.buffer.slots, slot.range.first = start
  · rw [if_pos present] at did
    apply tracked.changed present did rfl rfl
    · intro other differs
      exact ⟨if_neg differs.symm, rfl⟩
    · intro range here
      rw [slotOf, chunkAt_ask, failuresAt_ask, did, Call.chunkAt, if_pos here.symm]
      rfl
  · rw [if_neg present] at did
    exact tracked.idle did rfl rfl (fun _ => rfl) fun _ => rfl

theorem tracked_fail (tracked : Tracked maxSlots usage) (start : Height) :
    Tracked maxSlots (usage.ask (.fail start)) := by
  rcases fail?_cases tracked.sorted start with ⟨_, missing⟩ | ⟨slot, member, here, failed⟩
  · have did : usage.buffer.step (.fail start) = (.fail start none, usage.buffer) := by
      rw [step, missing]
    exact tracked.idle did rfl rfl (fun _ => rfl) fun _ => rfl
  · have did : usage.buffer.step (.fail start) = (.fail start (some (slot.failures + 1)),
        usage.buffer.changeAt start .failed) := by
      rw [step, failed]
    apply tracked.changed ⟨slot, member, here⟩ did rfl rfl
    · intro other differs
      exact ⟨rfl, decide_eq_false differs.symm⟩
    · intro range here
      have counted : (Call.fail start (some (slot.failures + 1))).failedAt range.first = true :=
        decide_eq_true here.symm
      rw [slotOf, chunkAt_ask, failuresAt_ask, did, counted, if_pos rfl, UInt32.ofNat_add]
      rfl

theorem tracked_pop (tracked : Tracked maxSlots usage) : Tracked maxSlots (usage.ask .pop) := by
  cases popped : usage.buffer.pop? with
  | none =>
    have did : usage.buffer.step .pop = (.pop none, usage.buffer) := by rw [step, popped]
    exact tracked.idle did rfl rfl (fun _ => rfl) fun _ => rfl
  | some front =>
    obtain ⟨⟨range, chunk⟩, rest⟩ := front
    have did : usage.buffer.step .pop = (.pop (some (range, chunk)), rest) := by rw [step, popped]
    obtain ⟨slot, own, filled, shape, limit⟩ := pop?_eq_some popped
    -- the first slot is that of the oldest range, so its chunk is what was set for that range
    have waited : usage.waiting = range :: rest.slots.map (·.range) := by
      rw [← tracked.ranges_eq, shape, List.map_cons, own]
    have known := tracked.slots
    rw [shape, waited, List.map_cons] at known
    obtain ⟨front, behind⟩ := List.cons_eq_cons.1 known
    have reserved : (usage.ask .pop).reserved = usage.reserved := by
      rw [reserved_ask, did]
      exact List.append_nil _
    have left : (usage.ask .pop).popped = usage.popped ++ [(range, chunk)] := by
      rw [popped_ask, did]
      rfl
    obtain ⟨chunks, failures, slots⟩ : _ ∧ _ ∧ (usage.ask .pop).slotOf = usage.slotOf := by
      apply known_ask <;> simp [did, Call.chunkAt, Call.failedAt]
    have accounted : (usage.ask .pop).reserved =
        (usage.ask .pop).popped.map (·.1) ++ rest.slots.map (·.range) := by
      rw [reserved, left, tracked.accounted, waited, List.map_append, List.append_assoc]
      rfl
    constructor
    · rw [buffer_ask, did]
      exact limit.trans tracked.limit
    · have bounded := tracked.bounded
      rw [shape, List.length_cons] at bounded
      rw [buffer_ask, did, limit]
      exact Nat.le_of_succ_le bounded
    · rw [reserved]
      exact tracked.ascending
    · rw [waiting_eq accounted, accounted]
    · rw [waiting_eq accounted, slots, ← behind, buffer_ask, did]
    · intro gone member
      rw [left] at member
      rw [chunks]
      rcases List.mem_append.1 member with earlier | now
      · exact tracked.paired gone earlier
      · rw [List.mem_singleton.1 now, ← filled, front]
        rfl
    · intro start others
      rw [reserved] at others
      rw [chunks, failures]
      exact tracked.unknown start others

theorem tracked_ask (tracked : Tracked maxSlots usage) {command : Command}
    (above : usage.startsAbove command = true) : Tracked maxSlots (usage.ask command) := by
  cases command with
  | reserve first last size => exact tracked_reserve tracked above
  | fill start chunk => exact tracked_fill tracked start chunk
  | fail start => exact tracked_fail tracked start
  | pop => exact tracked_pop tracked

theorem tracked_run (tracked : Tracked maxSlots usage) {commands : List Command}
    (rising : usage.rising commands = true) : Tracked maxSlots (usage.run commands) := by
  induction commands generalizing usage with
  | nil => exact tracked
  | cons command rest ih =>
    rw [Usage.rising, Bool.and_eq_true] at rising
    exact ih (tracked_ask tracked rising.1) rising.2

end Tracked

/-- The buffer as its users see it, after all that it was asked. -/
structure Reassembled (maxSlots : Nat) (usage : Usage) : Prop where
  bounded : usage.buffer.slots.length ≤ max maxSlots 1
  /-- Each range has a start of its own. -/
  starts : (usage.reserved.map (·.first)).Nodup
  inOrder : usage.popped.map (·.1) <+: usage.reserved
  paired : ∀ left ∈ usage.popped, usage.chunkAt left.1.first = some left.2
  leaves : usage.buffer.pop?.map (·.1) =
    usage.waiting.head?.bind fun range => (usage.chunkAt range.first).map fun chunk => (range, chunk)
  blocked : usage.buffer.pop? = none ↔
    ∀ range, usage.waiting.head? = some range → usage.chunkAt range.first = none
  slots : usage.buffer.slots = usage.waiting.map usage.slotOf
  searched : ∀ start,
    usage.buffer.position? start = usage.buffer.slots.findIdx? fun slot => slot.range.first = start
  fills : ∀ start chunk,
    (usage.buffer.fill? start chunk).isSome = true ↔ start ∈ usage.waiting.map (·.first)
  filled : ∀ start chunk after, usage.buffer.fill? start chunk = some after →
    after = usage.buffer.changeAt start (.filled chunk)
  refilled : ∀ start chunk,
    (usage.buffer.step (.fill start chunk)).2.step (.fill start chunk) =
      usage.buffer.step (.fill start chunk)
  fails : ∀ start, (usage.buffer.fail? start).isSome = true ↔ start ∈ usage.waiting.map (·.first)
  failed : ∀ start attempts after, usage.buffer.fail? start = some (attempts, after) →
    (usage.failuresAt start + 1 < 2 ^ 32 → attempts.toNat = usage.failuresAt start + 1) ∧
      after = usage.buffer.changeAt start .failed

theorem reassembled_of_tracked {maxSlots : Nat} {usage : Usage} (tracked : Tracked maxSlots usage) :
    Reassembled maxSlots usage := by
  have present := tracked.first_mem_iff
  constructor
  · rw [← tracked.limit]
    exact tracked.bounded
  · apply List.pairwise_map.2
    apply tracked.ascending.imp
    intro earlier later below
    exact UInt64.ne_of_lt (UInt64.lt_of_le_of_lt earlier.ordered below)
  · rw [tracked.accounted]
    exact List.prefix_append _ _
  · exact tracked.paired
  · rw [pop?, tracked.slots]
    rcases usage.waiting with _ | ⟨range, rest⟩
    · rfl
    · cases chunk : usage.chunkAt range.first <;> simp [slotOf, chunk]
  · rw [pop?_eq_none_iff, front?, tracked.slots, List.head?_map]
    cases usage.waiting.head? <;> simp [slotOf]
  · exact tracked.slots
  · exact position?_eq_findIdx? tracked.sorted
  · intro start chunk
    rw [← present]
    rcases fill?_cases tracked.sorted start chunk with ⟨absent, missing⟩ | ⟨found, filled⟩
    · simpa [missing] using absent
    · simpa [filled] using found
  · intro start chunk after did
    rcases fill?_cases tracked.sorted start chunk with ⟨_, missing⟩ | ⟨_, filled⟩
    · rw [missing] at did
      cases did
    · rw [filled] at did
      exact (Option.some.inj did).symm
  · exact step_fill_again tracked.sorted
  · intro start
    rw [← present]
    rcases fail?_cases tracked.sorted start with ⟨absent, missing⟩ | ⟨slot, member, here, failed⟩
    · simpa [missing] using absent
    · simpa [failed] using ⟨slot, member, here⟩
  · intro start attempts after did
    rcases fail?_cases tracked.sorted start with ⟨_, missing⟩ | ⟨slot, member, here, failed⟩
    · rw [missing] at did
      cases did
    · rw [failed] at did
      cases did
      refine ⟨fun few => ?_, rfl⟩
      rw [tracked.slots] at member
      obtain ⟨range, _, rfl⟩ := List.mem_map.1 member
      have counted : (usage.slotOf range).failures = UInt32.ofNat (usage.failuresAt start) := by
        rw [← here]
        rfl
      rw [counted, UInt32.toNat_add, UInt32.toNat_ofNat']
      simp
      omega

theorem reassembled_run {maxSlots : Nat} {commands : List Command}
    (rising : (fresh maxSlots).rising commands = true) :
    Reassembled maxSlots ((fresh maxSlots).run commands) :=
  reassembled_of_tracked (tracked_run (tracked_fresh maxSlots) rising)

/-- Two ranges filled in the wrong order, one of them twice, with failures and with a chunk for no range;
a third one once there is room for it. -/
theorem reassembled_out_of_order :
    let late : Chunk := ⟨[⟨⟨1, [], "plain", "", "", []⟩, []⟩]⟩
    let commands : List Command := [.reserve 1 7 3, .fill 4 ⟨[]⟩, .pop, .fail 1, .fail 1, .fill 2 late,
      .fill 1 ⟨[]⟩, .fill 1 late, .pop, .reserve 7 7 3, .fill 1 ⟨[]⟩, .fail 7, .pop, .pop]
    let usage := (fresh 2).run commands
    (fresh 2).rising commands = true ∧ Reassembled 2 usage ∧
      usage.popped.map (fun left => (left.1.ends, left.2)) = [((1, 3), late), ((4, 6), ⟨[]⟩)] ∧
      usage.failuresAt 1 = 2 := by
  intro late commands usage
  have rising : (fresh 2).rising commands = true := by decide +kernel
  exact ⟨rising, reassembled_run rising, by decide +kernel, by decide +kernel⟩

end Usage

end SlotBuffer

end TokenIndexer
