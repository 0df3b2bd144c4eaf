import TokenIndexer.Proofs.Ingest.Consecutive

namespace TokenIndexer

@[simp] theorem RangeSlot.map_range_reserved (ranges : List HeightRange) :
    (ranges.map RangeSlot.reserved).map (·.range) = ranges := by
  simp [Function.comp_def, RangeSlot.reserved]

namespace SlotBuffer

theorem split_cases (size last first : Height) (count : Nat) :
    split size last (count + 1) first = [] ∨
      ∃ range : HeightRange, range.first = first ∧ range.last ≤ last ∧
        split size last (count + 1) first =
          range :: if range.last = last then [] else split size last count (range.last + 1) := by
  rw [split]
  cases made : HeightRange.make first (min (first.advance (size - 1)) last) with
  | error e => exact .inl rfl
  | ok range =>
    obtain ⟨start, stop⟩ := HeightRange.ends_of_make made
    refine .inr ⟨range, start, ?_, by simp only [stop]⟩
    rw [stop]
    change (if _ then _ else _) ≤ last
    split
    · next low => exact low
    · exact UInt64.le_refl _

theorem consecutive_split (size last first : Height) (count : Nat) :
    Consecutive first (split size last count first) := by
  induction count generalizing first with
  | zero => trivial
  | succ count ih =>
    rcases split_cases size last first count with empty | ⟨range, start, bound, shape⟩
    · rw [empty]
      trivial
    · rw [shape]
      refine ⟨start, ?_⟩
      split
      · trivial
      · next unfinished =>
        rw [Height.next_of_lt (UInt64.lt_of_le_of_ne bound unfinished)]
        exact ih _

theorem last_le_of_mem_split {size last first : Height} {count : Nat} {range : HeightRange}
    (member : range ∈ split size last count first) : range.last ≤ last := by
  induction count generalizing first with
  | zero => cases member
  | succ count ih =>
    rcases split_cases size last first count with empty | ⟨head, _, bound, shape⟩
    · rw [empty] at member
      cases member
    · rw [shape] at member
      rcases List.mem_cons.1 member with rfl | later
      · exact bound
      · split at later
        · cases later
        · exact ih later

theorem split_ne_nil {size last first : Height} (count : Nat) (positive : 0 < first)
    (ordered : first ≤ last) : split size last (count + 1) first ≠ [] := by
  have rising : first ≤ min (first.advance (size - 1)) last := by
    have bound := Height.toNat_le first
    change first ≤ if _ then _ else _
    split
    · rw [UInt64.le_iff_toNat_le, Height.toNat_advance]
      omega
    · exact ordered
  rw [split, HeightRange.make_eq_ok positive rising]
  exact List.cons_ne_nil _ _

theorem ascending_split (size last first : Height) (count : Nat) :
    Ascending (split size last count first) := by
  induction count generalizing first with
  | zero => exact List.Pairwise.nil
  | succ count ih =>
    rcases split_cases size last first count with empty | ⟨range, _, bound, shape⟩
    · rw [empty]
      exact List.Pairwise.nil
    · rw [shape]
      split
      · exact List.pairwise_singleton _ _
      · next unfinished =>
        refine List.pairwise_cons.2 ⟨fun later member => ?_, ih _⟩
        have below := UInt64.lt_of_le_of_ne bound unfinished
        have ahead := start_le_of_consecutive (consecutive_split size last (range.last + 1) count) member
        have top := Height.toNat_le last
        rw [UInt64.lt_iff_toNat_lt] at below
        rw [UInt64.le_iff_toNat_le, Height.toNat_succ (by omega)] at ahead
        rw [UInt64.lt_iff_toNat_lt]
        omega

theorem length_split_le (size last : Height) (count : Nat) (first : Height) :
    (split size last count first).length ≤ count := by
  induction count generalizing first with
  | zero => simp [split]
  | succ count ih =>
    rw [split]
    split
    · exact Nat.zero_le _
    · split
      · simp
      · exact Nat.succ_le_succ (ih _)

variable {buffer : SlotBuffer} {first last size h : Height}

theorem consecutive_reserve (buffer : SlotBuffer) (first last size : Height) :
    Consecutive first (buffer.reserve first last size).1 := by
  change Consecutive first (rangesOf _ _ _ _)
  rw [rangesOf]
  split
  · trivial
  · exact consecutive_split _ _ _ _

theorem ascending_reserve (buffer : SlotBuffer) (first last size : Height) :
    Ascending (buffer.reserve first last size).1 := by
  change Ascending (rangesOf _ _ _ _)
  rw [rangesOf]
  split
  · exact List.Pairwise.nil
  · exact ascending_split _ _ _ _

theorem last_le_of_mem_reserve {range : HeightRange}
    (member : range ∈ (buffer.reserve first last size).1) : range.last ≤ last := by
  change range ∈ rangesOf _ _ _ _ at member
  rw [rangesOf] at member
  split at member
  · cases member
  · exact last_le_of_mem_split member

theorem length_reserve_le (room : buffer.slots.length ≤ buffer.limit) :
    (buffer.reserve first last size).2.slots.length ≤ buffer.limit := by
  have fits : (rangesOf buffer.free first last size).length ≤ buffer.free := by
    rw [rangesOf]
    split
    · exact Nat.zero_le _
    · exact length_split_le _ _ _ _
  rw [free] at fits
  simp only [reserve, List.length_append, List.length_map, free]
  omega

theorem reserve_ne_nil (vacant : buffer.isFull = false) (positive : 0 < first) (ordered : first ≤ last)
    (sized : size ≠ 0) : (buffer.reserve first last size).1 ≠ [] := by
  have room : ∃ count, buffer.free = count + 1 := by
    refine ⟨buffer.free - 1, ?_⟩
    have below : buffer.slots.length < buffer.limit := by simpa [isFull] using vacant
    unfold free
    omega
  obtain ⟨count, free⟩ := room
  change rangesOf buffer.free first last size ≠ []
  rw [rangesOf, if_neg (by simp [sized, UInt64.not_lt.2 ordered]), free]
  exact split_ne_nil count positive ordered

theorem first_eq_of_search {slots : List RangeSlot} {low count index : Nat}
    (found : search slots h low count = some index) :
    ∃ slot, slots[index]? = some slot ∧ slot.range.first = h := by
  fun_induction search slots h low count with
  | case1 => cases found
  | case2 => cases found
  | case3 _ _ _ _ slot there same =>
    rw [← Option.some.inj found]
    exact ⟨slot, there, same⟩
  | case4 _ _ _ _ _ _ _ _ ih => exact ih found
  | case5 _ _ _ _ _ _ _ _ ih => exact ih found

theorem search_isSome {slots : List RangeSlot}
    (sorted : slots.Pairwise fun a b => a.range.first ≤ b.range.first) {low count index : Nat}
    {slot : RangeSlot} (present : slots[index]? = some slot) (same : slot.range.first = h)
    (least : low ≤ index) (most : index < low + count) (inside : low + count ≤ slots.length) :
    (search slots h low count).isSome := by
  have order : ∀ (i j : Nat) (a b : RangeSlot), i < j → slots[i]? = some a → slots[j]? = some b →
      a.range.first ≤ b.range.first := by
    intro i j a b before atFirst atSecond
    obtain ⟨_, rfl⟩ := List.getElem?_eq_some_iff.1 atFirst
    obtain ⟨_, rfl⟩ := List.getElem?_eq_some_iff.1 atSecond
    exact List.pairwise_iff_getElem.1 sorted i j _ _ before
  fun_induction search slots h low count with
  | case1 => omega
  | case2 low count nonzero middle missing =>
    rw [List.getElem?_eq_none_iff] at missing
    omega
  | case3 => rfl
  | case4 low count nonzero middle other there differs lower ih =>
    have above : middle < index := by
      rcases Nat.lt_trichotomy index middle with before | rfl | after
      · have := order index middle slot other before present there
        rw [same] at this
        exact absurd lower (UInt64.not_lt.2 this)
      · rw [present] at there
        cases there
        exact absurd same differs
      · exact after
    exact ih (by omega) (by omega) (by omega)
  | case5 low count nonzero middle other there differs lower ih =>
    have below : index < middle := by
      rcases Nat.lt_trichotomy index middle with before | rfl | after
      · exact before
      · rw [present] at there
        cases there
        exact absurd same differs
      · have := order middle index other slot after there present
        rw [same] at this
        exact absurd (UInt64.le_antisymm this (UInt64.not_lt.1 lower)) differs
    exact ih (by omega) (by omega) (by omega)

theorem first_eq_of_position? {index : Nat} (found : buffer.position? h = some index) :
    ∃ slot, buffer.slots[index]? = some slot ∧ slot.range.first = h :=
  first_eq_of_search found

theorem position?_of_mem (sorted : buffer.slots.Pairwise fun a b => a.range.first ≤ b.range.first)
    {slot : RangeSlot} (member : slot ∈ buffer.slots) (same : slot.range.first = h) :
    ∃ index, buffer.position? h = some index := by
  obtain ⟨index, inside, rfl⟩ := List.mem_iff_getElem.1 member
  exact Option.isSome_iff_exists.1 (search_isSome sorted (List.getElem?_eq_getElem inside) same
    (Nat.zero_le _) (by omega) (by omega))

theorem modify_eq {index : Nat} {slot : RangeSlot} (present : buffer.slots[index]? = some slot)
    (change : RangeSlot → RangeSlot) :
    ∃ front back, buffer.slots = front ++ slot :: back ∧
      buffer.modify index change = { buffer with slots := front ++ change slot :: back } := by
  obtain ⟨inside, rfl⟩ := List.getElem?_eq_some_iff.1 present
  refine ⟨buffer.slots.take index, buffer.slots.drop (index + 1), ?_, ?_⟩
  · rw [← List.drop_eq_getElem_cons inside, List.take_append_drop]
  · rw [modify, List.modify_eq_take_cons_drop inside]

theorem modify_congr {index : Nat} {slot : RangeSlot} (present : buffer.slots[index]? = some slot)
    {change other : RangeSlot → RangeSlot} (same : change slot = other slot) :
    buffer.modify index change = buffer.modify index other := by
  have slots : buffer.slots.modify index change = buffer.slots.modify index other := by
    apply List.ext_getElem?
    intro k
    rw [List.getElem?_modify, List.getElem?_modify]
    by_cases here : index = k
    · subst here
      simp [present, same]
    · simp [here]
  rw [modify, modify, slots]

theorem fill?_eq_some {chunk : Chunk} {filled : SlotBuffer}
    (found : buffer.fill? h chunk = some filled) :
    ∃ front slot back, buffer.slots = front ++ slot :: back ∧ slot.range.first = h ∧
      filled = { buffer with slots := front ++ { slot with chunk := some chunk } :: back } := by
  obtain ⟨index, position, rfl⟩ := Option.map_eq_some_iff.1 found
  obtain ⟨slot, present, same⟩ := first_eq_of_position? position
  obtain ⟨front, back, shape, changed⟩ := modify_eq present fun slot => { slot with chunk := some chunk }
  exact ⟨front, slot, back, shape, same, changed⟩

theorem fail?_eq_some {attempts : UInt32} {failed : SlotBuffer}
    (found : buffer.fail? h = some (attempts, failed)) :
    ∃ front slot back, buffer.slots = front ++ slot :: back ∧ slot.range.first = h ∧
      attempts = slot.failures + 1 ∧
      failed = { buffer with slots := front ++ { slot with failures := slot.failures + 1 } :: back } := by
  obtain ⟨index, position, counted⟩ := Option.bind_eq_some_iff.1 found
  obtain ⟨slot, present, same⟩ := first_eq_of_position? position
  obtain ⟨front, back, shape, changed⟩ :=
    modify_eq present fun slot => { slot with failures := slot.failures + 1 }
  rw [present, Option.map_some, Option.some.injEq, Prod.mk.injEq] at counted
  exact ⟨front, slot, back, shape, same, counted.1.symm, counted.2.symm.trans changed⟩

theorem fail?_isSome {index : Nat} (position : buffer.position? h = some index) :
    ∃ attempts failed, buffer.fail? h = some (attempts, failed) := by
  obtain ⟨slot, present, _⟩ := first_eq_of_position? position
  rw [fail?, position, Option.bind_some, present]
  exact ⟨_, _, rfl⟩

theorem pop?_eq_some {rest : SlotBuffer} {range : HeightRange} {chunk : Chunk}
    (popped : buffer.pop? = some ((range, chunk), rest)) :
    ∃ slot : RangeSlot, slot.range = range ∧ slot.chunk = some chunk ∧
      buffer.slots = slot :: rest.slots ∧ rest.limit = buffer.limit := by
  unfold pop? at popped
  split at popped
  · next failures tail shape =>
    cases popped
    exact ⟨_, rfl, rfl, shape, rfl⟩
  · cases popped

theorem pop?_eq_none_iff :
    buffer.pop? = none ↔ ∀ slot, buffer.front? = some slot → slot.chunk = none := by
  rw [pop?, front?]
  rcases buffer.slots with _ | ⟨⟨range, chunk, failures⟩, rest⟩
  · simp
  · cases chunk <;> simp

end SlotBuffer

end TokenIndexer
