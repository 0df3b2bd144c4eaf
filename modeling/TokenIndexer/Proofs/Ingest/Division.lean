import Mathlib.Algebra.Order.Floor.Div
import TokenIndexer.Proofs.Ingest.Slots

/-! A reservation divides its heights into pieces of one size, as many as the buffer has free slots. -/

namespace TokenIndexer

theorem Height.toNat_min (h other : Height) : (min h other).toNat = min h.toNat other.toNat := by
  change (if h ≤ other then h else other).toNat = _
  by_cases below : h ≤ other
  · rw [if_pos below, Nat.min_eq_left (UInt64.le_iff_toNat_le.1 below)]
  · have above := UInt64.le_iff_toNat_le.not.1 below
    rw [if_neg below, Nat.min_eq_right (by omega)]

theorem Height.toNat_pred {h : Height} (positive : 0 < h) : (h - 1).toNat = h.toNat - 1 := by
  have one : (1 : Height) ≤ h := by
    rw [UInt64.le_iff_toNat_le]
    exact UInt64.lt_iff_toNat_lt.1 positive
  exact UInt64.toNat_sub_of_le _ _ one

def HeightRange.ends (range : HeightRange) : Nat × Nat := (range.first.toNat, range.last.toNat)

namespace SlotBuffer

/-- The pieces of `size` numbers that make up the numbers from `first` to `last`, by their ends. -/
def division (first last size : Nat) : List (Nat × Nat) :=
  (List.range ((last + 1 - first) ⌈/⌉ size)).map fun index =>
    (first + index * size, min (first + (index + 1) * size - 1) last)

theorem ceilDiv_eq_succ {span size : Nat} (positive : 0 < size) (more : 0 < span) :
    span ⌈/⌉ size = (span - size) ⌈/⌉ size + 1 := by
  rw [Nat.ceilDiv_eq_add_pred_div, Nat.ceilDiv_eq_add_pred_div]
  rcases Nat.lt_or_ge span size with short | long
  · have one : (span + size - 1) / size = 1 := Nat.div_eq_of_lt_le (by omega) (by omega)
    have none : (span - size + size - 1) / size = 0 := Nat.div_eq_of_lt (by omega)
    rw [one, none]
  · calc
      (span + size - 1) / size = (span - size + size - 1 + size) / size := by congr 1; omega
      _ = (span - size + size - 1) / size + 1 := Nat.add_div_right _ positive

theorem division_nil {first last : Nat} (beyond : last < first) (size : Nat) :
    division first last size = [] := by
  rw [division, Nat.sub_eq_zero_of_le beyond, zero_ceilDiv, List.range_zero, List.map_nil]

theorem division_cons {first last size : Nat} (ordered : first ≤ last) (positive : 0 < size) :
    division first last size =
      (first, min (first + size - 1) last) :: division (first + size) last size := by
  have count : (last + 1 - first) ⌈/⌉ size = (last + 1 - (first + size)) ⌈/⌉ size + 1 := by
    rw [ceilDiv_eq_succ positive (by omega), Nat.sub_sub]
  rw [division, count, List.range_succ_eq_map, List.map_cons, List.map_map, division]
  congr 1
  · simp
  · apply List.map_congr_left
    intro index _
    rw [Function.comp_apply, Nat.succ_eq_add_one, Nat.add_mul (index + 1), Nat.add_mul index]
    congr 1 <;> omega

theorem length_division (first last size : Nat) :
    (division first last size).length = (last + 1 - first) ⌈/⌉ size := by
  rw [division, List.length_map, List.length_range]

theorem last_of_division {first last size : Nat} (ordered : first ≤ last) (positive : 0 < size) :
    (division first last size).getLast?.map (·.2) = some last := by
  induction hidden : last + 1 - first using Nat.strongRecOn generalizing first with
  | ind span ih =>
    rw [division_cons ordered positive]
    rcases Nat.lt_or_ge last (first + size) with final | further
    · rw [division_nil final, List.getLast?_singleton, Option.map_some]
      congr 1
      omega
    · have later := ih _ (by omega) further rfl
      rw [List.getLast?_cons]
      cases rest : (division (first + size) last size).getLast? with
      | none => simp [rest] at later
      | some piece => simpa [rest] using later

section Split

variable {first last size : Height}

/-- No range starts at height 0. -/
theorem split_genesis (size last : Height) (count : Nat) : split size last count 0 = [] := by
  cases count with
  | zero => rfl
  | succ count => rfl

theorem split_succ (count : Nat) (positive : 0 < first) (ordered : first ≤ last) (sized : 0 < size) :
    ∃ range : HeightRange, range.first = first ∧
      range.last.toNat = min (first.toNat + size.toNat - 1) last.toNat ∧
        split size last (count + 1) first =
          range :: if range.last = last then [] else split size last count (range.last + 1) := by
  have bound := Height.toNat_le last
  have some : 0 < size.toNat := UInt64.lt_iff_toNat_lt.1 sized
  have stop : (min (first.advance (size - 1)) last).toNat =
      min (first.toNat + size.toNat - 1) last.toNat := by
    rw [Height.toNat_min, Height.toNat_advance, Height.toNat_pred sized]
    omega
  have rising : first ≤ min (first.advance (size - 1)) last := by
    rw [UInt64.le_iff_toNat_le] at ordered ⊢
    omega
  refine ⟨⟨first, min (first.advance (size - 1)) last, positive, rising⟩, rfl, stop, ?_⟩
  rw [split, HeightRange.make_eq_ok positive rising]

theorem ends_split (count : Nat) (positive : 0 < first) (ordered : first ≤ last) (sized : 0 < size) :
    (split size last count first).map HeightRange.ends =
      (division first.toNat last.toNat size.toNat).take count := by
  have some : 0 < size.toNat := UInt64.lt_iff_toNat_lt.1 sized
  induction count generalizing first with
  | zero => rfl
  | succ count ih =>
    obtain ⟨range, start, stop, shape⟩ := split_succ count positive ordered sized
    have own : range.ends = (first.toNat, min (first.toNat + size.toNat - 1) last.toNat) := by
      rw [HeightRange.ends, start, stop]
    rw [shape, division_cons (UInt64.le_iff_toNat_le.1 ordered) some, List.take_succ_cons, List.map_cons, own]
    congr 1
    by_cases reached : range.last = last
    · have beyond : last.toNat < first.toNat + size.toNat := by
        rw [reached] at stop
        omega
      rw [if_pos reached, division_nil beyond, List.take_nil, List.map_nil]
    · have short : range.last.toNat ≠ last.toNat := fun same => reached (UInt64.toNat_inj.1 same)
      have bound := Height.toNat_le last
      have next : (range.last + 1).toNat = first.toNat + size.toNat := by
        rw [Height.toNat_succ (by omega)]
        omega
      rw [if_neg reached, ih, next]
      · exact UInt64.lt_iff_toNat_lt.2 (by rw [next]; exact Nat.add_pos_right _ some)
      · exact UInt64.le_iff_toNat_le.2 (by omega)

/-- No gap is left between two pieces, also below the greatest height. -/
theorem tiles_split (size last first : Height) (count : Nat) :
    Tiles first.toNat (split size last count first) := by
  induction count generalizing first with
  | zero => trivial
  | succ count ih =>
    rcases split_cases size last first count with empty | ⟨range, start, bound, shape⟩
    · rw [empty]
      trivial
    · rw [shape]
      refine ⟨congrArg UInt64.toNat start, ?_⟩
      split
      · trivial
      · next unfinished =>
        have below := UInt64.lt_iff_toNat_lt.1 (UInt64.lt_of_le_of_ne bound unfinished)
        have top := Height.toNat_le last
        rw [← Height.toNat_succ (by omega)]
        exact ih _

theorem size_le_of_mem_split {count : Nat} (positive : 0 < first) (ordered : first ≤ last)
    (sized : 0 < size) {range : HeightRange} (member : range ∈ split size last count first) : range.size ≤ size := by
  have piece : range.ends ∈ division first.toNat last.toNat size.toNat := by
    apply List.mem_of_mem_take
    rw [← ends_split count positive ordered sized]
    exact List.mem_map_of_mem member
  obtain ⟨index, _, same⟩ := List.mem_map.1 piece
  obtain ⟨start, stop⟩ := Prod.ext_iff.1 same
  change _ = range.first.toNat at start
  change _ = range.last.toNat at stop
  have some : 0 < size.toNat := UInt64.lt_iff_toNat_lt.1 sized
  have step : (index + 1) * size.toNat = index * size.toNat + size.toNat := Nat.succ_mul _ _
  rw [UInt64.le_iff_toNat_le, range.toNat_size]
  omega

end Split

theorem covered_of_tiles {start : Nat} {ranges : List HeightRange} (tiles : Tiles start ranges) :
    (ranges.flatMap (·.heights)).map UInt64.toNat =
      List.range' start (ranges.map (·.size.toNat)).sum := by
  obtain ⟨count, heights, _⟩ := heights_of_tiles tiles
  have each (range : HeightRange) : range.heights.length = range.size.toNat := by
    rw [← List.length_map UInt64.toNat, range.toNat_heights, List.length_range']
  have total : count = (ranges.map (·.size.toNat)).sum := by
    calc
      count = ((ranges.flatMap (·.heights)).map UInt64.toNat).length := by
        rw [heights, List.length_range']
      _ = (ranges.map (·.heights.length)).sum := by rw [List.length_map, List.length_flatMap]
      _ = (ranges.map (·.size.toNat)).sum := by simp only [each]
  rw [heights, total]

def extend (buffer : SlotBuffer) (ranges : List HeightRange) : SlotBuffer :=
  { buffer with slots := buffer.slots ++ ranges.map .reserved }

/-- A reservation as a loop, which goes on until the buffer is full, a range is none or the last height
is reached: from a start and a buffer it comes to some ranges and a buffer. -/
inductive Passes (last size : Height) :
    Height → SlotBuffer → List HeightRange → SlotBuffer → Prop where
  | full {start : Height} {buffer : SlotBuffer} (full : buffer.isFull = true) :
      Passes last size start buffer [] buffer
  | refused {start : Height} {buffer : SlotBuffer} {error : HeightRange.Error}
      (vacant : buffer.isFull = false)
      (refused : HeightRange.make start (min (start.advance (size - 1)) last) = .error error) :
      Passes last size start buffer [] buffer
  | reached {start : Height} {buffer : SlotBuffer} {range : HeightRange}
      (vacant : buffer.isFull = false)
      (made : HeightRange.make start (min (start.advance (size - 1)) last) = .ok range)
      (reached : range.last = last) :
      Passes last size start buffer [range] (buffer.extend [range])
  | onward {start : Height} {buffer after : SlotBuffer} {range : HeightRange}
      {ranges : List HeightRange} (vacant : buffer.isFull = false)
      (made : HeightRange.make start (min (start.advance (size - 1)) last) = .ok range)
      (short : range.last ≠ last)
      (later : Passes last size (range.last + 1) (buffer.extend [range]) ranges after) :
      Passes last size start buffer (range :: ranges) after

theorem isFull_iff_free {buffer : SlotBuffer} : buffer.isFull = true ↔ buffer.free = 0 := by
  rw [isFull, decide_eq_true_eq, free, Nat.sub_eq_zero_iff_le]

theorem free_extend (buffer : SlotBuffer) (range : HeightRange) :
    (buffer.extend [range]).free = buffer.free - 1 := by
  simp only [extend, free, List.length_append, List.length_map, List.length_singleton]
  omega

/-- The loop ends, with the ranges of the division. -/
theorem passes_split (last size start : Height) (buffer : SlotBuffer) :
    Passes last size start buffer (split size last buffer.free start)
      (buffer.extend (split size last buffer.free start)) := by
  induction room : buffer.free generalizing start buffer with
  | zero =>
    have same : buffer.extend [] = buffer := by simp [extend]
    rw [split, same]
    exact .full (isFull_iff_free.2 room)
  | succ count ih =>
    have vacant : buffer.isFull = false := by
      rw [← Bool.not_eq_true, isFull_iff_free]
      omega
    rw [split]
    cases made : HeightRange.make start (min (start.advance (size - 1)) last) with
    | error error =>
      have same : buffer.extend [] = buffer := by simp [extend]
      rw [same]
      exact .refused vacant made
    | ok range =>
      have stop := (HeightRange.ends_of_make made).2
      simp only [← stop]
      by_cases reached : range.last = last
      · rw [if_pos reached]
        exact .reached vacant made reached
      · have later := ih (range.last + 1) (buffer.extend [range]) (by rw [free_extend, room]; rfl)
        have same (ranges : List HeightRange) :
            (buffer.extend [range]).extend ranges = buffer.extend (range :: ranges) := by
          simp [extend]
        rw [same] at later
        rw [if_neg reached]
        exact .onward vacant made reached later

structure Divided (first last size : Height) (free : Nat) (ranges : List HeightRange) : Prop where
  ends : ranges.map HeightRange.ends = (division first.toNat last.toNat size.toNat).take free
  count : ranges.length = min free ((last.toNat - first.toNat + 1) ⌈/⌉ size.toNat)
  tiles : Tiles first.toNat ranges
  sizes : ∀ range ∈ ranges, 1 ≤ range.size ∧ range.size ≤ size
  covered : (ranges.flatMap (·.heights)).map UInt64.toNat =
    List.range' first.toNat (ranges.map (·.size.toNat)).sum
  /-- With room for all pieces nothing is left over. -/
  complete : (last.toNat - first.toNat + 1) ⌈/⌉ size.toNat ≤ free →
    ranges.getLast?.map (·.last) = some last

theorem divided_split {first last size : Height} (positive : 0 < first) (ordered : first ≤ last)
    (sized : 0 < size) (free : Nat) : Divided first last size free (split size last free first) := by
  have inOrder := UInt64.le_iff_toNat_le.1 ordered
  have some : 0 < size.toNat := UInt64.lt_iff_toNat_lt.1 sized
  have ends := ends_split free positive ordered sized
  have tiles := tiles_split size last first free
  have span : last.toNat - first.toNat + 1 = last.toNat + 1 - first.toNat := by omega
  refine { ends := ends, count := ?_, tiles := tiles, sizes := ?_, covered := covered_of_tiles tiles,
           complete := ?_ }
  · rw [← List.length_map HeightRange.ends, ends, List.length_take, length_division, span]
  · intro range member
    constructor
    · rw [UInt64.le_iff_toNat_le, range.toNat_size]
      exact Nat.le_add_left 1 _
    · exact size_le_of_mem_split positive ordered sized member
  · intro room
    rw [span, ← length_division] at room
    rw [List.take_of_length_le room] at ends
    have final := last_of_division inOrder some
    rw [← ends, List.getLast?_map, Option.map_map] at final
    cases stop : (split size last free first).getLast? with
    | none => simp [stop] at final
    | some range =>
      rw [stop] at final
      exact congrArg Option.some (UInt64.toNat_inj.1 (Option.some.inj final))

structure Reservation (buffer : SlotBuffer) (first last size : Height) (ranges : List HeightRange)
    (after : SlotBuffer) : Prop where
  nothing : last < first ∨ first = 0 ∨ size = 0 ∨ buffer.free = 0 → ranges = [] ∧ after = buffer
  divided : ¬ (last < first ∨ first = 0 ∨ size = 0 ∨ buffer.free = 0) →
    Divided first last size buffer.free ranges
  appended : after = buffer.extend ranges
  passes : first ≤ last → size ≠ 0 → Passes last size first buffer ranges after

theorem reservation_reserve (buffer : SlotBuffer) (first last size : Height) :
    Reservation buffer first last size (buffer.reserve first last size).1
      (buffer.reserve first last size).2 := by
  have appended : (buffer.reserve first last size).2 = buffer.extend (buffer.reserve first last size).1 :=
    rfl
  have ranges : (buffer.reserve first last size).1 =
      if last < first ∨ size = 0 then [] else split size last buffer.free first := rfl
  refine { nothing := ?_, divided := ?_, appended := appended, passes := ?_ }
  · intro hindered
    have none : (buffer.reserve first last size).1 = [] := by
      rw [ranges]
      rcases hindered with inverted | genesis | unsized | full
      · rw [if_pos (.inl inverted)]
      · rw [genesis, split_genesis, ite_self]
      · rw [if_pos (.inr unsized)]
      · rw [full, split, ite_self]
    rw [appended, none]
    simp [extend]
  · intro unhindered
    simp only [not_or, UInt64.not_lt] at unhindered
    obtain ⟨ordered, positive, sized, _⟩ := unhindered
    rw [ranges, if_neg (by simp [sized, UInt64.not_lt.2 ordered])]
    exact divided_split (UInt64.pos_iff_ne_zero.2 positive) ordered (UInt64.pos_iff_ne_zero.2 sized) _
  · intro ordered sized
    rw [appended, ranges, if_neg (by simp [sized, UInt64.not_lt.2 ordered])]
    exact passes_split last size first buffer

-- up to the greatest height, where the addition saturates
example : (((empty 4).reserve (Height.greatest - 4) .greatest 2).1.map fun range =>
    (range.first, range.last)) =
      [(Height.greatest - 4, Height.greatest - 3), (Height.greatest - 2, Height.greatest - 1),
        (.greatest, .greatest)] := by
  decide +kernel

end SlotBuffer

end TokenIndexer
