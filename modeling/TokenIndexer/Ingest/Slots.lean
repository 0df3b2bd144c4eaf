import TokenIndexer.Block

/-! Reserved ranges in ascending order, which leave in the order of their heights once they are filled. -/

namespace TokenIndexer

/-- A reserved range, its chunk once it was fetched, and how often fetching it failed. -/
structure RangeSlot where
  range : HeightRange
  chunk : Option Chunk
  failures : UInt32
  deriving DecidableEq

namespace RangeSlot

def reserved (range : HeightRange) : RangeSlot := ⟨range, none, 0⟩

def ready (slot : RangeSlot) : Bool := slot.chunk.isSome

end RangeSlot

structure SlotBuffer where
  slots : List RangeSlot
  limit : Nat
  deriving DecidableEq

namespace SlotBuffer

def empty (maxSlots : Nat) : SlotBuffer := ⟨[], max maxSlots 1⟩

def isFull (buffer : SlotBuffer) : Bool := buffer.limit ≤ buffer.slots.length

def free (buffer : SlotBuffer) : Nat := buffer.limit - buffer.slots.length

def front? (buffer : SlotBuffer) : Option RangeSlot := buffer.slots.head?

/-- The height after the last reserved one; after the greatest height it is that height again. -/
def nextHeight? (buffer : SlotBuffer) : Option Height :=
  buffer.slots.getLast?.map fun slot => slot.range.last.next

/-- At most `count` consecutive ranges of at most `size` heights that start at `first` and do not go
beyond `last`. -/
def split (size last : Height) : Nat → Height → List HeightRange
  | 0, _ => []
  | count + 1, first =>
    let stop := min (first.advance (size - 1)) last
    match HeightRange.make first stop with
    | .error _ => []
    | .ok range => range :: if stop = last then [] else split size last count (stop + 1)

def rangesOf (free : Nat) (first last size : Height) : List HeightRange :=
  if last < first ∨ size = 0 then [] else split size last free first

def reserve (buffer : SlotBuffer) (first last size : Height) : List HeightRange × SlotBuffer :=
  let ranges := rangesOf buffer.free first last size
  (ranges, { buffer with slots := buffer.slots ++ ranges.map RangeSlot.reserved })

/-- Looks among `count` slots from `low` on, which are in ascending order, for one that starts at a
height. -/
def search (slots : List RangeSlot) (h : Height) (low count : Nat) : Option Nat :=
  if count = 0 then none
  else
    let middle := low + count / 2
    match slots[middle]? with
    | none => none
    | some slot =>
      if slot.range.first = h then some middle
      else if slot.range.first < h then search slots h (middle + 1) (count - count / 2 - 1)
      else search slots h low (count / 2)
  termination_by count

def position? (buffer : SlotBuffer) (h : Height) : Option Nat :=
  search buffer.slots h 0 buffer.slots.length

def modify (buffer : SlotBuffer) (index : Nat) (change : RangeSlot → RangeSlot) : SlotBuffer :=
  { buffer with slots := buffer.slots.modify index change }

def fill? (buffer : SlotBuffer) (h : Height) (chunk : Chunk) : Option SlotBuffer :=
  (buffer.position? h).map fun index =>
    buffer.modify index fun slot => { slot with chunk := some chunk }

/-- Counts a failure of the slot that starts at a height, when there is one, and tells how many there
were. -/
def fail? (buffer : SlotBuffer) (h : Height) : Option (UInt32 × SlotBuffer) :=
  (buffer.position? h).bind fun index =>
    buffer.slots[index]?.map fun slot =>
      (slot.failures + 1,
        buffer.modify index fun slot => { slot with failures := slot.failures + 1 })

def pop? (buffer : SlotBuffer) : Option ((HeightRange × Chunk) × SlotBuffer) :=
  match buffer.slots with
  | ⟨range, some chunk, _⟩ :: rest => some ((range, chunk), { buffer with slots := rest })
  | _ => none

theorem pop?_length {buffer rest : SlotBuffer} {popped : HeightRange × Chunk}
    (found : buffer.pop? = some (popped, rest)) : rest.slots.length < buffer.slots.length := by
  unfold pop? at found
  split at found
  · next slots =>
    cases found
    simp [slots]
  · cases found

end SlotBuffer

end TokenIndexer
