import TokenIndexer.Decimal.Digits

/-! Heights of a chain, which starts at 1, and ranges of them, which are never empty. -/

namespace TokenIndexer

abbrev Height := UInt64

namespace Height

def greatest : Height := UInt64.ofNat (UInt64.size - 1)

/-- The height after this one; the greatest height stays. -/
def next (h : Height) : Height := if h = greatest then h else h + 1

def advance (h count : Height) : Height := if greatest - h < count then greatest else h + count

def text (h : Height) : String := Decimal.natText h.toNat

end Height

/-- Inclusive range of heights, fetched and committed as one unit. -/
structure HeightRange where
  first : Height
  last : Height
  positive : 0 < first
  ordered : first ≤ last
  deriving DecidableEq

inductive HeightRange.Error where
  | genesis
  | inverted (first last : Height)
  deriving DecidableEq

namespace HeightRange

def Error.message : Error → String
  | .genesis => "invalid chunk range: height 0 is never part of a chain"
  | .inverted first last =>
    "invalid chunk range: from " ++ first.text ++ " is above to " ++ last.text

def make (first last : Height) : Except Error HeightRange :=
  if positive : 0 < first then
    if ordered : first ≤ last then .ok ⟨first, last, positive, ordered⟩
    else .error (.inverted first last)
  else .error .genesis

def size (range : HeightRange) : Height := range.last - range.first + 1

def contains (range : HeightRange) (h : Height) : Bool := range.first ≤ h && h ≤ range.last

def upTo (range : HeightRange) (count : Nat) : List Height :=
  (List.range (min count range.size.toNat)).map fun k => range.first + UInt64.ofNat k

def heights (range : HeightRange) : List Height := range.upTo range.size.toNat

def text (range : HeightRange) : String :=
  "[" ++ range.first.text ++ ", " ++ range.last.text ++ "]"

theorem toNat_size (range : HeightRange) :
    range.size.toNat = range.last.toNat - range.first.toNat + 1 := by
  have positive : 0 < range.first.toNat := by simpa [UInt64.lt_iff_toNat_lt] using range.positive
  have ordered : range.first.toNat ≤ range.last.toNat := UInt64.le_iff_toNat_le.1 range.ordered
  have bound := range.last.toNat_lt
  rw [size, UInt64.toNat_add, UInt64.toNat_sub_of_le _ _ range.ordered]
  exact Nat.mod_eq_of_lt (by simp; omega)

end HeightRange

end TokenIndexer
