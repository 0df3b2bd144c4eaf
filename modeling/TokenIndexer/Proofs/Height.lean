import Mathlib.Algebra.Group.Nat.Defs
import Mathlib.Data.List.Basic
import TokenIndexer.Height

namespace TokenIndexer

namespace Height

theorem toNat_greatest : greatest.toNat = 2 ^ 64 - 1 := by decide

theorem toNat_le (h : Height) : h.toNat ≤ 2 ^ 64 - 1 := Nat.le_pred_of_lt h.toNat_lt

theorem le_greatest (h : Height) : h ≤ greatest := by
  rw [UInt64.le_iff_toNat_le, toNat_greatest]
  exact toNat_le h

theorem eq_greatest_iff {h : Height} : h = greatest ↔ h.toNat = 2 ^ 64 - 1 := by
  rw [← UInt64.toNat_inj, toNat_greatest]

theorem toNat_succ {h : Height} (below : h.toNat < 2 ^ 64 - 1) : (h + 1).toNat = h.toNat + 1 := by
  rw [UInt64.toNat_add]
  exact Nat.mod_eq_of_lt (by simp; omega)

theorem toNat_next (h : Height) : h.next.toNat = min (h.toNat + 1) (2 ^ 64 - 1) := by
  have bound := toNat_le h
  unfold next
  split
  · next top => rw [eq_greatest_iff] at top; omega
  · next below =>
    rw [eq_greatest_iff] at below
    rw [toNat_succ (by omega)]
    omega

theorem next_greatest : greatest.next = greatest := by decide

theorem le_next (h : Height) : h ≤ h.next := by
  have bound := toNat_le h
  rw [UInt64.le_iff_toNat_le, toNat_next]
  omega

theorem next_of_lt {h other : Height} (below : h < other) : h.next = h + 1 := by
  rw [UInt64.lt_iff_toNat_lt] at below
  have bound := toNat_le other
  rw [← UInt64.toNat_inj, toNat_next, toNat_succ (by omega)]
  omega

theorem toNat_advance (h count : Height) :
    (h.advance count).toNat = min (h.toNat + count.toNat) (2 ^ 64 - 1) := by
  have room : (greatest - h).toNat = 2 ^ 64 - 1 - h.toNat := by
    rw [UInt64.toNat_sub_of_le _ _ (le_greatest h), toNat_greatest]
  have bound := toNat_le h
  unfold advance
  split
  · next exceeds =>
    rw [UInt64.lt_iff_toNat_lt, room] at exceeds
    rw [toNat_greatest]
    omega
  · next fits =>
    rw [UInt64.lt_iff_toNat_lt, room] at fits
    rw [UInt64.toNat_add, Nat.mod_eq_of_lt (by simp; omega)]
    omega

theorem map_range_succ (h : Height) (count : Nat) :
    ((List.range (count + 1)).map fun k => h + UInt64.ofNat k) =
      h :: (List.range count).map fun k => h + 1 + UInt64.ofNat k := by
  have shifted (k : Nat) : h + UInt64.ofNat (k + 1) = h + 1 + UInt64.ofNat k := by
    rw [UInt64.ofNat_add, UInt64.add_assoc, UInt64.add_comm 1]
    rfl
  have unshifted : h + UInt64.ofNat 0 = h := UInt64.add_zero h
  rw [List.range_succ_eq_map, List.map_cons, List.map_map, unshifted]
  congr 1
  apply List.map_congr_left
  intro k _
  exact shifted k

end Height

namespace HeightRange

theorem toNat_ordered (range : HeightRange) : range.first.toNat ≤ range.last.toNat :=
  UInt64.le_iff_toNat_le.1 range.ordered

theorem make_eq_ok {first last : Height} (positive : 0 < first) (ordered : first ≤ last) :
    make first last = .ok ⟨first, last, positive, ordered⟩ := by
  rw [make, dif_pos positive, dif_pos ordered]

theorem ends_of_make {first last : Height} {range : HeightRange}
    (made : make first last = .ok range) : range.first = first ∧ range.last = last := by
  unfold make at made
  split at made
  · split at made
    · cases made
      exact ⟨rfl, rfl⟩
    · cases made
  · cases made

/-- The heights of a range are its first one and those that follow it, each one once. -/
theorem toNat_heights (range : HeightRange) :
    range.heights.map UInt64.toNat = List.range' range.first.toNat range.size.toNat := by
  rw [heights, upTo, Nat.min_self, List.map_map, List.range'_eq_map_range]
  apply List.map_congr_left
  intro k member
  have size := range.toNat_size
  have ordered := range.toNat_ordered
  have bound := Height.toNat_le range.last
  have small : k < range.size.toNat := List.mem_range.1 member
  simp only [Function.comp_apply, UInt64.toNat_add, UInt64.toNat_ofNat']
  rw [Nat.mod_eq_of_lt (by omega : k < 2 ^ 64)]
  exact Nat.mod_eq_of_lt (by omega)

theorem mem_heights {range : HeightRange} {h : Height} : h ∈ range.heights ↔ range.contains h := by
  have size := range.toNat_size
  have ordered := range.toNat_ordered
  have injective : Function.Injective UInt64.toNat := fun _ _ => UInt64.toNat_inj.1
  rw [← List.mem_map_of_injective injective, toNat_heights, List.mem_range'_1, contains,
    Bool.and_eq_true, decide_eq_true_eq, decide_eq_true_eq, UInt64.le_iff_toNat_le, UInt64.le_iff_toNat_le]
  omega

theorem ascending_heights (range : HeightRange) : range.heights.Pairwise (· < ·) := by
  have numbers : (range.heights.map UInt64.toNat).Pairwise (· < ·) := by
    rw [toNat_heights]
    exact List.pairwise_lt_range'
  exact (List.pairwise_map.1 numbers).imp UInt64.lt_iff_toNat_lt.2

end HeightRange

end TokenIndexer
