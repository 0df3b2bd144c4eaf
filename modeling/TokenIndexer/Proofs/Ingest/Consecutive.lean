import TokenIndexer.Ingest.Slots
import TokenIndexer.Proofs.Height

/-!
Ranges that follow each other. `Tiles` is meant for the outside; `Consecutive` is the same up to the greatest
height, after which only that height itself can come, and it is what every run of the fetcher keeps.
-/

namespace TokenIndexer

/-- Each range starts at the height after the one before it, and the first one at `start`. -/
def Tiles : Nat → List HeightRange → Prop
  | _, [] => True
  | start, range :: rest => range.first.toNat = start ∧ Tiles (range.last.toNat + 1) rest

def Consecutive : Height → List HeightRange → Prop
  | _, [] => True
  | start, range :: rest => range.first = start ∧ Consecutive range.last.next rest

def following : Height → List HeightRange → Height
  | start, [] => start
  | _, range :: rest => following range.last.next rest

/-- Each range ends below the beginning of all later ones. -/
def Ascending (ranges : List HeightRange) : Prop := ranges.Pairwise fun a b => a.last < b.first

theorem following_append (start : Height) (front back : List HeightRange) :
    following start (front ++ back) = following (following start front) back := by
  induction front generalizing start with
  | nil => rfl
  | cons range rest ih => exact ih _

theorem following_concat (start : Height) (ranges : List HeightRange) (range : HeightRange) :
    following start (ranges ++ [range]) = range.last.next := following_append start ranges [range]

theorem following_next (start : Height) (ranges : List HeightRange) :
    following start.next ranges = ((ranges.getLast?.map (·.last)).getD start).next := by
  rcases List.eq_nil_or_concat ranges with rfl | ⟨front, range, rfl⟩
  · rfl
  · rw [List.concat_eq_append, following_concat, List.getLast?_concat]
    rfl

theorem tiles_append (start : Nat) (front back : List HeightRange)
    (tiles : Tiles start (front ++ back)) : Tiles start front := by
  induction front generalizing start with
  | nil => trivial
  | cons range rest ih => exact ⟨tiles.1, ih _ tiles.2⟩

theorem consecutive_append (start : Height) (front back : List HeightRange) :
    Consecutive start (front ++ back) ↔
      Consecutive start front ∧ Consecutive (following start front) back := by
  induction front generalizing start with
  | nil => simp [Consecutive, following]
  | cons range rest ih => simp [Consecutive, following, ih, and_assoc]

theorem start_le_of_consecutive {start : Height} {ranges : List HeightRange} {range : HeightRange}
    (consecutive : Consecutive start ranges) (member : range ∈ ranges) : start ≤ range.first := by
  induction ranges generalizing start with
  | nil => cases member
  | cons head rest ih =>
    obtain ⟨same, tail⟩ := consecutive
    rcases List.mem_cons.1 member with rfl | later
    · rw [same]
      exact UInt64.le_refl _
    · have ahead := ih tail later
      calc
        start = head.first := same.symm
        _ ≤ head.last := head.ordered
        _ ≤ head.last.next := Height.le_next _
        _ ≤ range.first := ahead

theorem start_le_following {start : Height} {ranges : List HeightRange}
    (consecutive : Consecutive start ranges) : start ≤ following start ranges := by
  rcases List.eq_nil_or_concat ranges with rfl | ⟨front, range, rfl⟩
  · exact UInt64.le_refl _
  · rw [List.concat_eq_append] at consecutive ⊢
    have low := start_le_of_consecutive consecutive (List.mem_append_right front (List.mem_singleton_self range))
    rw [following_concat]
    calc
      start ≤ range.first := low
      _ ≤ range.last := range.ordered
      _ ≤ range.last.next := Height.le_next _

theorem eq_of_first_eq {start : Height} {ranges : List HeightRange} {a b : HeightRange}
    (consecutive : Consecutive start ranges) (one : a ∈ ranges) (other : b ∈ ranges)
    (same : a.first = b.first) : a = b := by
  induction ranges generalizing start with
  | nil => cases one
  | cons head rest ih =>
    obtain ⟨_, tail⟩ := consecutive
    -- only the greatest height can be the first one of two ranges
    have top : ∀ r ∈ rest, r.first = head.first → head = r := by
      intro r later equal
      have ahead := start_le_of_consecutive tail later
      have headOrdered := head.toNat_ordered
      have rangeOrdered := r.toNat_ordered
      have headBound := Height.toNat_le head.last
      have bound := Height.toNat_le r.last
      have next := Height.toNat_next head.last
      rw [UInt64.le_iff_toNat_le, next, equal] at ahead
      have firsts := congrArg UInt64.toNat equal
      have lasts : head.last = r.last := UInt64.toNat_inj.1 (by omega)
      cases head
      cases r
      simp_all
    rcases List.mem_cons.1 one with isHead | one
    · rcases List.mem_cons.1 other with rfl | other
      · exact isHead
      · rw [isHead] at same ⊢
        exact top b other same.symm
    · rcases List.mem_cons.1 other with isHead | other
      · rw [isHead] at same ⊢
        exact (top a one same).symm
      · exact ih tail one other

theorem tiles_of_consecutive {start : Height} {ranges : List HeightRange}
    (consecutive : Consecutive start ranges)
    (below : ∀ range ∈ ranges, range.last < Height.greatest) : Tiles start.toNat ranges := by
  induction ranges generalizing start with
  | nil => trivial
  | cons range rest ih =>
    obtain ⟨same, tail⟩ := consecutive
    have tiles := ih tail fun r later => below r (List.mem_cons_of_mem _ later)
    have bound := below range List.mem_cons_self
    rw [Height.next_of_lt bound, Height.toNat_succ] at tiles
    · exact ⟨congrArg UInt64.toNat same, tiles⟩
    · rwa [UInt64.lt_iff_toNat_lt, Height.toNat_greatest] at bound

theorem tiles_above {bottom : Height} {ranges : List HeightRange}
    (consecutive : Consecutive bottom.next ranges)
    (below : ∀ range ∈ ranges, range.last < Height.greatest) : Tiles (bottom.toNat + 1) ranges := by
  cases ranges with
  | nil => trivial
  | cons range rest =>
    have tiles := tiles_of_consecutive consecutive below
    have bound := below range List.mem_cons_self
    have ordered := range.toNat_ordered
    have first := congrArg UInt64.toNat consecutive.1
    rw [Height.toNat_next] at first tiles
    rw [UInt64.lt_iff_toNat_lt, Height.toNat_greatest] at bound
    rwa [show min (bottom.toNat + 1) (2 ^ 64 - 1) = bottom.toNat + 1 by omega] at tiles

theorem start_le_of_tiles {start : Nat} {ranges : List HeightRange} {range : HeightRange}
    (tiles : Tiles start ranges) (member : range ∈ ranges) : start ≤ range.first.toNat := by
  induction ranges generalizing start with
  | nil => cases member
  | cons head rest ih =>
    obtain ⟨first, tail⟩ := tiles
    rcases List.mem_cons.1 member with rfl | later
    · omega
    · have ahead := ih tail later
      have ordered := head.toNat_ordered
      omega

theorem ascending_of_tiles {start : Nat} {ranges : List HeightRange} (tiles : Tiles start ranges) :
    Ascending ranges := by
  induction ranges generalizing start with
  | nil => exact List.Pairwise.nil
  | cons range rest ih =>
    refine List.Pairwise.cons (fun later member => ?_) (ih tiles.2)
    have ahead := start_le_of_tiles tiles.2 member
    rw [UInt64.lt_iff_toNat_lt]
    omega

theorem heights_of_tiles {start : Nat} {ranges : List HeightRange} (tiles : Tiles start ranges) :
    ∃ count, (ranges.flatMap (·.heights)).map UInt64.toNat = List.range' start count ∧
      start + count = (ranges.getLast?.map (·.last.toNat + 1)).getD start := by
  induction ranges generalizing start with
  | nil => exact ⟨0, rfl, rfl⟩
  | cons range rest ih =>
    obtain ⟨first, tail⟩ := tiles
    obtain ⟨count, heights, stop⟩ := ih tail
    have size := range.toNat_size
    have ordered := range.toNat_ordered
    refine ⟨range.size.toNat + count, ?_, ?_⟩
    · have onward : range.last.toNat + 1 = start + 1 * range.size.toNat := by omega
      rw [List.flatMap_cons, List.map_append, HeightRange.toNat_heights, heights, first, onward,
        List.range'_append]
    · rw [List.getLast?_cons, Option.map_some, Option.getD_some]
      cases last : rest.getLast? with
      | none =>
        rw [last] at stop
        change range.last.toNat + 1 + count = range.last.toNat + 1 at stop
        change _ = range.last.toNat + 1
        omega
      | some final =>
        rw [last] at stop
        change range.last.toNat + 1 + count = final.last.toNat + 1 at stop
        change _ = final.last.toNat + 1
        omega

theorem next_le_following {start : Height} {ranges : List HeightRange} {range : HeightRange}
    (consecutive : Consecutive start ranges) (member : range ∈ ranges) :
    range.last.next ≤ following start ranges := by
  induction ranges generalizing start with
  | nil => cases member
  | cons head rest ih =>
    obtain ⟨_, tail⟩ := consecutive
    rcases List.mem_cons.1 member with rfl | later
    · exact start_le_following tail
    · exact ih tail later

theorem last_le_of_consecutive {start : Height} {front : List HeightRange} {final range : HeightRange}
    (consecutive : Consecutive start (front ++ [final])) (member : range ∈ front ++ [final]) :
    range.last ≤ final.last := by
  obtain ⟨before, after⟩ := (consecutive_append start front [final]).1 consecutive
  rcases List.mem_append.1 member with early | last
  · calc
      range.last ≤ range.last.next := Height.le_next _
      _ ≤ following start front := next_le_following before early
      _ = final.first := after.1.symm
      _ ≤ final.last := final.ordered
  · rw [List.mem_singleton.1 last]
    exact UInt64.le_refl _

/-- Consecutive ranges leave no gap unless the last of them ends at the greatest height. -/
theorem tiles_of_last {bottom : Height} {ranges : List HeightRange}
    (consecutive : Consecutive bottom.next ranges)
    (low : (ranges.getLast?.map (·.last)).getD bottom ≠ Height.greatest) :
    Tiles (bottom.toNat + 1) ranges := by
  rcases List.eq_nil_or_concat ranges with rfl | ⟨front, final, rfl⟩
  · trivial
  · rw [List.concat_eq_append] at consecutive low ⊢
    rw [List.getLast?_concat] at low
    refine tiles_above consecutive fun range member => ?_
    have reached := last_le_of_consecutive consecutive member
    exact UInt64.lt_of_le_of_lt reached (UInt64.lt_of_le_of_ne (Height.le_greatest _) low)

theorem eq_of_top {front : List HeightRange} {final range : HeightRange}
    (ascending : Ascending (front ++ [final])) (member : range ∈ front ++ [final])
    (top : range.last = Height.greatest) : range = final := by
  rcases List.mem_append.1 member with early | last
  · have below := (List.pairwise_append.1 ascending).2.2 range early final (List.mem_singleton_self _)
    rw [top] at below
    exact absurd (Height.le_greatest final.first) (UInt64.not_le.2 below)
  · exact List.mem_singleton.1 last

def Apart (ranges : List HeightRange) : Prop :=
  ranges.Pairwise fun a b => ∀ h, ¬ (a.contains h ∧ b.contains h)

theorem apart_of_ascending {ranges : List HeightRange} (ascending : Ascending ranges) :
    Apart ranges := by
  refine ascending.imp fun {a b} below h => ?_
  rintro ⟨inside, later⟩
  simp only [HeightRange.contains, Bool.and_eq_true, decide_eq_true_eq] at inside later
  have crossed : b.first ≤ a.last := UInt64.le_trans later.1 inside.2
  exact UInt64.not_le.2 below crossed

theorem not_apart_of_top {front back : List HeightRange} {a b : HeightRange} (early : a ∈ front)
    (late : b ∈ back) (top : a.last = Height.greatest) (top' : b.last = Height.greatest) :
    ¬ Apart (front ++ back) := by
  intro apart
  apply (List.pairwise_append.1 apart).2.2 a early b late Height.greatest
  simp [HeightRange.contains, top, top', Height.le_greatest]

end TokenIndexer
