import Mathlib.Data.List.TakeWhile
import TokenIndexer.Text

/-! Texts in pieces, and without the blanks at their ends. -/

namespace TokenIndexer

namespace Split

variable {α : Type} [DecidableEq α] {separator : α} {cs front back : List α}

theorem pieces_eq_splitOn (separator : α) (cs : List α) : pieces separator cs = cs.splitOn separator := by
  induction cs with
  | nil => rfl
  | cons c cs ih =>
    rw [pieces, List.splitOn_cons_eq_if_modifyHead, ih]
    by_cases same : c = separator
    · simp [same]
    · rw [if_neg same, if_neg (by simpa using same)]
      cases found : cs.splitOn separator with
      | nil => exact absurd found (List.splitOn_ne_nil _ _)
      | cons piece others => rfl

theorem atFirst?_eq_some :
    atFirst? separator cs = some (front, back) ↔ cs = front ++ separator :: back ∧ separator ∉ front := by
  constructor
  · intro found
    induction cs generalizing front with
    | nil => cases found
    | cons c cs ih =>
      rw [atFirst?] at found
      split at found
      · next same =>
        cases found
        exact ⟨by rw [same]; rfl, List.not_mem_nil⟩
      · next other =>
        obtain ⟨⟨rest, _⟩, later, same⟩ := Option.map_eq_some_iff.1 found
        cases same
        obtain ⟨rfl, free⟩ := ih later
        exact ⟨rfl, List.not_mem_cons_of_ne_of_not_mem (Ne.symm other) free⟩
  · rintro ⟨rfl, free⟩
    induction front with
    | nil => simp [atFirst?]
    | cons c front ih =>
      rw [List.mem_cons, not_or] at free
      rw [List.cons_append, atFirst?, if_neg (Ne.symm free.1), ih free.2]
      rfl

theorem atFirst?_eq_none : atFirst? separator cs = none ↔ separator ∉ cs := by
  induction cs with
  | nil => simp [atFirst?]
  | cons c cs ih =>
    rw [atFirst?, List.mem_cons, not_or]
    by_cases same : c = separator
    · simp [same]
    · rw [if_neg same, Option.map_eq_none_iff, ih]
      exact ⟨fun free => ⟨Ne.symm same, free⟩, And.right⟩

theorem after?_eq_some {beginning rest : List α} : after? beginning cs = some rest ↔ cs = beginning ++ rest := by
  unfold after?
  constructor
  · intro found
    split at found
    · next starts =>
      obtain ⟨more, rfl⟩ := starts
      rw [List.drop_left] at found
      rw [Option.some.inj found]
    · cases found
  · rintro rfl
    rw [if_pos (List.prefix_append _ _), List.drop_left]

/-! ### Ends of a text and ends of its pieces -/

theorem splitOn_cons_of_ne {c : α} (other : c ≠ separator) (cs : List α) :
    (c :: cs).splitOn separator = (cs.splitOn separator).modifyHead (List.cons c) := by
  rw [List.splitOn_cons_eq_if_modifyHead, if_neg (by simpa using other)]

theorem splitOn_cons_self (cs : List α) :
    (separator :: cs).splitOn separator = [] :: cs.splitOn separator := by
  rw [List.splitOn_cons_eq_if_modifyHead, if_pos (beq_self_eq_true separator)]

theorem splitOn_append_left (free : separator ∉ front) (cs : List α) :
    (front ++ cs).splitOn separator = (cs.splitOn separator).modifyHead (front ++ ·) := by
  induction front with
  | nil => exact (congrFun List.modifyHead_id (cs.splitOn separator)).symm
  | cons c front ih =>
    rw [List.mem_cons, not_or] at free
    rw [List.cons_append, splitOn_cons_of_ne (Ne.symm free.1), ih free.2, List.modifyHead_modifyHead]
    rfl

theorem splitOn_append_right (free : separator ∉ back) (cs : List α) :
    ∃ before last, cs.splitOn separator = before ++ [last] ∧
      (cs ++ back).splitOn separator = before ++ [last ++ back] := by
  induction cs with
  | nil => exact ⟨[], [], rfl, List.splitOn_eq_singleton free⟩
  | cons c cs ih =>
    obtain ⟨before, last, short, long⟩ := ih
    rw [List.cons_append]
    by_cases same : c = separator
    · subst same
      exact ⟨[] :: before, last, by rw [splitOn_cons_self, short]; rfl, by rw [splitOn_cons_self, long]; rfl⟩
    · rw [splitOn_cons_of_ne same, splitOn_cons_of_ne same, short, long]
      cases before with
      | nil => exact ⟨[], c :: last, rfl, rfl⟩
      | cons piece before => exact ⟨(c :: piece) :: before, last, rfl, rfl⟩

theorem of_mem_splitOn {piece : List α} (member : piece ∈ cs.splitOn separator) :
    separator ∉ piece ∧ piece ⊆ cs := by
  induction cs generalizing piece with
  | nil =>
    obtain rfl := List.mem_singleton.1 member
    exact ⟨List.not_mem_nil, List.nil_subset _⟩
  | cons c cs ih =>
    by_cases same : c = separator
    · subst same
      rw [splitOn_cons_self, List.mem_cons] at member
      obtain rfl | later := member
      · exact ⟨List.not_mem_nil, List.nil_subset _⟩
      · exact ⟨(ih later).1, List.Subset.trans (ih later).2 (List.subset_cons_self c cs)⟩
    · rw [splitOn_cons_of_ne same] at member
      cases found : cs.splitOn separator with
      | nil => exact absurd found (List.splitOn_ne_nil _ _)
      | cons first others =>
        rw [found] at ih member
        obtain rfl | later := List.mem_cons.1 member
        · obtain ⟨free, part⟩ := ih List.mem_cons_self
          exact ⟨List.not_mem_cons_of_ne_of_not_mem (Ne.symm same) free, List.cons_subset_cons c part⟩
        · obtain ⟨free, part⟩ := ih (List.mem_cons_of_mem _ later)
          exact ⟨free, List.Subset.trans part (List.subset_cons_self c cs)⟩

end Split

/-! ### Trimmed texts -/

namespace Blank

variable {cs front back : List Char}

theorem trim_eq (cs : List Char) :
    trim cs = ((cs.dropWhile isBlank).reverse.dropWhile isBlank).reverse := rfl

theorem trim_eq_nil : trim cs = [] ↔ ∀ c ∈ cs, isBlank c = true := by
  rw [trim_eq, List.reverse_eq_nil_iff, List.dropWhile_eq_nil_iff]
  constructor
  · intro blank c member
    rw [← List.takeWhile_append_dropWhile (p := isBlank) (l := cs), List.mem_append] at member
    obtain left | right := member
    · exact List.mem_takeWhile_imp left
    · exact blank c (List.mem_reverse.2 right)
  · intro blank c member
    exact blank c (List.dropWhile_subset _ (List.mem_reverse.1 member))

theorem trim_append_left (blank : ∀ c ∈ front, isBlank c = true) (cs : List Char) :
    trim (front ++ cs) = trim cs := by
  rw [trim_eq, List.dropWhile_append_of_pos blank, ← trim_eq]

theorem trim_append_right (blank : ∀ c ∈ back, isBlank c = true) (cs : List Char) :
    trim (cs ++ back) = trim cs := by
  have reversed : ∀ c ∈ back.reverse, isBlank c = true := fun c member => blank c (List.mem_reverse.1 member)
  by_cases empty : (cs.dropWhile isBlank).isEmpty = true
  · have first : trim cs = [] := by rw [trim_eq, List.isEmpty_iff.1 empty]; rfl
    have each := trim_eq_nil.1 first
    rw [first, trim_eq_nil]
    intro c member
    exact (List.mem_append.1 member).elim (each c) (blank c)
  · rw [trim_eq, List.dropWhile_append, if_neg empty, List.reverse_append,
      List.dropWhile_append_of_pos reversed, ← trim_eq]

theorem exists_append_trim (cs : List Char) : ∃ front back, cs = front ++ trim cs ++ back ∧
    (∀ c ∈ front, isBlank c = true) ∧ ∀ c ∈ back, isBlank c = true := by
  refine ⟨cs.takeWhile isBlank, ((cs.dropWhile isBlank).reverse.takeWhile isBlank).reverse, ?_,
    fun c => List.mem_takeWhile_imp, fun c member => List.mem_takeWhile_imp (List.mem_reverse.1 member)⟩
  rw [List.append_assoc, trim_eq, ← List.reverse_append, List.takeWhile_append_dropWhile,
    List.reverse_reverse, List.takeWhile_append_dropWhile]

/-- The blanks around a text do not show in its pieces without the blanks around them. -/
theorem map_trim_splitOn_trim {separator : Char} (visible : isBlank separator = false) (cs : List Char) :
    ((trim cs).splitOn separator).map trim = (cs.splitOn separator).map trim := by
  have free {blanks : List Char} (blank : ∀ c ∈ blanks, isBlank c = true) : separator ∉ blanks := by
    intro member
    rw [blank separator member] at visible
    cases visible
  obtain ⟨front, back, whole, blankFront, blankBack⟩ := exists_append_trim cs
  generalize trim cs = inner at whole ⊢
  subst whole
  obtain ⟨before, last, short, long⟩ := Split.splitOn_append_right (free blankBack) inner
  rw [List.append_assoc, Split.splitOn_append_left (free blankFront), long, short]
  cases before with
  | nil => simp [trim_append_left blankFront, trim_append_right blankBack]
  | cons first others => simp [trim_append_left blankFront, trim_append_right blankBack]

end Blank

end TokenIndexer
