import TokenIndexer.Ordered

namespace TokenIndexer.Ordered

variable {κ ν : Type} [DecidableEq κ]

theorem find?_cons (key : κ) (entry : κ × ν) (rest : Ordered κ ν) :
    find? key (entry :: rest) = if key = entry.1 then some entry.2 else find? key rest := by
  obtain ⟨k, v⟩ := entry
  by_cases same : key = k
  · simp [find?, same]
  · simp [find?, List.lookup_cons, beq_eq_false_iff_ne.2 same, same]

theorem mem_of_find? {key : κ} {value : ν} {map : Ordered κ ν} (found : find? key map = some value) :
    (key, value) ∈ map := by
  induction map with
  | nil => cases found
  | cons entry rest ih =>
    rw [find?_cons] at found
    split at found
    · next same =>
      cases found
      subst same
      exact List.mem_cons_self
    · exact List.mem_cons_of_mem _ (ih found)

variable [LT κ]

def Sorted (map : Ordered κ ν) : Prop := map.Pairwise fun a b => a.1 < b.1

theorem find?_eq_some_iff [Std.Irrefl fun a b : κ => a < b] {map : Ordered κ ν} (sorted : Sorted map) {key : κ} {value : ν} :
    find? key map = some value ↔ (key, value) ∈ map := by
  refine ⟨mem_of_find?, fun member => ?_⟩
  induction map with
  | nil => cases member
  | cons head rest ih =>
    obtain ⟨above, tail⟩ := List.pairwise_cons.1 sorted
    rw [find?_cons]
    rcases List.mem_cons.1 member with rfl | later
    · exact if_pos rfl
    · have below := above _ later
      have differs : key ≠ head.1 := by
        rintro rfl
        exact Std.Irrefl.irrefl (r := fun a b : κ => a < b) _ below
      rw [if_neg differs, ih tail later]

variable [DecidableLT κ]

theorem find?_insert (key other : κ) (value : ν) (map : Ordered κ ν) :
    find? other (insert key value map) = if other = key then some value else find? other map := by
  induction map with
  | nil => simp [insert, find?_cons]
  | cons entry rest ih =>
    obtain ⟨k, v⟩ := entry
    by_cases same : key = k
    · subst same
      by_cases asked : other = key <;> simp [insert, find?_cons, asked]
    · by_cases before : key < k
      · simp [insert, find?_cons, same, before]
      · by_cases asked : other = k
        · subst asked
          simp [insert, find?_cons, same, before, Ne.symm same]
        · simp [insert, find?_cons, same, before, asked, ih]

theorem find?_foldl_insert {entries : List (κ × ν)} (distinct : (entries.map (·.1)).Nodup) (key : κ)
    (map : Ordered κ ν) :
    find? key (entries.foldl (fun map (key, value) => insert key value map) map) =
      (entries.lookup key).or (find? key map) := by
  induction entries generalizing map with
  | nil => rfl
  | cons entry entries ih =>
    obtain ⟨k, value⟩ := entry
    obtain ⟨fresh, distinct⟩ := List.nodup_cons.1 distinct
    rw [List.foldl_cons, ih distinct, find?_insert, List.lookup_cons]
    by_cases same : key = k
    · subst same
      have missing : entries.lookup key = none := by
        rw [List.lookup_eq_none_iff]
        intro entry inside
        refine bne_iff_ne.2 fun same => fresh ?_
        exact List.mem_map.2 ⟨entry, inside, same.symm⟩
      simp [missing]
    · simp [same, beq_eq_false_iff_ne.2 same]

theorem find?_ofList {entries : List (κ × ν)} (distinct : (entries.map (·.1)).Nodup) (key : κ) :
    find? key (ofList entries) = entries.lookup key := by
  rw [ofList, find?_foldl_insert distinct]
  exact Option.or_none

theorem insert_cons_self (key : κ) (value v : ν) (rest : Ordered κ ν) :
    insert key value ((key, v) :: rest) = (key, value) :: rest := by
  rw [insert, if_pos rfl]

theorem insert_insert (key : κ) (first second : ν) (map : Ordered κ ν) :
    insert key second (insert key first map) = insert key second map := by
  induction map with
  | nil => simp [insert]
  | cons head rest ih =>
    obtain ⟨k, v⟩ := head
    by_cases same : key = k
    · subst same
      simp [insert]
    · by_cases before : key < k
      · simp [insert, same, before]
      · simp [insert, same, before, ih]

theorem mem_insert {key : κ} {value : ν} {map : Ordered κ ν} {entry : κ × ν}
    (member : entry ∈ insert key value map) : entry = (key, value) ∨ entry ∈ map := by
  induction map with
  | nil => exact .inl (List.mem_singleton.1 member)
  | cons head rest ih =>
    obtain ⟨k, v⟩ := head
    rw [insert] at member
    split at member
    · rcases List.mem_cons.1 member with new | old
      · exact .inl new
      · exact .inr (List.mem_cons_of_mem _ old)
    · split at member
      · rcases List.mem_cons.1 member with new | old
        · exact .inl new
        · exact .inr old
      · rcases List.mem_cons.1 member with first | later
        · exact .inr (first ▸ List.mem_cons_self)
        · rcases ih later with new | old
          · exact .inl new
          · exact .inr (List.mem_cons_of_mem _ old)

theorem sorted_insert [Trans (fun a b : κ => a < b) (fun a b : κ => a < b) (fun a b : κ => a < b)]
    [Std.Trichotomous fun a b : κ => a < b] {map : Ordered κ ν} (sorted : Sorted map) (key : κ) (value : ν) :
    Sorted (insert key value map) := by
  induction map with
  | nil => exact List.pairwise_singleton _ _
  | cons head rest ih =>
    obtain ⟨k, v⟩ := head
    obtain ⟨above, tail⟩ := List.pairwise_cons.1 sorted
    rw [insert]
    split
    · next same =>
      subst same
      exact List.pairwise_cons.2 ⟨above, tail⟩
    · next differs =>
      split
      · next before =>
        refine List.pairwise_cons.2 ⟨?_, sorted⟩
        intro entry member
        rcases List.mem_cons.1 member with rfl | later
        · exact before
        · exact Trans.trans before (above entry later)
      · next notBefore =>
        have after : k < key := Decidable.byContradiction fun notAfter =>
          differs (Std.Trichotomous.trichotomous (r := fun a b : κ => a < b) key k notBefore notAfter)
        refine List.pairwise_cons.2 ⟨?_, ih tail⟩
        intro entry member
        rcases mem_insert member with rfl | old
        · exact after
        · exact above entry old

/-! ### Entries under different keys

What is put under different keys ends up in the same place in either order, even where a list does not ascend:
a key is looked for up to the first one that is not below it. -/

section Commutation

variable [Std.Asymm fun a b : κ => a < b]

theorem insert_cons_of_lt {key k : κ} (before : key < k) (value v : ν) (rest : Ordered κ ν) :
    insert key value ((k, v) :: rest) = (key, value) :: (k, v) :: rest := by
  have apart : key ≠ k := by
    rintro rfl
    exact Std.Irrefl.irrefl (r := fun a b : κ => a < b) _ before
  rw [insert, if_neg apart, if_pos before]

theorem insert_cons_of_gt {key k : κ} (after : k < key) (value v : ν) (rest : Ordered κ ν) :
    insert key value ((k, v) :: rest) = (k, v) :: insert key value rest := by
  have apart : key ≠ k := by
    rintro rfl
    exact Std.Irrefl.irrefl (r := fun a b : κ => a < b) _ after
  rw [insert, if_neg apart, if_neg (Std.Asymm.asymm (r := fun a b : κ => a < b) _ _ after)]

theorem before_or_after {κ : Type} [LT κ] [DecidableLT κ] [Std.Trichotomous fun a b : κ => a < b]
    (a b : κ) : a < b ∨ a = b ∨ b < a := by
  rcases Decidable.em (a < b) with less | notLess
  · exact .inl less
  · rcases Decidable.em (b < a) with more | notMore
    · exact .inr (.inr more)
    · exact .inr (.inl (Std.Trichotomous.trichotomous (r := fun a b : κ => a < b) a b notLess notMore))

variable [Trans (fun a b : κ => a < b) (fun a b : κ => a < b) (fun a b : κ => a < b)]
  [Std.Trichotomous fun a b : κ => a < b]

theorem insert_comm_of_lt {key other : κ} (before : key < other) (value value' : ν) (map : Ordered κ ν) :
    insert key value (insert other value' map) = insert other value' (insert key value map) := by
  induction map with
  | nil => rw [insert, insert, insert_cons_of_lt before, insert_cons_of_gt before, insert]
  | cons head rest ih =>
    obtain ⟨k, v⟩ := head
    rcases before_or_after other k with less | rfl | more
    · have first : key < k := Trans.trans before less
      rw [insert_cons_of_lt less, insert_cons_of_lt before, insert_cons_of_lt first,
        insert_cons_of_gt before, insert_cons_of_lt less]
    · rw [insert_cons_self, insert_cons_of_lt before, insert_cons_of_lt before,
        insert_cons_of_gt before, insert_cons_self]
    · rcases before_or_after key k with first | rfl | last
      · rw [insert_cons_of_gt more, insert_cons_of_lt first, insert_cons_of_lt first,
          insert_cons_of_gt before, insert_cons_of_gt more]
      · rw [insert_cons_of_gt more, insert_cons_self, insert_cons_self, insert_cons_of_gt more]
      · rw [insert_cons_of_gt more, insert_cons_of_gt last, insert_cons_of_gt last,
          insert_cons_of_gt more, ih]

theorem insert_comm {key other : κ} (apart : key ≠ other) (value value' : ν) (map : Ordered κ ν) :
    insert key value (insert other value' map) = insert other value' (insert key value map) := by
  rcases before_or_after key other with before | same | after
  · exact insert_comm_of_lt before value value' map
  · exact absurd same apart
  · exact (insert_comm_of_lt after value' value map).symm

end Commutation

end TokenIndexer.Ordered
