import TokenIndexer.Proofs.Ordered
import TokenIndexer.Toml.Value

namespace TokenIndexer.Toml

/-- The value at the end of a path of keys, which leads through tables only. -/
def at? : List String → Toml → Option Toml
  | [], value => some value
  | key :: path, .table members => (Ordered.find? key members).bind (at? path)
  | _ :: _, _ => none

def IsTable (value : Toml) : Prop := ∃ members, value = .table members

theorem at?_cons (key : String) (path : List String) (table : Table) :
    (Toml.table table).at? (key :: path) = (Ordered.find? key table).bind (at? path) := rfl

theorem at?_empty {path : List String} (named : path ≠ []) : (Toml.table []).at? path = none := by
  cases path with
  | nil => exact absurd rfl named
  | cons key path => rfl

/-! ### Values in place of others -/

variable {α : Type}

theorem find?_replaceFirst_of_ne {key other : String} (apart : other ≠ key) (value : α)
    (table : Ordered String α) :
    Ordered.find? other (replaceFirst key value table) = Ordered.find? other table := by
  induction table with
  | nil => rfl
  | cons head rest ih =>
    obtain ⟨k, v⟩ := head
    by_cases first : k = key
    · subst first
      rw [replaceFirst, if_pos rfl, Ordered.find?_cons, Ordered.find?_cons, if_neg apart, if_neg apart]
    · rw [replaceFirst, if_neg first, Ordered.find?_cons, Ordered.find?_cons, ih]

theorem find?_replaceFirst_self {key : String} {old : α} {table : Ordered String α}
    (present : Ordered.find? key table = some old) (value : α) :
    Ordered.find? key (replaceFirst key value table) = some value := by
  induction table with
  | nil => cases present
  | cons head rest ih =>
    obtain ⟨k, v⟩ := head
    rw [Ordered.find?_cons] at present
    by_cases first : k = key
    · rw [replaceFirst, if_pos first, Ordered.find?_cons, if_pos first.symm]
    · rw [if_neg (Ne.symm first)] at present
      rw [replaceFirst, if_neg first, Ordered.find?_cons, if_neg (Ne.symm first), ih present]

theorem find?_replaceFirst {key : String} {old : α} {table : Ordered String α}
    (present : Ordered.find? key table = some old) (other : String) (value : α) :
    Ordered.find? other (replaceFirst key value table) =
      if other = key then some value else Ordered.find? other table := by
  split
  · next same => rw [same, find?_replaceFirst_self present]
  · next apart => rw [find?_replaceFirst_of_ne apart]

theorem replaceFirst_of_find? {key : String} {value : α} {table : Ordered String α}
    (found : Ordered.find? key table = some value) : replaceFirst key value table = table := by
  induction table with
  | nil => rfl
  | cons head rest ih =>
    obtain ⟨k, v⟩ := head
    rw [Ordered.find?_cons] at found
    rw [replaceFirst]
    split at found
    · next same =>
      cases found
      rw [if_pos same.symm]
    · next differs => rw [if_neg (Ne.symm differs), ih found]

theorem replaceFirst_replaceFirst (key : String) (first second : α) (table : Ordered String α) :
    replaceFirst key second (replaceFirst key first table) = replaceFirst key second table := by
  induction table with
  | nil => rfl
  | cons head rest ih =>
    obtain ⟨k, v⟩ := head
    by_cases same : k = key <;> simp [replaceFirst, same, ih]

theorem replaceFirst_insert (key : String) (first second : α) (table : Ordered String α) :
    replaceFirst key second (Ordered.insert key first table) = Ordered.insert key second table := by
  induction table with
  | nil => simp [Ordered.insert, replaceFirst]
  | cons head rest ih =>
    obtain ⟨k, v⟩ := head
    by_cases same : key = k
    · simp [Ordered.insert, replaceFirst, same]
    · by_cases before : key < k
      · simp [Ordered.insert, replaceFirst, same, before]
      · simp [Ordered.insert, replaceFirst, same, Ne.symm same, before, ih]

theorem replaceFirst_comm {key other : String} (apart : key ≠ other) (value value' : α)
    (table : Ordered String α) :
    replaceFirst key value (replaceFirst other value' table) =
      replaceFirst other value' (replaceFirst key value table) := by
  induction table with
  | nil => rfl
  | cons head rest ih =>
    obtain ⟨k, v⟩ := head
    by_cases first : k = key
    · subst first
      simp [replaceFirst, apart]
    · by_cases second : k = other
      · subst second
        simp [replaceFirst, first]
      · simp [replaceFirst, first, second, ih]

theorem replaceFirst_insert_comm {key other : String} (apart : key ≠ other) (value value' : α)
    (table : Ordered String α) :
    replaceFirst key value (Ordered.insert other value' table) =
      Ordered.insert other value' (replaceFirst key value table) := by
  induction table with
  | nil => simp [Ordered.insert, replaceFirst, Ne.symm apart]
  | cons head rest ih =>
    obtain ⟨k, v⟩ := head
    by_cases first : k = key
    · subst first
      by_cases before : other < k <;>
        simp [Ordered.insert, replaceFirst, Ne.symm apart, before]
    · by_cases second : other = k
      · simp [Ordered.insert, replaceFirst, first, second]
      · by_cases before : other < k <;>
          simp [Ordered.insert, replaceFirst, first, second, before, Ne.symm apart, ih]

end TokenIndexer.Toml
