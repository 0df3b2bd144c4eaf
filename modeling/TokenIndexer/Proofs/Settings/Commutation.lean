import Mathlib.Data.List.Pairwise
import TokenIndexer.Proofs.Settings.Assignment

/-! Overrides one after the other. -/

namespace TokenIndexer.Override

open Toml

variable {whole whole' key key' : String} {value value' : Toml} {path path' : List String}
  {table inner : Toml.Table}

/-- Neither path leads to the other. -/
def Apart (path path' : List String) : Prop := ¬ path <+: path' ∧ ¬ path' <+: path

theorem Apart.symm (apart : Apart path path') : Apart path' path := ⟨apart.2, apart.1⟩

theorem Apart.ne_nil (apart : Apart path path') : path ≠ [] := by
  rintro rfl
  exact apart.1 List.nil_prefix

theorem apart_cons : Apart (key :: path) (key :: path') ↔ Apart path path' := by
  simp [Apart, List.cons_prefix_cons]

/-! ### Different first keys

What an assignment does with the value under the first key of its path depends on that value alone, and it
touches no other. -/

inductive Edit where
  | keep
  | insert (value : Toml)
  | replace (value : Toml)

def Edit.run (key : String) : Edit → Toml.Table → Toml.Table
  | .keep, table => table
  | .insert value, table => Ordered.insert key value table
  | .replace value, table => replaceFirst key value table

def edit (whole key : String) (value : Toml) (path : List String) (there : Option Toml) :
    Edit × Except SettingsError Unit :=
  if path = [] then (.insert value, .ok ())
  else
    match there with
    | none => ((.insert (.table (assign whole value path []).1)), (assign whole value path []).2)
    | some (.table inner) =>
      ((.replace (.table (assign whole value path inner).1)), (assign whole value path inner).2)
    | some _ => (.keep, .error (.notTable key whole))

theorem assign_eq_edit (whole key : String) (value : Toml) (path : List String) (table : Toml.Table) :
    assign whole value (key :: path) table =
      ((edit whole key value path (Ordered.find? key table)).1.run key table,
        (edit whole key value path (Ordered.find? key table)).2) := by
  by_cases more : path = []
  · subst more
    rfl
  unfold edit
  rw [if_neg more]
  rcases find?_cases key table with missing | ⟨inner, present⟩ | ⟨other, present, scalar⟩
  · rw [assign_of_missing more missing, missing]
    rfl
  · rw [assign_of_table more present, present]
    rfl
  · rw [assign_of_blocked more present scalar, present]
    cases other with
    | table members => exact absurd ⟨members, rfl⟩ scalar
    | _ => rfl

theorem Edit.find?_run (apart : key' ≠ key) (e : Edit) (table : Toml.Table) :
    Ordered.find? key' (e.run key table) = Ordered.find? key' table := by
  cases e with
  | keep => rfl
  | insert value => rw [run, Ordered.find?_insert, if_neg apart]
  | replace value => exact find?_replaceFirst_of_ne apart value table

theorem Edit.run_comm (apart : key ≠ key') (e e' : Edit) (table : Toml.Table) :
    e.run key (e'.run key' table) = e'.run key' (e.run key table) := by
  cases e with
  | keep => rfl
  | insert value =>
    cases e' with
    | keep => rfl
    | insert value' => exact Ordered.insert_comm apart value value' table
    | replace value' => exact (replaceFirst_insert_comm apart.symm value' value table).symm
  | replace value =>
    cases e' with
    | keep => rfl
    | insert value' => exact replaceFirst_insert_comm apart value value' table
    | replace value' => exact replaceFirst_comm apart value value' table

/-! ### One first key -/

/-- Two assignments under one key: the second one finds the table that the first one left there. -/
theorem assign_assign_of_missing (more : path ≠ []) (more' : path' ≠ [])
    (missing : Ordered.find? key table = none) :
    assign whole' value' (key :: path') (assign whole value (key :: path) table).1 =
      (Ordered.insert key (.table (assign whole' value' path' (assign whole value path []).1).1) table,
        (assign whole' value' path' (assign whole value path []).1).2) := by
  rw [assign_of_missing more missing]
  have present : Ordered.find? key (Ordered.insert key (.table (assign whole value path []).1) table) =
      some (.table (assign whole value path []).1) := by
    rw [Ordered.find?_insert, if_pos rfl]
  rw [assign_of_table more' present, replaceFirst_insert]

theorem assign_assign_of_table (more : path ≠ []) (more' : path' ≠ [])
    (present : Ordered.find? key table = some (.table inner)) :
    assign whole' value' (key :: path') (assign whole value (key :: path) table).1 =
      (replaceFirst key (.table (assign whole' value' path' (assign whole value path inner).1).1) table,
        (assign whole' value' path' (assign whole value path inner).1).2) := by
  rw [assign_of_table more present, assign_of_table more' (find?_replaceFirst_self present _),
    replaceFirst_replaceFirst]

/-- Assignments at paths apart come to the same in either order, and neither makes the other one fail or go
through. -/
theorem assign_comm (apart : Apart path path') (table : Toml.Table) :
    (assign whole' value' path' (assign whole value path table).1).1 =
        (assign whole value path (assign whole' value' path' table).1).1 ∧
      (assign whole' value' path' (assign whole value path table).1).2 =
        (assign whole' value' path' table).2 := by
  induction path generalizing path' table with
  | nil => exact absurd rfl apart.ne_nil
  | cons key path ih =>
    cases path' with
    | nil => exact absurd rfl apart.symm.ne_nil
    | cons key' path' =>
      by_cases same : key = key'
      · subst same
        have apart := apart_cons.1 apart
        have more := apart.ne_nil
        have more' := apart.symm.ne_nil
        rcases find?_cases key table with missing | ⟨inner, present⟩ | ⟨other, present, scalar⟩
        · obtain ⟨tables, results⟩ := ih apart []
          rw [assign_assign_of_missing more more' missing, assign_assign_of_missing more' more missing,
            assign_of_missing more' missing]
          exact ⟨by rw [tables], results⟩
        · obtain ⟨tables, results⟩ := ih apart inner
          rw [assign_assign_of_table more more' present, assign_assign_of_table more' more present,
            assign_of_table more' present]
          exact ⟨by rw [tables], results⟩
        · rw [assign_of_blocked more present scalar, assign_of_blocked more' present scalar,
            assign_of_blocked more present scalar]
          exact ⟨rfl, rfl⟩
      · rw [assign_eq_edit whole key, assign_eq_edit whole' key' value' path' table,
          assign_eq_edit whole' key', assign_eq_edit whole key value path,
          Edit.find?_run (Ne.symm same), Edit.find?_run same]
        exact ⟨Edit.run_comm (Ne.symm same) _ _ table, rfl⟩

theorem assign_assign (whole whole' : String) (value value' : Toml) (path : List String) (table : Toml.Table) :
    assign whole' value' path (assign whole value path table).1 = assign whole' value' path table := by
  induction path generalizing table with
  | nil => rfl
  | cons key path ih =>
    by_cases more : path = []
    · subst more
      simp only [assign, Ordered.insert_insert]
    rcases find?_cases key table with missing | ⟨inner, present⟩ | ⟨other, present, scalar⟩
    · rw [assign_assign_of_missing more more missing, ih, assign_of_missing more missing]
    · rw [assign_assign_of_table more more present, ih, assign_of_table more present]
    · rw [assign_of_blocked more present scalar, assign_of_blocked more present scalar]

/-! ### Any number of overrides -/

/-- Applies overrides one after the other, and goes on after one that fails. -/
def applyEach (overrides : List Override) (table : Toml.Table) : Toml.Table :=
  overrides.foldl (fun table o => (o.applyInPlace table).1) table

theorem applyInPlace_of_error {o : Override} {e : SettingsError} (fails : (o.applyInPlace table).2 = .error e) :
    (o.applyInPlace table).1 = table := by
  by_cases named : o.path = []
  · rw [applyInPlace, named]
    rfl
  rcases assign_cases o.name o.value named table with ⟨ok, -⟩ | ⟨front, key, -, blocked⟩
  · cases ok.symm.trans fails
  · exact congrArg Prod.fst blocked

theorem applyInPlace_comm {a b : Override} (apart : Apart a.path b.path) (table : Toml.Table) :
    (b.applyInPlace (a.applyInPlace table).1).1 = (a.applyInPlace (b.applyInPlace table).1).1 ∧
      (b.applyInPlace (a.applyInPlace table).1).2 = (b.applyInPlace table).2 :=
  assign_comm apart table

theorem applyEach_perm {first second : List Override} (perm : first.Perm second)
    (apart : first.Pairwise fun a b => Apart a.path b.path) (table : Toml.Table) :
    applyEach first table = applyEach second table := by
  have symmetric : Std.Symm fun a b : Override => Apart a.path b.path := ⟨fun _ _ apart => apart.symm⟩
  apply perm.foldl_eq'
  intro a inside b inside' table
  by_cases same : a = b
  · rw [same]
  · have apart : Apart a.path b.path := apart.forall inside inside' same
    exact (applyInPlace_comm apart table).1

theorem result_applyEach {earlier : List Override} {o : Override}
    (apart : ∀ other ∈ earlier, Apart other.path o.path) (table : Toml.Table) :
    (o.applyInPlace (applyEach earlier table)).2 = (o.applyInPlace table).2 := by
  induction earlier generalizing table with
  | nil => rfl
  | cons other earlier ih =>
    obtain ⟨first, others⟩ := List.forall_mem_cons.1 apart
    calc (o.applyInPlace (applyEach (other :: earlier) table)).2
        = (o.applyInPlace (applyEach earlier (other.applyInPlace table).1)).2 := rfl
      _ = (o.applyInPlace (other.applyInPlace table).1).2 := ih others _
      _ = (o.applyInPlace table).2 := (applyInPlace_comm first table).2

/-- How overrides come together. An override that fails leaves the table for the next one as it was. -/
structure Composes (table : Toml.Table) : Prop where
  passedOver : ∀ (o : Override) e, (o.applyInPlace table).2 = .error e → (o.applyInPlace table).1 = table
  /-- Either order gives one table, and each override goes through or fails as it does alone. -/
  commute : ∀ a b : Override, Apart a.path b.path →
    (b.applyInPlace (a.applyInPlace table).1).1 = (a.applyInPlace (b.applyInPlace table).1).1 ∧
    (b.applyInPlace (a.applyInPlace table).1).2 = (b.applyInPlace table).2 ∧
    (a.applyInPlace (b.applyInPlace table).1).2 = (a.applyInPlace table).2
  collapse : ∀ a b : Override, a.path = b.path →
    b.applyInPlace (a.applyInPlace table).1 = b.applyInPlace table
  again : ∀ o : Override, o.applyInPlace (o.applyInPlace table).1 = o.applyInPlace table
  reorder : ∀ first second : List Override, first.Perm second →
    (first.Pairwise fun a b => Apart a.path b.path) → applyEach first table = applyEach second table
  undisturbed : ∀ earlier (o : Override) later,
    ((earlier ++ o :: later).Pairwise fun a b => Apart a.path b.path) →
      (o.applyInPlace (applyEach earlier table)).2 = (o.applyInPlace table).2

theorem composes_overrides (table : Toml.Table) : Composes table where
  passedOver _ _ fails := applyInPlace_of_error fails
  commute a b apart :=
    have ⟨tables, result⟩ := applyInPlace_comm apart table
    have ⟨_, result'⟩ := applyInPlace_comm apart.symm table
    ⟨tables, result, result'⟩
  collapse a b same := by
    rw [applyInPlace, applyInPlace, applyInPlace, same]
    exact assign_assign a.name b.name a.value b.value b.path table
  again o := assign_assign o.name o.name o.value o.value o.path table
  reorder _ _ perm apart := applyEach_perm perm apart table
  undisturbed earlier o later apart := by
    apply result_applyEach
    intro other inside
    exact (List.pairwise_append.1 apart).2.2 other inside o List.mem_cons_self

end TokenIndexer.Override
