import TokenIndexer.Proofs.Slot
import TokenIndexer.Toml.Section

/-!
What the members of a document go back to. A string among them is the value of one of its lines: sections
further down give tables, arrays and dates alone.
-/

namespace TokenIndexer.Toml

variable {key k : String} {path : List String} {value entry : Entry} {entries entries' : List (String × Entry)}
  {v : Toml}

theorem mem_replaceFirst {α : Type} {value old : α} {entries : List (String × α)}
    (mem : (k, old) ∈ replaceFirst key value entries) : (k, old) ∈ entries ∨ old = value := by
  induction entries with
  | nil => cases mem
  | cons head rest ih =>
    obtain ⟨k', v'⟩ := head
    rw [replaceFirst] at mem
    split at mem
    · obtain same | mem := List.mem_cons.1 mem
      · cases same
        exact .inr rfl
      · exact .inl (List.mem_cons_of_mem _ mem)
    · obtain same | mem := List.mem_cons.1 mem
      · exact .inl (same ▸ List.mem_cons_self)
      · exact (ih mem).imp_left (List.mem_cons_of_mem _)

namespace Entry

/-! ### Further values -/

/-- Only a table that dotted keys opened is changed by a further value. -/
theorem add_head (undotted : ∀ members, entry ≠ .table true members)
    (added : add value key path ((k, entry) :: entries) = some entries') :
    ∃ more, entries' = (k, entry) :: more := by
  obtain _ | ⟨next, path⟩ := path
  · cases added
    exact ⟨_, rfl⟩
  · rw [add] at added
    split at added
    · obtain ⟨inner, -, rfl⟩ := Option.map_eq_some_iff.1 added
      exact ⟨_, rfl⟩
    · next members found =>
      obtain ⟨inner, -, rfl⟩ := Option.map_eq_some_iff.1 added
      rw [replaceFirst]
      split
      · next same =>
        subst same
        simp only [List.lookup_cons, beq_self_eq_true, Option.some.injEq] at found
        exact (undotted _ found).elim
      · exact ⟨_, rfl⟩
    · cases added

theorem scalar_of_mem_add (added : add value key path entries = some entries') (mem : (k, .scalar v) ∈ entries') :
    (k, .scalar v) ∈ entries ∨ value = .scalar v := by
  obtain _ | ⟨next, path⟩ := path
  · cases added
    obtain mem | mem := List.mem_append.1 mem
    · exact .inl mem
    · cases List.mem_singleton.1 mem
      exact .inr rfl
  · rw [add] at added
    split at added
    · obtain ⟨inner, -, rfl⟩ := Option.map_eq_some_iff.1 added
      obtain mem | mem := List.mem_append.1 mem
      · exact .inl mem
      · cases List.mem_singleton.1 mem
    · obtain ⟨inner, -, rfl⟩ := Option.map_eq_some_iff.1 added
      obtain mem | same := mem_replaceFirst mem
      · exact .inl mem
      · cases same
    · cases added

/-! ### Values and members -/

theorem members?_cons {members : List (String × Toml)} (read : members? ((k, entry) :: entries) = some members) :
    ∃ v more, entry.toToml? = some v ∧ members = (k, v) :: more ∧ members? entries = some more := by
  simp only [members?, Option.bind_eq_bind, Option.bind_eq_some_iff, Option.some.injEq] at read
  obtain ⟨v, value, more, rest, rfl⟩ := read
  exact ⟨v, more, value, rfl, rest⟩

theorem leadingDate?_ne_string {text : String} : leadingDate? entries ≠ some (.string text) := by
  unfold leadingDate?
  split
  · simp
  · nofun

theorem toToml?_string {text : String} (read : entry.toToml? = some (.string text)) :
    entry = .scalar (.string text) := by
  cases entry with
  | scalar value =>
    rw [toToml?] at read
    cases read
    rfl
  | date spelling => simp [toToml?] at read
  | array items => simp [toToml?] at read
  | table dotted entries =>
    rw [toToml?] at read
    split at read
    · exact (leadingDate?_ne_string read).elim
    · obtain ⟨_, -, same⟩ := Option.map_eq_some_iff.1 read
      cases same

theorem members?_string {members : List (String × Toml)} {text : String} (read : members? entries = some members)
    (mem : (k, .string text) ∈ members) : (k, .scalar (.string text)) ∈ entries := by
  induction entries generalizing members with
  | nil =>
    rw [members?] at read
    cases read
    cases mem
  | cons head entries ih =>
    obtain ⟨k', entry⟩ := head
    obtain ⟨v, more, value, rfl, rest⟩ := members?_cons read
    obtain same | mem := List.mem_cons.1 mem
    · cases same
      rw [toToml?_string value]
      exact List.mem_cons_self
    · exact List.mem_cons_of_mem _ (ih rest mem)

end Entry

/-! ### The lines of a section -/

namespace Section

structure Grown (opened : Section) (lines : List Line) (s : Section) : Prop where
  array : s.array = opened.array
  path : s.path = opened.path
  head : ∀ k entry entries, (∀ members, entry ≠ .table true members) →
    opened.entries = (k, entry) :: entries → ∃ more, s.entries = (k, entry) :: more
  scalars : ∀ k v, (k, .scalar v) ∈ s.entries →
    (k, .scalar v) ∈ opened.entries ∨ ∃ a, .assignment a ∈ lines ∧ a.value = .scalar v

theorem grown_ofLines? {opened : Section} {lines : List Line} {sections : List Section}
    (read : ofLines? opened lines = some sections) : ∃ s later, sections = s :: later ∧ Grown opened lines s := by
  induction lines generalizing opened sections with
  | nil =>
    cases read
    exact ⟨opened, [], rfl, rfl, rfl, fun _ _ entries _ same => ⟨entries, same⟩, fun _ _ => .inl⟩
  | cons line lines ih =>
    cases line with
    | header header =>
      obtain ⟨later, -, rfl⟩ := Option.map_eq_some_iff.1 read
      exact ⟨opened, later, rfl, rfl, rfl, fun _ _ entries _ same => ⟨entries, same⟩, fun _ _ => .inl⟩
    | assignment a =>
      simp only [ofLines?, Option.bind_eq_bind, Option.bind_eq_some_iff] at read
      obtain ⟨entries, added, read⟩ := read
      obtain ⟨s, later, rfl, grown⟩ := ih read
      refine ⟨s, later, rfl, grown.array, grown.path, fun k entry rest undotted same => ?_, fun k v mem => ?_⟩
      · rw [same] at added
        obtain ⟨more, same⟩ := Entry.add_head undotted added
        exact grown.head k entry more undotted same
      · obtain mem | ⟨b, mem, same⟩ := grown.scalars k v mem
        · obtain mem | same := Entry.scalar_of_mem_add added mem
          · exact .inl mem
          · exact .inr ⟨a, List.mem_cons_self, same⟩
        · exact .inr ⟨b, List.mem_cons_of_mem _ mem, same⟩

end Section

/-! ### The members of a document -/

namespace Sections

variable {sections left : List Section} {text : String}

theorem table?_ne_string {depth : Nat} : table? depth sections ≠ some (.string text, left) := by
  cases depth with
  | zero => nofun
  | succ depth =>
    intro found
    simp only [table?] at found
    repeat' split at found
    · obtain ⟨date, read, same⟩ := Option.map_eq_some_iff.1 found
      cases same
      exact Entry.leadingDate?_ne_string read
    · cases found
    · cases found
    · simp only [Option.bind_eq_bind, Option.bind_eq_some_iff, Option.map_eq_some_iff] at found
      obtain ⟨_, -, _, -, _, -, same⟩ := found
      cases same

theorem child?_ne_string {depth : Nat} : child? (table? depth) sections ≠ some (.string text, left) := by
  intro found
  unfold child? at found
  split at found
  · cases found
  · split at found
    · simp at found
    · exact table?_ne_string found

theorem string_notMem_values? {depth count : Nat} {values : List Toml}
    (read : values? (table? depth) count sections = some values) : .string text ∉ values := by
  fun_induction values? (table? depth) count sections generalizing values with
  | case1 =>
    cases read
    exact List.not_mem_nil
  | case2 =>
    cases read
    exact List.not_mem_nil
  | case3 sections count _ ih =>
    simp only [Option.bind_eq_bind, Option.bind_eq_some_iff, Prod.exists, Option.some.injEq] at read
    obtain ⟨value, left, child, rest, later, rfl⟩ := read
    refine List.not_mem_cons_of_ne_of_not_mem ?_ (ih left later)
    rintro rfl
    exact child?_ne_string child

/-- A string among the members stands in front of all headers. -/
theorem allMembers?_string {members : List (String × Toml)} (read : allMembers? sections = some members)
    (mem : (k, .string text) ∈ members) : (k, .scalar (.string text)) ∈ leading sections := by
  simp only [allMembers?, Option.bind_eq_bind, Option.bind_eq_some_iff, Option.some.injEq] at read
  obtain ⟨own, ownRead, inner, innerRead, rfl⟩ := read
  obtain mem | mem := List.mem_append.1 mem
  · exact Entry.members?_string ownRead mem
  · obtain ⟨row, rowMem, mem⟩ := List.mem_flatten.1 mem
    obtain ⟨key, -, found⟩ := exists_of_forall₂ (mapM_eq_some_iff.1 innerRead) rowMem
    simp only [Option.bind_eq_some_iff, Option.some.injEq] at found
    obtain ⟨values, read, rfl⟩ := found
    obtain ⟨value, valueMem, same⟩ := List.mem_map.1 mem
    cases same
    exact (string_notMem_values? read valueMem).elim

theorem allMembers?_leading {members : List (String × Toml)} {entries : List (String × Entry)}
    (read : allMembers? sections = some members) (same : leading sections = (k, entry) :: entries) :
    ∃ v more, entry.toToml? = some v ∧ members = (k, v) :: more := by
  simp only [allMembers?, Option.bind_eq_bind, Option.bind_eq_some_iff, Option.some.injEq] at read
  obtain ⟨own, ownRead, inner, -, rfl⟩ := read
  rw [same] at ownRead
  obtain ⟨v, more, value, rfl, -⟩ := Entry.members?_cons ownRead
  exact ⟨v, more ++ inner.flatten, value, rfl⟩

end Sections

end TokenIndexer.Toml
