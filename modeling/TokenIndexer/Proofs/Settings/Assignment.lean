import TokenIndexer.Proofs.Toml.Path
import TokenIndexer.Settings.Load

/-!
What one override makes of a table. A table is made only where there is nothing, and in a new table nothing is
in the way, so an override that fails leaves the table as it was.
-/

namespace TokenIndexer.Override

open Toml

variable {whole key : String} {value : Toml} {path : List String} {table inner : Toml.Table}

/-! ### One key of the path -/

theorem assign_of_missing (more : path ≠ []) (missing : Ordered.find? key table = none) :
    assign whole value (key :: path) table =
      (Ordered.insert key (.table (assign whole value path []).1) table,
        (assign whole value path []).2) := by
  cases path with
  | nil => exact absurd rfl more
  | cons next path => rw [assign, missing]; simp

theorem assign_of_table (more : path ≠ []) (present : Ordered.find? key table = some (.table inner)) :
    assign whole value (key :: path) table =
      (replaceFirst key (.table (assign whole value path inner).1) table,
        (assign whole value path inner).2) := by
  cases path with
  | nil => exact absurd rfl more
  | cons next path => rw [assign, present]; simp

theorem assign_of_blocked (more : path ≠ []) {other : Toml}
    (present : Ordered.find? key table = some other) (blocked : ¬ other.IsTable) :
    assign whole value (key :: path) table = (table, .error (.notTable key whole)) := by
  cases path with
  | nil => exact absurd rfl more
  | cons next path =>
    rw [assign, present]
    · cases other with
      | table members => exact absurd ⟨members, rfl⟩ blocked
      | _ => rfl
    · simp

theorem find?_cases (key : String) (table : Toml.Table) :
    Ordered.find? key table = none ∨ (∃ inner, Ordered.find? key table = some (.table inner)) ∨
      ∃ other, Ordered.find? key table = some other ∧ ¬ other.IsTable := by
  cases found : Ordered.find? key table with
  | none => exact .inl rfl
  | some other =>
    by_cases isTable : other.IsTable
    · obtain ⟨inner, rfl⟩ := isTable
      exact .inr (.inl ⟨inner, rfl⟩)
    · exact .inr (.inr ⟨other, rfl, isTable⟩)

/-- An assignment that goes through changes what stands under the first key of its path. With more keys to
follow it is a table, in which the rest of the path was assigned. -/
theorem assign_cons {before after : Toml.Table}
    (assigned : assign whole value (key :: path) before = (after, .ok ())) :
    ∃ entry, (∀ other, Ordered.find? other after =
        if other = key then some entry else Ordered.find? other before) ∧
      (path = [] ∧ entry = value ∨
        ∃ inner outer, entry = .table outer ∧ assign whole value path inner = (outer, .ok ()) ∧
          (Ordered.find? key before = none ∧ inner = [] ∨
            Ordered.find? key before = some (.table inner))) := by
  by_cases more : path = []
  · subst more
    cases assigned
    exact ⟨value, fun other => Ordered.find?_insert key other value before, .inl ⟨rfl, rfl⟩⟩
  rcases find?_cases key before with missing | ⟨inner, present⟩ | ⟨other, present, scalar⟩
  · rw [assign_of_missing more missing, Prod.mk.injEq] at assigned
    obtain ⟨rfl, ok⟩ := assigned
    exact ⟨_, fun other => Ordered.find?_insert key other _ before,
      .inr ⟨[], _, rfl, Prod.ext rfl ok, .inl ⟨missing, rfl⟩⟩⟩
  · rw [assign_of_table more present, Prod.mk.injEq] at assigned
    obtain ⟨rfl, ok⟩ := assigned
    exact ⟨_, fun other => find?_replaceFirst present other _,
      .inr ⟨inner, _, rfl, Prod.ext rfl ok, .inr present⟩⟩
  · rw [assign_of_blocked more present scalar] at assigned
    cases assigned

theorem apply_eq_ok_iff {o : Override} {before after : Toml.Table} :
    o.apply before = .ok after ↔ o.applyInPlace before = (after, .ok ()) := by
  unfold apply
  obtain ⟨table, _ | ⟨⟩⟩ := o.applyInPlace before
  · simp [Except.map]
  · simp [Except.map]

theorem apply_eq_error_iff {o : Override} {table : Toml.Table} {e : SettingsError} :
    o.apply table = .error e ↔ (o.applyInPlace table).2 = .error e := by
  unfold apply
  obtain ⟨table, _ | ⟨⟩⟩ := o.applyInPlace table
  · simp [Except.map]
  · simp [Except.map]

/-! ### Failure -/

/-- A key on the way to the end of the path has a value that is no table, and it is the first one: all that
leads to it is a table. -/
structure BlockedAt (path : List String) (table : Toml.Table) (front : List String) (key : String) : Prop where
  leads : ∃ rest, rest ≠ [] ∧ path = front ++ key :: rest
  blocked : ∃ other, (Toml.table table).at? (front ++ [key]) = some other ∧ ¬ other.IsTable
  first : ∀ q, q <+: front → ∃ inner, (Toml.table table).at? q = some (.table inner)

def Clear (path : List String) (table : Toml.Table) : Prop :=
  ∀ front, front <+: path → front ≠ path → ∀ other, (Toml.table table).at? front = some other → other.IsTable

theorem clear_cons (within : ∀ front, front <+: path → front ≠ path → ∀ other,
      (Ordered.find? key table).bind (at? front) = some other → other.IsTable) :
    Clear (key :: path) table := by
  intro front leads proper other found
  rcases List.prefix_cons_iff.1 leads with rfl | ⟨rest, rfl, inside⟩
  · cases found
    exact ⟨table, rfl⟩
  · exact within rest inside (fun same => proper (same ▸ rfl)) other found

/-- An assignment goes through or is blocked, and when it is blocked the table is as it was. -/
theorem assign_cases (whole : String) (value : Toml) (named : path ≠ []) (table : Toml.Table) :
    (assign whole value path table).2 = .ok () ∧ Clear path table ∨
      ∃ front key, BlockedAt path table front key ∧
        assign whole value path table = (table, .error (.notTable key whole)) := by
  induction path generalizing table with
  | nil => exact absurd rfl named
  | cons key path ih =>
    by_cases more : path = []
    · subst more
      refine .inl ⟨rfl, clear_cons ?_⟩
      intro front leads proper
      exact absurd (List.prefix_nil.1 leads) proper
    rcases find?_cases key table with missing | ⟨inner, present⟩ | ⟨other, present, scalar⟩
    · rw [assign_of_missing more missing]
      -- Nothing is in the way in a table that is new.
      rcases ih more [] with ⟨ok, -⟩ | ⟨front, key', blocked, -⟩
      · refine .inl ⟨ok, clear_cons ?_⟩
        intro front leads proper other found
        rw [missing] at found
        cases found
      · obtain ⟨other, found, -⟩ := blocked.blocked
        rw [at?_empty (by simp)] at found
        cases found
    · rw [assign_of_table more present]
      rcases ih more inner with ⟨ok, clear⟩ | ⟨front, key', blocked, fails⟩
      · refine .inl ⟨ok, clear_cons ?_⟩
        intro front leads proper other found
        rw [present] at found
        exact clear front leads proper other found
      · refine .inr ⟨key :: front, key', ⟨?_, ?_, ?_⟩, ?_⟩
        · obtain ⟨rest, further, rfl⟩ := blocked.leads
          exact ⟨rest, further, rfl⟩
        · rw [List.cons_append, at?_cons, present]
          exact blocked.blocked
        · intro q leads
          rcases List.prefix_cons_iff.1 leads with rfl | ⟨rest, rfl, inside⟩
          · exact ⟨table, rfl⟩
          · rw [at?_cons, present]
            exact blocked.first rest inside
        · rw [fails, replaceFirst_of_find? present]
    · refine .inr ⟨[], key, ⟨⟨path, more, rfl⟩, ⟨other, ?_, scalar⟩, ?_⟩, ?_⟩
      · rw [List.nil_append, at?_cons, present]
        rfl
      · intro q leads
        rw [List.prefix_nil.1 leads]
        exact ⟨table, rfl⟩
      · exact assign_of_blocked more present scalar

/-! ### Success -/

structure Assigned (path : List String) (value : Toml) (before after : Toml.Table) : Prop where
  own : (Toml.table after).at? path = some value
  tables : ∀ front, front <+: path → front ≠ path → ∃ inner, (Toml.table after).at? front = some (.table inner)
  apart : ∀ q, ¬ q <+: path → ¬ path <+: q → (Toml.table after).at? q = (Toml.table before).at? q

theorem Assigned.added {before after : Toml.Table} (assigned : Assigned path value before after)
    {q : List String} (missing : (Toml.table before).at? q = none) {new : Toml}
    (there : (Toml.table after).at? q = some new) :
    path <+: q ∨ q <+: path ∧ new.IsTable := by
  by_cases beyond : path <+: q
  · exact .inl beyond
  by_cases leads : q <+: path
  · obtain ⟨inner, found⟩ := assigned.tables q leads (fun same => beyond (same ▸ List.prefix_rfl))
    exact .inr ⟨leads, inner, Option.some.inj (there.symm.trans found)⟩
  · rw [assigned.apart q leads beyond, missing] at there
    cases there

variable {before after : Toml.Table}

theorem assigned_single
    (finds : ∀ other, Ordered.find? other after = if other = key then some value else Ordered.find? other before) :
    Assigned [key] value before after := by
  refine ⟨?_, ?_, ?_⟩
  · rw [at?_cons, finds, if_pos rfl]
    rfl
  · intro front leads proper
    rcases List.prefix_cons_iff.1 leads with rfl | ⟨rest, rfl, inside⟩
    · exact ⟨_, rfl⟩
    · exact absurd (List.prefix_nil.1 inside ▸ rfl) proper
  · intro q notBefore notBeyond
    cases q with
    | nil => exact absurd List.nil_prefix notBefore
    | cons other q =>
      have differs : other ≠ key := by
        rintro rfl
        exact notBeyond (List.cons_prefix_cons.2 ⟨rfl, List.nil_prefix⟩)
      rw [at?_cons, at?_cons, finds, if_neg differs]

theorem assigned_cons {inner outer : Toml.Table} (assigned : Assigned path value inner outer)
    (there : Ordered.find? key before = none ∧ inner = [] ∨ Ordered.find? key before = some (.table inner))
    (finds : ∀ other, Ordered.find? other after =
      if other = key then some (.table outer) else Ordered.find? other before) :
    Assigned (key :: path) value before after := by
  have through (q : List String) : (Toml.table after).at? (key :: q) = (Toml.table outer).at? q := by
    rw [at?_cons, finds, if_pos rfl]
    rfl
  refine ⟨?_, ?_, ?_⟩
  · rw [through]
    exact assigned.own
  · intro front leads proper
    rcases List.prefix_cons_iff.1 leads with rfl | ⟨rest, rfl, inside⟩
    · exact ⟨_, rfl⟩
    · rw [through]
      exact assigned.tables rest inside fun same => proper (same ▸ rfl)
  · intro q notBefore notBeyond
    cases q with
    | nil => exact absurd List.nil_prefix notBefore
    | cons other q =>
      by_cases same : other = key
      · subst same
        have notBefore' : ¬ q <+: path := fun leads => notBefore (List.cons_prefix_cons.2 ⟨rfl, leads⟩)
        have notBeyond' : ¬ path <+: q := fun leads => notBeyond (List.cons_prefix_cons.2 ⟨rfl, leads⟩)
        rw [through, assigned.apart q notBefore' notBeyond', at?_cons]
        rcases there with ⟨missing, rfl⟩ | present
        · rw [missing]
          apply at?_empty
          rintro rfl
          exact notBefore' List.nil_prefix
        · rw [present]
          rfl
      · rw [at?_cons, at?_cons, finds, if_neg same]

theorem assigned_of_ok {path : List String} {before after : Toml.Table}
    (ok : assign whole value path before = (after, .ok ())) : Assigned path value before after := by
  induction path generalizing before after with
  | nil => cases ok
  | cons key path ih =>
    obtain ⟨entry, finds, ⟨rfl, rfl⟩ | ⟨inner, outer, rfl, inside, there⟩⟩ := assign_cons ok
    · exact assigned_single finds
    · exact assigned_cons (ih inside) there finds

/-! ### Overrides -/

/-- What an override makes of a table. -/
structure Exact (o : Override) (table : Toml.Table) : Prop where
  /-- It fails exactly when something on the way is there and is no table. -/
  fails_iff : (∃ e, o.apply table = .error e) ↔
    ∃ front, front <+: o.path ∧ front ≠ o.path ∧
      ∃ other, (Toml.table table).at? front = some other ∧ ¬ other.IsTable
  /-- Then it names the first such key, and the table is as it was. -/
  failed : ∀ e, o.apply table = .error e →
    (o.applyInPlace table).1 = table ∧
      ∃ front key, BlockedAt o.path table front key ∧ e = .notTable key o.name
  assigned : ∀ after, o.apply table = .ok after →
    (o.applyInPlace table).1 = after ∧ Assigned o.path o.value table after
  /-- Only the value and what is in it come new, and tables that were missing on the way to it. -/
  added : ∀ after, o.apply table = .ok after → ∀ q new, (Toml.table table).at? q = none →
    (Toml.table after).at? q = some new → o.path <+: q ∨ q <+: o.path ∧ new.IsTable

theorem BlockedAt.proper {front : List String} (blocked : BlockedAt path table front key) :
    front ++ [key] <+: path ∧ front ++ [key] ≠ path := by
  obtain ⟨rest, further, rfl⟩ := blocked.leads
  refine ⟨⟨rest, by simp⟩, fun same => further ?_⟩
  simpa using same

theorem exact_apply (o : Override) (named : o.path ≠ []) (table : Toml.Table) : o.Exact table := by
  have assigned {after : Toml.Table} (applied : o.apply table = .ok after) :
      Assigned o.path o.value table after := assigned_of_ok (apply_eq_ok_iff.1 applied)
  rcases assign_cases o.name o.value named table with ⟨ok, clear⟩ | ⟨front, key, blocked, fails⟩
  · have applied : o.apply table = .ok (o.applyInPlace table).1 := apply_eq_ok_iff.2 (Prod.ext rfl ok)
    refine ⟨?_, ?_, ?_, fun _ applied _ _ missing there => (assigned applied).added missing there⟩
    · rw [applied]
      refine ⟨fun ⟨_, fails⟩ => (nomatch fails), ?_⟩
      rintro ⟨front, leads, proper, other, there, scalar⟩
      exact absurd (clear front leads proper other there) scalar
    · intro e fails
      cases applied.symm.trans fails
    · intro after applied'
      cases applied.symm.trans applied'
      exact ⟨rfl, assigned applied⟩
  · have failed : o.apply table = .error (.notTable key o.name) :=
      apply_eq_error_iff.2 (congrArg Prod.snd fails)
    refine ⟨?_, ?_, ?_, ?_⟩
    · obtain ⟨leads, proper⟩ := blocked.proper
      exact ⟨fun _ => ⟨_, leads, proper, blocked.blocked⟩, fun _ => ⟨_, failed⟩⟩
    · intro e failed'
      cases failed.symm.trans failed'
      exact ⟨congrArg Prod.fst fails, front, key, blocked, rfl⟩
    · intro after applied
      cases failed.symm.trans applied
    · intro after applied
      cases failed.symm.trans applied

/-- A text is in the way of the path through it. -/
theorem exact_through_text :
    let o : Override := ⟨["client", "remote_url", "host"], .string "b"⟩
    let table : Toml.Table := [("client", .table [("remote_url", .string "http://a")])]
    o.path ≠ [] ∧ o.Exact table ∧
      o.apply table = .error (.notTable "remote_url" "client.remote_url.host") :=
  ⟨by decide, exact_apply _ (by decide) _, rfl⟩

end TokenIndexer.Override
