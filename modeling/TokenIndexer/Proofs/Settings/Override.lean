import TokenIndexer.Proofs.Settings.Assignment
import TokenIndexer.Proofs.Settings.Setting
import TokenIndexer.Proofs.Slot

/-! What overrides make of a setting: it is what the last of those says that leads to it or around it. -/

namespace TokenIndexer

namespace Override

variable {whole : String} {value : Toml} {before after : Toml.Table} {setting : Setting}

/-! ### One assignment -/

/-- The same within the section of the setting, whose fields are under their names. A table is no value of
a setting, so that a path through the setting leaves none. -/
theorem within_assign_apart {path : List String} (assigned : assign whole value path before = (after, .ok ()))
    (apart : ¬ path <+: [setting.place.name]) {held : setting.kind.Value}
    (holds : setting.within (some (.table after)) = some held) :
    setting.within (some (.table before)) = some held := by
  cases path with
  | nil => cases assigned
  | cons key path =>
    obtain ⟨entry, finds, changed⟩ := assign_cons assigned
    change (Ordered.find? setting.place.name after).elim _ _ = _ at holds
    rw [finds] at holds
    split at holds
    · next same =>
      exfalso
      rcases changed with ⟨rfl, -⟩ | ⟨inner, outer, rfl, -⟩
      · exact apart (same ▸ List.prefix_rfl)
      · rw [Option.elim_some, Setting.Kind.read?_table] at holds
        cases holds
    · exact holds

theorem valueIn_apply_apart {o : Override} (applied : o.apply before = .ok after)
    (apart : ¬ o.path <+: setting.path) {held : setting.kind.Value}
    (holds : setting.valueIn after = some held) : setting.valueIn before = some held := by
  rw [apply_eq_ok_iff, applyInPlace] at applied
  cases path : o.path with
  | nil =>
    rw [path] at apart
    exact absurd List.nil_prefix apart
  | cons key rest =>
    rw [path] at applied apart
    obtain ⟨entry, finds, changed⟩ := assign_cons applied
    rw [Setting.valueIn, finds] at holds
    split at holds
    · next same =>
      subst same
      rcases changed with ⟨rfl, -⟩ | ⟨inner, outer, rfl, inside, found⟩
      · exact absurd (List.prefix_append _ _) apart
      · have apart : ¬ rest <+: [setting.place.name] := by
          intro leads
          exact apart (List.cons_prefix_cons.2 ⟨rfl, leads⟩)
        have kept := within_assign_apart inside apart holds
        rcases found with ⟨missing, rfl⟩ | present
        · rw [Setting.valueIn, missing]
          exact kept
        · rw [Setting.valueIn, present]
          exact kept
    · exact holds

theorem valueIn_apply_own {o : Override} (applied : o.apply before = .ok after)
    (own : o.path = setting.path) : setting.valueIn after = setting.kind.read? o.value := by
  rw [apply_eq_ok_iff, applyInPlace, own, Setting.path] at applied
  obtain ⟨entry, finds, ⟨done, -⟩ | ⟨inner, outer, rfl, inside, -⟩⟩ := assign_cons applied
  · cases done
  · obtain ⟨entry, findsInside, ⟨-, rfl⟩ | ⟨_, _, _, impossible, -⟩⟩ := assign_cons inside
    · rw [Setting.valueIn, finds, if_pos rfl]
      change (Ordered.find? _ outer).elim _ _ = _
      rw [findsInside, if_pos rfl, Option.elim_some]
    · cases impossible

/-! ### Any number of overrides -/

theorem applyAll_cons {o : Override} {overrides : List Override}
    (applied : applyAll (o :: overrides) before = .ok after) :
    ∃ middle, o.apply before = .ok middle ∧ applyAll overrides middle = .ok after := by
  rw [applyAll, List.foldlM_cons] at applied
  exact exists_of_bind_ok applied

theorem applyAll_append {first second : List Override}
    (applied : applyAll (first ++ second) before = .ok after) :
    ∃ middle, applyAll first before = .ok middle ∧ applyAll second middle = .ok after := by
  rw [applyAll, List.foldlM_append] at applied
  exact exists_of_bind_ok applied

theorem valueIn_applyAll_apart {overrides : List Override}
    (applied : applyAll overrides before = .ok after)
    (apart : ∀ o ∈ overrides, ¬ o.path <+: setting.path) {held : setting.kind.Value}
    (holds : setting.valueIn after = some held) : setting.valueIn before = some held := by
  induction overrides generalizing before with
  | nil =>
    cases applied
    exact holds
  | cons o overrides ih =>
    obtain ⟨first, others⟩ := List.forall_mem_cons.1 apart
    obtain ⟨middle, step, rest⟩ := applyAll_cons applied
    exact valueIn_apply_apart step first (ih rest others)

/-- The last override of a setting decides, when none after it leads to something around the setting. -/
theorem read?_of_applyAll {earlier later : List Override} {o : Override}
    (applied : applyAll (earlier ++ o :: later) before = .ok after) (own : o.path = setting.path)
    (apart : ∀ other ∈ later, ¬ other.path <+: setting.path) {held : setting.kind.Value}
    (holds : setting.valueIn after = some held) : setting.kind.read? o.value = some held := by
  obtain ⟨start, -, applied⟩ := applyAll_append applied
  obtain ⟨middle, step, rest⟩ := applyAll_cons applied
  rw [← valueIn_apply_own step own]
  exact valueIn_applyAll_apart rest apart holds

theorem eq_of_applyAll {overrides : List Override} {said held : setting.kind.Value}
    (applied : applyAll overrides before = .ok after)
    (agree : ∀ o ∈ overrides, o.path <+: setting.path →
      o.path = setting.path ∧ setting.kind.read? o.value = some said)
    (overridden : ∃ o ∈ overrides, o.path = setting.path)
    (holds : setting.valueIn after = some held) : held = said := by
  induction overrides generalizing before with
  | nil =>
    obtain ⟨o, none, -⟩ := overridden
    cases none
  | cons o overrides ih =>
    obtain ⟨first, others⟩ := List.forall_mem_cons.1 agree
    obtain ⟨middle, step, rest⟩ := applyAll_cons applied
    by_cases again : ∃ other ∈ overrides, other.path = setting.path
    · exact ih rest others again
    · have apart : ∀ other ∈ overrides, ¬ other.path <+: setting.path := by
        intro other inside leads
        exact again ⟨other, inside, (others other inside leads).1⟩
      have own : o.path = setting.path := by
        obtain ⟨other, inside, same⟩ := overridden
        rcases List.mem_cons.1 inside with rfl | later
        · exact same
        · exact absurd ⟨other, later, same⟩ again
      have stands := valueIn_applyAll_apart rest apart holds
      rw [valueIn_apply_own step own, (first (own ▸ List.prefix_rfl)).2] at stands
      exact (Option.some.inj stands).symm

end Override

end TokenIndexer
