import Mathlib.Data.List.Nodup
import Mathlib.Data.List.Perm.Basic
import TokenIndexer.Json.Kept
import TokenIndexer.Message
import TokenIndexer.Proofs.Json.Shape

namespace TokenIndexer.Json

def named (members : List (String × Json)) : List (Literal × Json) :=
  members.map fun (key, value) => (some key, value)

/-- An object of just these members, in any order. -/
def Gives (members : List (String × Json)) (value : Json) : Prop :=
  ∃ listed, listed.Perm (named members) ∧ value = .object listed

theorem gives_obj (members : List (String × Json)) : Gives members (obj members) :=
  ⟨named members, .refl _, rfl⟩

/-! ### Looking members up -/

variable {listed others : List (Literal × Json)} {members kept : List (String × Json)} {value : Json}

theorem slotOf?_perm (perm : listed.Perm others) (name : String) :
    slotOf? listed name = slotOf? others name := by
  have same : (membersAt name listed).Perm (membersAt name others) := perm.filterMap _
  unfold slotOf?
  cases there : membersAt name others with
  | nil =>
    rw [there] at same
    rw [same.eq_nil]
  | cons first rest =>
    rw [there] at same
    cases rest with
    | nil => rw [same.eq_singleton]
    | cons second rest =>
      -- Two members of one key are two in any order.
      have count := same.length_eq
      cases here : membersAt name listed with
      | nil => simp [here] at count
      | cons first' rest' =>
        cases rest' with
        | nil => simp [here] at count
        | cons second' rest' => rfl

theorem slotsOfMembers?_perm (perm : listed.Perm others) (names : List String) :
    slotsOfMembers? names listed = slotsOfMembers? names others := by
  have slots : slotOf? listed = slotOf? others := funext (slotOf?_perm perm)
  rw [slotsOfMembers?, slotsOfMembers?, perm.all_eq, slots]

theorem Gives.slots? (gives : Gives members value) (names : List String) :
    value.slots? names = (obj members).slots? names := by
  obtain ⟨listed, perm, rfl⟩ := gives
  exact slotsOfMembers?_perm perm names

theorem slots?_obj_append {names : List String} {extra : List (String × Json)}
    (apart : ∀ name ∈ names, name ∉ extra.map (·.1)) :
    (obj (members ++ extra)).slots? names = (obj members).slots? names := by
  have spelled (members : List (String × Json)) :
      ((members.map fun (key, value) => (some key, value)).all fun (key, _) => key.isSome) = true := by simp
  rw [obj, obj, Json.slots?, Json.slots?, slotsOfMembers?, slotsOfMembers?, if_pos (spelled _),
    if_pos (spelled _)]
  apply mapM_congr
  intro name known
  have own : membersAt name ((members ++ extra).map fun (key, value) => (some key, value)) =
      membersAt name (members.map fun (key, value) => (some key, value)) := by
    have none_there := membersAt_eq_nil (apart name known)
    rw [membersAt] at none_there
    rw [membersAt, List.map_append, List.filterMap_append, none_there, List.append_nil, membersAt]
  rw [slotOf?, own, slotOf?]

/-- An object with these members and any others that have none of the names. -/
def Record (names : List String) (members : List (String × Json)) (value : Json) : Prop :=
  ∃ extra, (∀ name ∈ names, name ∉ extra.map (·.1)) ∧ Gives (members ++ extra) value

theorem Record.slots? {names : List String} (holds : Record names members value) :
    value.slots? names = (obj members).slots? names := by
  obtain ⟨extra, apart, gives⟩ := holds
  rw [gives.slots?, slots?_obj_append apart]

theorem Record.given {names : List String} (holds : Record names members value)
    (all : members.map (·.1) = names) (distinct : names.Nodup) :
    value.slots? names = some (members.map fun member => .given member.2) := by
  rw [holds.slots?, slots?_obj all distinct]

theorem record_obj (names : List String) (members : List (String × Json)) :
    Record names members (obj members) := by
  refine ⟨[], by simp, ?_⟩
  rw [List.append_nil]
  exact gives_obj members

/-- The tag may stand anywhere; the other members keep their order. -/
theorem Gives.tagged? {tag kind : String} (gives : Gives ((tag, text kind) :: members) value)
    (apart : tag ∉ members.map (·.1)) :
    ∃ fields, value.tagged? tag = some (kind, fields) ∧ Gives members fields := by
  obtain ⟨listed, perm, rfl⟩ := gives
  have alone : membersAt tag listed = [text kind] := by
    have same : (membersAt tag listed).Perm (membersAt tag (named ((tag, text kind) :: members))) :=
      perm.filterMap _
    rw [named, List.map_cons, membersAt_cons, if_pos rfl, membersAt_eq_nil apart] at same
    exact same.eq_singleton
  refine ⟨.object (listed.filter fun member => member.1 ≠ some tag), ?_, _, ?_, rfl⟩
  · rw [Json.tagged?, alone]
    rfl
  · have untagged : (named ((tag, text kind) :: members)).filter (fun member => member.1 ≠ some tag) =
        named members := by
      rw [named, List.map_cons, List.filter_cons_of_neg (by simp), List.filter_eq_self.2]
      · rfl
      · intro member inside
        obtain ⟨original, listed, rfl⟩ := List.mem_map.1 inside
        simp only [ne_eq, Option.some.injEq, decide_eq_true_eq]
        rintro rfl
        exact apart (List.mem_map_of_mem listed)
    rw [← untagged]
    exact perm.filter _

/-! ### Keeping records -/

section Kept

variable {spelled : String → Option Json} {depth : Nat}

theorem insertMember_perm {key : Literal} {done : List (Literal × Json)}
    (fresh : key ∉ done.map (·.1)) : (insertMember key value done).Perm ((key, value) :: done) := by
  induction done with
  | nil => exact .refl _
  | cons member done ih =>
    obtain ⟨k, v⟩ := member
    rw [List.map_cons, List.mem_cons, not_or] at fresh
    rw [insertMember, if_neg (Ne.symm fresh.1)]
    split
    · exact .refl _
    · exact ((ih fresh.2).cons _).trans (.swap ..)

def MemberKept (spelled : String → Option Json) (depth : Nat) (member result : Literal × Json) : Prop :=
  member.1.isSome ∧ result.1 = member.1 ∧ keepBy? spelled depth member.2 = some result.2

theorem keepMembersBy?_perm {done : List (Literal × Json)}
    (each : List.Forall₂ (MemberKept spelled depth) listed others)
    (distinct : ((done ++ others).map (·.1)).Nodup) :
    ∃ all, keepMembersBy? spelled depth done listed = some all ∧ all.Perm (done ++ others) := by
  induction each generalizing done with
  | nil => exact ⟨done, rfl, by rw [List.append_nil]⟩
  | @cons member result listed others first _ ih =>
    obtain ⟨key, value⟩ := member
    obtain ⟨_, value'⟩ := result
    obtain ⟨spelledKey, same, keptValue⟩ := first
    cases same
    have apart : key ∉ done.map (·.1) := by
      intro before
      rw [List.map_append, List.nodup_append] at distinct
      exact distinct.2.2 key before key List.mem_cons_self rfl
    have placed : (insertMember key value' done ++ others).Perm (done ++ (key, value') :: others) :=
      ((insertMember_perm apart).append_right others).trans List.perm_middle.symm
    obtain ⟨all, read, perm⟩ := ih ((placed.map _).nodup_iff.2 distinct)
    refine ⟨all, ?_, perm.trans placed⟩
    have someKey : ¬ key.isNone = true := by
      rw [Option.isNone_iff_eq_none]
      rintro rfl
      cases spelledKey
    rw [keepMembersBy?, if_neg someKey, keptValue]
    exact read

theorem keys_memberKept (each : List.Forall₂ (MemberKept spelled depth) (named members) (named kept)) :
    kept.map (·.1) = members.map (·.1) := by
  induction members generalizing kept with
  | nil =>
    cases kept with
    | nil => rfl
    | cons result kept => cases each
  | cons member members ih =>
    cases kept with
    | nil => cases each
    | cons result kept =>
      obtain ⟨⟨-, same, -⟩, later⟩ := List.forall₂_cons.1 each
      rw [List.map_cons, List.map_cons, ih later, Option.some.inj same]

theorem Gives.keepBy? {names : List String} (gives : Gives members value)
    (each : List.Forall₂ (MemberKept spelled depth) (named members) (named kept))
    (keys : members.map (·.1) = names) (distinct : names.Nodup) (record : verbatimKey ∉ names) :
    ∃ result, Json.keepBy? spelled (depth + 1) value = some result ∧ Gives kept result := by
  obtain ⟨listed, perm, rfl⟩ := gives
  obtain ⟨others, eachListed, permKept⟩ := List.perm_comp_forall₂ perm each
  subst keys
  have plain : leadsVerbatim listed = false := by
    cases listed with
    | nil => rfl
    | cons first rest =>
      obtain ⟨original, inside, same⟩ := List.mem_map.1 (perm.subset List.mem_cons_self)
      rw [← same, leadsVerbatim, decide_eq_false_iff_not]
      intro verbatim
      exact record (Option.some.inj verbatim ▸ List.mem_map_of_mem inside)
  have distinctKept : ((named kept).map (·.1)).Nodup := by
    have shape : (named kept).map (·.1) = (kept.map (·.1)).map some := by
      rw [named, List.map_map, List.map_map]
      rfl
    rw [shape, keys_memberKept each]
    exact distinct.map fun _ _ same => Option.some.inj same
  have distinctListed : ((([] : List (Literal × Json)) ++ others).map (·.1)).Nodup :=
    (permKept.map _).nodup_iff.2 distinctKept
  obtain ⟨all, read, permAll⟩ := keepMembersBy?_perm eachListed distinctListed
  refine ⟨.object all, ?_, all, permAll.trans permKept, rfl⟩
  simp [Json.keepBy?, plain, read]

end Kept

end TokenIndexer.Json
