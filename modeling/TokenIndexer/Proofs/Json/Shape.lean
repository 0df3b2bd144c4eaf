import TokenIndexer.Json.Shape
import TokenIndexer.Proofs.Slot

namespace TokenIndexer.Json

variable {α : Type}

/-! ### Records -/

theorem membersAt_cons (key name : String) (value : Json) (members : List (Literal × Json)) :
    membersAt name ((some key, value) :: members) =
      if key = name then value :: membersAt name members else membersAt name members := by
  by_cases same : key = name <;> simp [membersAt, same]

theorem membersAt_eq_nil {members : List (String × Json)} {name : String}
    (missing : name ∉ members.map (·.1)) :
    membersAt name (members.map fun (key, value) => (some key, value)) = [] := by
  induction members with
  | nil => rfl
  | cons first members ih =>
    rw [List.map_cons, List.mem_cons, not_or] at missing
    rw [List.map_cons, membersAt_cons, if_neg (Ne.symm missing.1), ih missing.2]

theorem membersAt_eq_singleton {members : List (String × Json)}
    (distinct : (members.map (·.1)).Nodup) {member : String × Json} (inside : member ∈ members) :
    membersAt member.1 (members.map fun (key, value) => (some key, value)) = [member.2] := by
  induction members with
  | nil => cases inside
  | cons first members ih =>
    obtain ⟨fresh, distinct⟩ := List.nodup_cons.1 distinct
    rw [List.map_cons, membersAt_cons]
    rcases List.mem_cons.1 inside with rfl | later
    · rw [if_pos rfl, membersAt_eq_nil fresh]
    · have differs : first.1 ≠ member.1 := by
        intro same
        apply fresh
        change first.1 ∈ _
        rw [same]
        exact List.mem_map_of_mem later
      rw [if_neg differs, ih distinct later]

theorem slotsOfMembers?_obj {names : List String} {members : List (String × Json)}
    (named : members.map (·.1) = names) (distinct : names.Nodup) :
    slotsOfMembers? names (members.map fun (key, value) => (some key, value)) =
      some (members.map fun member => .given member.2) := by
  subst named
  rw [slotsOfMembers?, if_pos (by simp), List.mapM_map]
  apply mapM_eq_pure
  intro member inside
  rw [Function.comp_apply, slotOf?, membersAt_eq_singleton distinct inside]
  rfl

theorem slots?_obj {names : List String} {members : List (String × Json)}
    (named : members.map (·.1) = names) (distinct : names.Nodup) :
    (obj members).slots? names = some (members.map fun member => .given member.2) :=
  slotsOfMembers?_obj named distinct

/-! ### Fields -/

@[simp] theorem text?_text (s : String) : (text s).text? = some s := rfl

theorem text?_eq_some_iff {value : Json} {s : String} : value.text? = some s ↔ value = text s := by
  cases value <;> simp [text?, text]

@[simp] theorem list?_array {read : Json → Option α} {write : α → Json}
    (inverse : ∀ a, read (write a) = some a) (items : List α) :
    (array (items.map write)).list? read = some items := by
  rw [list?, items?, Option.bind_some, List.mapM_map]
  have each : read ∘ write = fun a => some a := funext inverse
  rw [each]
  exact List.mapM_pure.trans (by simp)

/-- A field that may be null or left out, which gives something just where a value stands. -/
theorem nullable?_cases {read : Json → Option α} {slot : Slot Json} {result : Option α}
    (given : nullable? read slot = some result) :
    (result = none ∧ ∀ value, slot.value? = some value → value = .null) ∨
      ∃ value a, slot = .given value ∧ value ≠ .null ∧ read value = some a ∧ result = some a := by
  cases slot with
  | missing =>
    cases given
    exact .inl ⟨rfl, nofun⟩
  | cutOff => cases given
  | given value =>
    by_cases null : value = .null
    · subst null
      cases given
      exact .inl ⟨rfl, fun value there => (Option.some.inj there).symm⟩
    · have read' : (read value).map some = some result := by
        rw [← given, nullable?, Slot.optional?]
        intro same
        exact null (Slot.given.inj same)
      obtain ⟨a, found, rfl⟩ := Option.map_eq_some_iff.1 read'
      exact .inr ⟨value, a, rfl, null, found, rfl⟩

theorem nullable?_list? {read : Json → Option α} {slot : Slot Json} {list : Option (List α)}
    (given : nullable? (list? read) slot = some list) :
    (list = none ∧ slot.value?.bind items? = none) ∨
      ∃ items results, slot = .given (.array items) ∧ items.mapM read = some results ∧ list = some results := by
  rcases nullable?_cases given with ⟨rfl, nothing⟩ | ⟨value, results, rfl, -, listed, rfl⟩
  · refine .inl ⟨rfl, ?_⟩
    apply Option.bind_eq_none_iff.2
    intro value there
    rw [nothing value there]
    rfl
  · obtain ⟨items, array, all⟩ := Option.bind_eq_some_iff.1 listed
    cases value with
    | array items' =>
      cases array
      exact .inr ⟨_, _, rfl, all, rfl⟩
    | _ => cases array

theorem forall₂_of_nullable?_list? {read : Json → Option α} {slot : Slot Json} {list : Option (List α)}
    (given : nullable? (list? read) slot = some list) :
    List.Forall₂ (fun item a => read item = some a) ((slot.value?.bind items?).getD []) (list.getD []) := by
  rcases nullable?_list? given with ⟨rfl, nothing⟩ | ⟨items, results, rfl, all, rfl⟩
  · rw [nothing]
    exact .nil
  · exact mapM_eq_some_iff.1 all

theorem intIn?_int {low high n : Int} (above : low ≤ n) (below : n ≤ high) :
    (int n).intIn? low high = some n := by
  rw [int, intIn?, Numeral.int?_ofInt, Option.bind_some, if_pos ⟨above, below⟩]

theorem nat_eq_int (n : Nat) : nat n = int n := by
  simp [nat, int, Numeral.ofNat, Numeral.ofInt]

@[simp] theorem word64?_nat (n : UInt64) : (nat n.toNat).word64? = some n := by
  have small := n.toNat_lt
  rw [word64?, nat_eq_int, intIn?_int (by omega) (by simp only [UInt64.size]; omega), Option.map_some]
  simp

@[simp] theorem word32?_nat (n : UInt32) : (nat n.toNat).word32? = some n := by
  have small := n.toNat_lt
  rw [word32?, nat_eq_int, intIn?_int (by omega) (by simp only [UInt32.size]; omega), Option.map_some]
  simp

@[simp] theorem signed64?_int (n : Int64) : (int n.toInt).signed64? = some n := by
  rw [signed64?, intIn?_int (Int64.minValue_le_toInt n) (Int64.toInt_le n), Option.map_some,
    Int64.ofInt_toInt]

/-! ### Keeping values whole -/

@[simp] theorem keepable_text (depth : Nat) (s : String) : (text s).keepable depth = true := rfl

theorem keepableItems_eq (depth : Nat) (items : List Json) :
    keepableItems depth items = items.all (keepable depth) := by
  induction items with
  | nil => rfl
  | cons item items ih => rw [keepableItems, ih, List.all_cons]

theorem keepable_array (depth : Nat) (items : List Json) :
    (array items).keepable (depth + 1) = items.all (keepable depth) := by
  rw [keepable, keepableItems_eq]
  simp

theorem keepable_obj (depth : Nat) (members : List (String × Json)) :
    (obj members).keepable (depth + 1) = members.all fun member => member.2.keepable depth := by
  have each : keepableMembers depth (members.map fun (key, value) => (some key, value)) =
      members.all fun member => member.2.keepable depth := by
    induction members with
    | nil => rfl
    | cons member members ih => simp only [List.map_cons, keepableMembers, ih, List.all_cons]; simp
  rw [obj, keepable, Nat.add_sub_cancel, each]
  simp

end TokenIndexer.Json
