import Mathlib.Data.List.Forall2
import TokenIndexer.Slot

namespace TokenIndexer

variable {ε α β : Type}

theorem exists_of_map_ok {f : α → β} {x : Except ε α} {b : β} (mapped : x.map f = .ok b) :
    ∃ a, x = .ok a ∧ f a = b := by
  cases x with
  | error _ => cases mapped
  | ok a =>
    cases mapped
    exact ⟨a, rfl, rfl⟩

theorem exists_of_bind_ok {f : α → Except ε β} {x : Except ε α} {b : β} (bound : (x >>= f) = .ok b) :
    ∃ a, x = .ok a ∧ f a = .ok b := by
  cases x with
  | error _ => cases bound
  | ok a => exact ⟨a, rfl, bound⟩

theorem mapM_congr {m : Type → Type} [Monad m] [LawfulMonad m] {f g : α → m β} {l : List α}
    (each : ∀ a ∈ l, f a = g a) : l.mapM f = l.mapM g := by
  induction l with
  | nil => rfl
  | cons a rest ih =>
    rw [List.mapM_cons, List.mapM_cons, each a List.mem_cons_self,
      ih fun b later => each b (List.mem_cons_of_mem _ later)]

theorem mapM_eq_pure {m : Type → Type} [Monad m] [LawfulMonad m] {f : α → m β} {g : α → β}
    {l : List α} (each : ∀ a ∈ l, f a = pure (g a)) : l.mapM f = pure (l.map g) :=
  (mapM_congr each).trans List.mapM_pure

theorem mapM_eq_some_iff {f : α → Option β} {l : List α} {results : List β} :
    l.mapM f = some results ↔ List.Forall₂ (fun a b => f a = some b) l results := by
  induction l generalizing results with
  | nil => simp [eq_comm]
  | cons a l ih =>
    simp only [List.mapM_cons, Option.bind_eq_bind, Option.bind_eq_some_iff, List.forall₂_cons_left_iff, ih,
      Option.pure_def, Option.some.injEq, eq_comm (a := results), exists_and_left]

theorem mapM_eq_ok_iff {f : α → Except ε β} {l : List α} {results : List β} :
    l.mapM f = .ok results ↔ List.Forall₂ (fun a b => f a = .ok b) l results := by
  induction l generalizing results with
  | nil => simp [pure, Except.pure, eq_comm]
  | cons a l ih =>
    rw [List.mapM_cons, List.forall₂_cons_left_iff]
    constructor
    · intro all
      obtain ⟨b, first, all⟩ := exists_of_bind_ok all
      obtain ⟨bs, later, all⟩ := exists_of_bind_ok all
      cases all
      exact ⟨b, bs, first, ih.1 later, rfl⟩
    · rintro ⟨b, bs, first, later, rfl⟩
      rw [first, ih.2 later]
      rfl

theorem forall₂_trans {γ : Type} {R : α → β → Prop} {S : β → γ → Prop} {T : α → γ → Prop}
    (both : ∀ a b c, R a b → S b c → T a c) {first : List α} {second : List β} {third : List γ}
    (left : List.Forall₂ R first second) (right : List.Forall₂ S second third) :
    List.Forall₂ T first third := by
  induction left generalizing third with
  | nil =>
    cases right
    exact .nil
  | cons head _ ih =>
    cases right with
    | cons head' rest' => exact .cons (both _ _ _ head head') (ih rest')

theorem exists_of_forall₂ {R : α → β → Prop} {l : List α} {results : List β}
    (related : List.Forall₂ R l results) {b : β} (member : b ∈ results) : ∃ a ∈ l, R a b := by
  induction related with
  | nil => cases member
  | cons first _ ih =>
    rcases List.mem_cons.1 member with rfl | later
    · exact ⟨_, List.mem_cons_self, first⟩
    · obtain ⟨a, among, own⟩ := ih later
      exact ⟨a, List.mem_cons_of_mem _ among, own⟩

theorem getElem?_of_forall₂ {R : α → β → Prop} {l : List α} {results : List β}
    (related : List.Forall₂ R l results) {position : Nat} {b : β} (there : results[position]? = some b) :
    ∃ a, l[position]? = some a ∧ R a b := by
  obtain ⟨inside, rfl⟩ := List.getElem?_eq_some_iff.1 there
  have within : position < l.length := related.length_eq ▸ inside
  exact ⟨l[position], List.getElem?_eq_getElem within, related.get within inside⟩

theorem mapM_set {f : α → Except ε β} {l : List α} {results : List β} {a : α} {b : β}
    (all : l.mapM f = .ok results) (read : f a = .ok b) (position : Nat) :
    (l.set position a).mapM f = .ok (results.set position b) := by
  rw [mapM_eq_ok_iff] at all ⊢
  induction all generalizing position with
  | nil => exact .nil
  | cons first later ih =>
    cases position with
    | zero => exact .cons read later
    | succ position => exact .cons first (ih position)

namespace Slot

variable {ν α : Type}

def value? : Slot ν → Option ν
  | .given value => some value
  | _ => none

theorem required?_eq_some_iff {read : ν → Option α} {slot : Slot ν} {a : α} :
    slot.required? read = some a ↔ ∃ value, slot = .given value ∧ read value = some a := by
  cases slot <;> simp [required?]

theorem required?_eq (read : ν → Option α) (slot : Slot ν) :
    slot.required? read = slot.value?.elim none read := by
  cases slot <;> rfl

theorem defaulted?_eq (read : ν → Option α) (fallback : α) (slot : Slot ν) :
    slot.defaulted? read fallback = slot.value?.elim (some fallback) read := by
  cases slot <;> rfl

theorem of_optional? {read : ν → Option α} {slot : Slot ν} {place : Option ν} {value : Option α}
    (stands : slot.value? = place) (given : slot.optional? read = some value) :
    place.elim (some none) (fun item => (read item).map some) = some value := by
  subst stands
  cases slot with
  | given item => exact given
  | missing => exact given
  | cutOff => cases given

theorem values_ofItems? {names : List String} {items : List ν} {slots : List (Slot ν)}
    (read : ofItems? names items = some slots) :
    slots.map value? = names.mapIdx fun i _ => items[i]? := by
  induction names generalizing items slots with
  | nil =>
    cases items with
    | nil =>
      cases read
      rfl
    | cons item items => cases read
  | cons name names ih =>
    cases items with
    | nil =>
      obtain ⟨later, laterRead, rfl⟩ := Option.map_eq_some_iff.1 read
      rw [List.map_cons, ih laterRead, List.mapIdx_cons]
      rfl
    | cons item items =>
      obtain ⟨later, laterRead, rfl⟩ := Option.map_eq_some_iff.1 read
      rw [List.map_cons, ih laterRead, List.mapIdx_cons]
      rfl

end Slot

end TokenIndexer
