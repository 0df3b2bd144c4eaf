import TokenIndexer.Proofs.Json.Shape

/-!
Places in a document: a value can be put in the place of a field, and a reader then finds it there and all
else as it was.
-/

namespace TokenIndexer

namespace Slot

variable {ν α : Type}

def map (change : ν → ν) : Slot ν → Slot ν
  | .given value => .given (change value)
  | .missing => .missing
  | .cutOff => .cutOff

theorem required?_map {read : ν → Option α} {slot : Slot ν} {a : α} (given : slot.required? read = some a)
    {change : ν → ν} {result : Option α} (each : ∀ value, read value = some a → read (change value) = result) :
    (slot.map change).required? read = result := by
  obtain ⟨value, rfl, read⟩ := required?_eq_some_iff.1 given
  exact each value read

theorem ofItems?_modify {names : List String} {position : Nat} (inside : position < names.length)
    (items : List ν) (change : ν → ν) :
    ofItems? names (items.modify position change) =
      (ofItems? names items).map (·.modify position (map change)) := by
  induction names generalizing items position with
  | nil => cases inside
  | cons name names ih =>
    cases position with
    | zero =>
      cases items with
      | nil => cases later : ofItems? names ([] : List ν) <;> simp [ofItems?, later, map]
      | cons item items => cases later : ofItems? names items <;> simp [ofItems?, later, map]
    | succ position =>
      have within : position < names.length := Nat.lt_of_succ_lt_succ inside
      cases items with
      | nil =>
        have later := ih within []
        rw [List.modify_nil] at later
        rw [List.modify_nil, ofItems?]
        cases found : ofItems? names ([] : List ν) with
        | none => rfl
        | some slots =>
          rw [found] at later
          have same : slots = slots.modify position (map change) := Option.some.inj later
          simp only [Option.map_some, List.modify_succ_cons, ← same]
      | cons item items =>
        rw [List.modify_succ_cons, ofItems?, ih within items, ofItems?]
        cases ofItems? names items <;> rfl

end Slot

namespace Json

inductive Place where
  /-- A field of a record, which has a name and a position. -/
  | field (name : String) (position : Nat)
  | item (position : Nat)

def inside? : Place → Json → Option Json
  | .field name _, .object members => (membersAt name members).head?
  | .field _ position, .array items => items[position]?
  | .item position, .array items => items[position]?
  | _, _ => none

def at? : List Place → Json → Option Json
  | [], value => some value
  | place :: path, value => (value.inside? place).bind (at? path)

def listAt (path : List Place) (value : Json) : List Json := ((value.at? path).bind items?).getD []

def changeMember (name : String) (change : Json → Json) (member : Literal × Json) : Literal × Json :=
  (member.1, if member.1 = some name then change member.2 else member.2)

def changeInside (change : Json → Json) : Place → Json → Json
  | .field name _, .object members => .object (members.map (changeMember name change))
  | .field _ position, .array items => .array (items.modify position change)
  | .item position, .array items => .array (items.modify position change)
  | _, value => value

def put (new : Json) : List Place → Json → Json
  | [], _ => new
  | place :: path, value => value.changeInside (put new path) place

/-! ### Fields of records -/

theorem value?_of_slotOf? {members : List (Literal × Json)} {name : String} {slot : Slot Json}
    (found : slotOf? members name = some slot) : slot.value? = (membersAt name members).head? := by
  unfold slotOf? at found
  split at found
  · next none_there =>
    cases found
    rw [none_there]
    rfl
  · next value alone =>
    cases found
    rw [alone]
    rfl
  · cases found

theorem values_slotsOfMembers? {names : List String} {members : List (Literal × Json)}
    {slots : List (Slot Json)} (read : names.mapM (slotOf? members) = some slots) :
    slots.map Slot.value? = names.map fun name => (membersAt name members).head? := by
  induction names generalizing slots with
  | nil =>
    cases read
    rfl
  | cons name names ih =>
    rw [List.mapM_cons] at read
    simp only [Option.bind_eq_bind, Option.bind_eq_some_iff] at read
    obtain ⟨slot, found, later, laterFound, shape⟩ := read
    cases shape
    rw [List.map_cons, List.map_cons, value?_of_slotOf? found, ih laterFound]

/-- What stands in the fields' places, however the record is written. -/
theorem values_slots? {names : List String} {value : Json} {slots : List (Slot Json)}
    (read : value.slots? names = some slots) :
    slots.map Slot.value? = names.mapIdx fun i name => value.inside? (.field name i) := by
  cases value with
  | object members =>
    rw [slots?, slotsOfMembers?] at read
    split at read
    · rw [values_slotsOfMembers? read]
      apply List.ext_getElem?
      intro i
      rw [List.getElem?_map, List.getElem?_mapIdx]
      rfl
    · cases read
  | array items => exact Slot.values_ofItems? read
  | _ => cases read

variable {names : List String} {name : String} {position : Nat}

theorem inside?_of_slots? {value : Json} {slots : List (Slot Json)} {slot : Slot Json}
    (read : value.slots? names = some slots) (there : slots[position]? = some slot)
    (named : names[position]? = some name) : value.inside? (.field name position) = slot.value? := by
  have values := congrArg (·[position]?) (values_slots? read)
  simp only [List.getElem?_map, there, List.getElem?_mapIdx, named, Option.map_some, Option.some.injEq] at values
  exact values.symm

theorem at?_of_slots? {value : Json} {slots : List (Slot Json)} {slot : Slot Json}
    (read : value.slots? names = some slots) (there : slots[position]? = some slot)
    (named : names[position]? = some name) : value.at? [.field name position] = slot.value? := by
  rw [at?, inside?_of_slots? read there named]
  cases slot.value? <;> rfl

theorem at?_of_given {value inner : Json} {slots : List (Slot Json)} (read : value.slots? names = some slots)
    (there : slots[position]? = some (.given inner)) (named : names[position]? = some name)
    (path : List Place) : value.at? (.field name position :: path) = inner.at? path := by
  rw [at?, inside?_of_slots? read there named]
  rfl

theorem membersAt_change (other : String) (change : Json → Json) (members : List (Literal × Json)) :
    membersAt other (members.map (changeMember name change)) =
      if other = name then (membersAt other members).map change else membersAt other members := by
  induction members with
  | nil => simp [membersAt]
  | cons member members ih =>
    obtain ⟨key, value⟩ := member
    rw [List.map_cons, changeMember]
    by_cases same : key = some other
    · subst same
      rw [membersAt_cons, membersAt_cons, if_pos rfl, if_pos rfl, ih]
      by_cases own : other = name <;> simp [own]
    · have skipped (value : Json) (members : List (Literal × Json)) :
          membersAt other ((key, value) :: members) = membersAt other members := by
        simp [membersAt, same]
      rw [skipped, skipped, ih]

theorem slotOf?_change (other : String) (change : Json → Json) (members : List (Literal × Json)) :
    slotOf? (members.map (changeMember name change)) other =
      (slotOf? members other).map fun slot => if other = name then slot.map change else slot := by
  rw [slotOf?, slotOf?, membersAt_change]
  rcases membersAt other members with _ | ⟨value, _ | ⟨second, rest⟩⟩ <;> by_cases own : other = name <;>
    simp [own, Slot.map]

theorem mapM_change_of_not_mem {β : Type} (missing : name ∉ names) (read : String → Option β)
    (change : β → β) :
    names.mapM (fun other => (read other).map fun b => if other = name then change b else b) =
      names.mapM read := by
  apply mapM_congr
  intro other inside
  have apart : other ≠ name := by
    rintro rfl
    exact missing inside
  simp only [if_neg apart, Option.map_id']

/-- One of several different names is read differently. -/
theorem mapM_change {β : Type} (named : names[position]? = some name) (distinct : names.Nodup)
    (read : String → Option β) (change : β → β) :
    names.mapM (fun other => (read other).map fun b => if other = name then change b else b) =
      (names.mapM read).map (·.modify position change) := by
  induction names generalizing position with
  | nil => cases named
  | cons first names ih =>
    obtain ⟨fresh, distinct⟩ := List.nodup_cons.1 distinct
    rw [List.mapM_cons, List.mapM_cons]
    cases position with
    | zero =>
      cases named
      rw [mapM_change_of_not_mem fresh]
      cases read name <;> cases names.mapM read <;> simp
    | succ position =>
      have apart : first ≠ name := by
        rintro rfl
        exact fresh (List.mem_of_getElem? named)
      rw [ih named distinct]
      cases read first <;> cases names.mapM read <;> simp [apart]

theorem slots?_changeInside (named : names[position]? = some name) (distinct : names.Nodup)
    (change : Json → Json) (value : Json) :
    (value.changeInside change (.field name position)).slots? names =
      (value.slots? names).map (·.modify position (Slot.map change)) := by
  cases value with
  | object members =>
    have keys : ((members.map (changeMember name change)).all fun member => member.1.isSome) =
        members.all fun member => member.1.isSome := by
      rw [List.all_map]
      rfl
    rw [changeInside, slots?, slots?, slotsOfMembers?, slotsOfMembers?, keys]
    split
    · rw [← mapM_change named distinct]
      exact congrArg names.mapM (funext fun other => slotOf?_change other change members)
    · rfl
  | array items => exact Slot.ofItems?_modify (List.getElem?_eq_some_iff.1 named).1 items change
  | _ => rfl

theorem slots?_put (names : List String) (position : Nat) {name : String}
    (named : names[position]? = some name) (distinct : names.Nodup) (new : Json) (path : List Place)
    (value : Json) :
    (put new (.field name position :: path) value).slots? names =
      (value.slots? names).map (·.modify position (Slot.map (put new path))) :=
  slots?_changeInside named distinct (put new path) value

/-! ### Items of lists -/

/-- When one item is read differently, the list is read with that item changed. -/
theorem mapM_modify {ν α : Type} {read : ν → Option α} {items : List ν} {results : List α}
    (all : items.mapM read = some results) {position : Nat} {a : α} (there : results[position]? = some a)
    {change : ν → ν} {result : Option α} (each : ∀ item, read item = some a → read (change item) = result) :
    (items.modify position change).mapM read = result.map fun b => results.set position b := by
  induction items generalizing results position with
  | nil =>
    cases all
    cases there
  | cons item items ih =>
    rw [List.mapM_cons] at all
    simp only [Option.bind_eq_bind, Option.bind_eq_some_iff] at all
    obtain ⟨first, firstRead, later, laterRead, shape⟩ := all
    cases shape
    cases position with
    | zero =>
      cases there
      rw [List.modify_zero_cons, List.mapM_cons, each item firstRead, laterRead]
      cases result <;> rfl
    | succ position =>
      rw [List.modify_succ_cons, List.mapM_cons, firstRead, ih laterRead there]
      cases result <;> rfl

end Json

end TokenIndexer
