/-!
The fields of a record by name or by position. In a list of items a field may be missing only when all later
ones are.
-/

namespace TokenIndexer

/-- What stands in a field's place: a value, nothing although the record gives its fields by name, or
nothing because the list ended before it. -/
inductive Slot (ν : Type) where
  | given (value : ν)
  | missing
  | cutOff

namespace Slot

variable {ν α : Type}

def required? (read : ν → Option α) : Slot ν → Option α
  | .given value => read value
  | _ => none

def optional? (read : ν → Option α) : Slot ν → Option (Option α)
  | .given value => (read value).map some
  | .missing => some none
  | .cutOff => none

def defaulted? (read : ν → Option α) (fallback : α) : Slot ν → Option α
  | .given value => read value
  | _ => some fallback

/-- The fields of a list of items. More items than fields are refused. -/
def ofItems? : List String → List ν → Option (List (Slot ν))
  | [], [] => some []
  | [], _ :: _ => none
  | _ :: names, [] => (ofItems? names []).map (.cutOff :: ·)
  | _ :: names, item :: items => (ofItems? names items).map (.given item :: ·)

end Slot

end TokenIndexer
