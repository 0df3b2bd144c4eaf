import TokenIndexer.Json.Kept
import TokenIndexer.Slot

/-! Reading records, which stand as objects with further members or as arrays of their fields in order. -/

namespace TokenIndexer.Json

def text? : Json → Option String
  | .string text => text
  | _ => none

def items? : Json → Option (List Json)
  | .array items => some items
  | _ => none

def members? : Json → Option (List (Literal × Json))
  | .object members => some members
  | _ => none

def list? {α : Type} (read : Json → Option α) (value : Json) : Option (List α) :=
  value.items?.bind fun items => items.mapM read

def intIn? (low high : Int) : Json → Option Int
  | .number n => n.int?.bind fun i => if low ≤ i ∧ i ≤ high then some i else none
  | _ => none

def word64? (value : Json) : Option UInt64 :=
  (value.intIn? 0 (UInt64.size - 1)).map fun i => UInt64.ofNat i.toNat

def word32? (value : Json) : Option UInt32 :=
  (value.intIn? 0 (UInt32.size - 1)).map fun i => UInt32.ofNat i.toNat

def signed64? (value : Json) : Option Int64 :=
  (value.intIn? Int64.minValue.toInt Int64.maxValue.toInt).map Int64.ofInt

def nullable? {α : Type} (read : Json → Option α) : Slot Json → Option (Option α)
  | .given .null => some none
  | slot => slot.optional? read

/-- The slot of one key; a key given twice is refused. -/
def slotOf? (members : List (Literal × Json)) (name : String) : Option (Slot Json) :=
  match membersAt name members with
  | [] => some .missing
  | [value] => some (.given value)
  | _ => none

def slotsOfMembers? (names : List String) (members : List (Literal × Json)) :
    Option (List (Slot Json)) :=
  if members.all fun (key, _) => key.isSome then names.mapM (slotOf? members) else none

def slots? (names : List String) : Json → Option (List (Slot Json))
  | .object members => slotsOfMembers? names members
  | .array items => Slot.ofItems? names items
  | _ => none

/-- One of several bare words, spelled as a text or as an object with the word as its only key and
null beside it. -/
def word? {α : Type} (words : List (String × α)) : Json → Option α
  | .string (some text) => words.lookup text
  | .object [(some text, .null)] => words.lookup text
  | _ => none

end TokenIndexer.Json
