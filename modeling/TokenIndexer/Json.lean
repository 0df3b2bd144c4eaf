import TokenIndexer.Text

/-!
JSON values as a document spells them. A string literal whose bytes or escapes are no Unicode text is kept as
`none`, and a number keeps its digits.
-/

namespace TokenIndexer

/-- A number literal: sign, whole part, the digits after the point, and the exponent. -/
structure Numeral where
  negative : Bool
  whole : Nat
  fraction : List Nat
  exponent : Option Int
  deriving DecidableEq, Repr

/-- The text of a string literal, when it spells one. -/
abbrev Literal := Option String

inductive Json where
  | null
  | bool (value : Bool)
  | number (value : Numeral)
  | string (text : Literal)
  | array (items : List Json)
  | object (members : List (Literal × Json))

namespace Numeral

def ofNat (n : Nat) : Numeral := ⟨false, n, [], none⟩

def ofInt (n : Int) : Numeral := ⟨decide (n < 0), n.natAbs, [], none⟩

/-- The whole number that the literal spells without point or exponent; `-0` spells none. -/
def int? (n : Numeral) : Option Int :=
  if n.fraction = [] ∧ n.exponent = none then
    if n.negative then if n.whole = 0 then none else some (-(n.whole : Int)) else some n.whole
  else none

theorem int?_ofInt (n : Int) : (ofInt n).int? = some n := by
  by_cases below : n < 0
  · simp only [int?, ofInt, below, decide_true, and_self, if_true]
    rw [if_neg (by omega)]
    congr 1
    omega
  · simp only [int?, ofInt, below, decide_false, and_self, if_true, Bool.false_eq_true, if_false]
    congr 1
    omega

end Numeral

namespace Json

def text (s : String) : Json := .string (some s)

def nat (n : Nat) : Json := .number (.ofNat n)

def int (n : Int) : Json := .number (.ofInt n)

def obj (members : List (String × Json)) : Json :=
  .object (members.map fun (key, value) => (some key, value))

def membersAt (key : String) (members : List (Literal × Json)) : List Json :=
  members.filterMap fun (k, value) => if k = some key then some value else none

end Json

end TokenIndexer
