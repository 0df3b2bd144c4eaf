import TokenIndexer.Decimal.Digits

namespace TokenIndexer.Decimal

def Digits (cs : List Char) : Prop := cs ≠ [] ∧ cs.all isDigit = true

/-- A text that spells a whole number: digits, with at most one sign in front. -/
inductive Spells : List Char → Int → Prop where
  | unsigned {cs : List Char} (digits : Digits cs) : Spells cs (value cs)
  | plus {cs : List Char} (digits : Digits cs) : Spells ('+' :: cs) (value cs)
  | minus {cs : List Char} (digits : Digits cs) : Spells ('-' :: cs) (-(value cs : Int))

theorem ofDigits?_eq_some_iff {cs : List Char} {n : Nat} :
    ofDigits? cs = some n ↔ Digits cs ∧ value cs = n := by
  unfold ofDigits?
  by_cases spelled : cs ≠ [] ∧ cs.all isDigit = true
  · have digits : Digits cs := spelled
    simp only [if_pos spelled, Option.some.injEq, digits, true_and]
  · have other : ¬ Digits cs := spelled
    simp only [if_neg spelled, other, false_and, reduceCtorEq]

theorem isDigit_of_ofDigits? {c : Char} {cs : List Char} {n : Nat} (read : ofDigits? (c :: cs) = some n) :
    isDigit c = true :=
  List.all_eq_true.1 (ofDigits?_eq_some_iff.1 read).1.2 c List.mem_cons_self

theorem spells_of_readNat? {cs : List Char} {n : Nat} (read : readNat? cs = some n) : Spells cs n := by
  unfold readNat? at read
  split at read
  · obtain ⟨digits, rfl⟩ := ofDigits?_eq_some_iff.1 read
    exact .plus digits
  · obtain ⟨digits, rfl⟩ := ofDigits?_eq_some_iff.1 read
    exact .unsigned digits

theorem spells_of_readInt? {cs : List Char} {n : Int} (read : readInt? cs = some n) : Spells cs n := by
  unfold readInt? at read
  split at read
  all_goals
    obtain ⟨m, found, rfl⟩ := Option.map_eq_some_iff.1 read
    obtain ⟨digits, rfl⟩ := ofDigits?_eq_some_iff.1 found
  · exact .plus digits
  · exact .minus digits
  · exact .unsigned digits

theorem readNat?_of_ofDigits? {cs : List Char} {n : Nat} (read : ofDigits? cs = some n) :
    readNat? cs = some n := by
  unfold readNat?
  split
  · cases isDigit_of_ofDigits? read
  · exact read

theorem readInt?_of_ofDigits? {cs : List Char} {n : Nat} (read : ofDigits? cs = some n) :
    readInt? cs = some (n : Int) := by
  unfold readInt?
  split
  · cases isDigit_of_ofDigits? read
  · cases isDigit_of_ofDigits? read
  · rw [read]
    rfl

theorem readNat?_digits (n : Nat) : readNat? (digits n) = some n :=
  readNat?_of_ofDigits? (ofDigits?_digits n)

theorem readInt?_ofInt (n : Int) : readInt? (ofInt n) = some n := by
  cases n with
  | ofNat n => exact readInt?_of_ofDigits? (ofDigits?_digits n)
  | negSucc n =>
    rw [ofInt, readInt?, ofDigits?_digits]
    rfl

theorem ofInt_ne_nil (n : Int) : ofInt n ≠ [] := by
  cases n with
  | ofNat n => exact digits_ne_nil n
  | negSucc n => exact List.cons_ne_nil _ _

theorem intText_ne_empty (n : Int) : intText n ≠ "" := by
  intro same
  have shape := congrArg String.toList same
  rw [intText, String.toList_ofList] at shape
  exact ofInt_ne_nil n shape

end TokenIndexer.Decimal
