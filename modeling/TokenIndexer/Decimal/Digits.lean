namespace TokenIndexer.Decimal

def digit (n : Nat) : Char := Char.ofNat (48 + n % 10)

def power (n : Nat) : Nat := Nat.pow 10 n

def isDigit (c : Char) : Bool := '0' ≤ c && c ≤ '9'

def digitValue (c : Char) : Nat := c.toNat - 48

def digits (n : Nat) : List Char :=
  if n < 10 then [digit n] else digits (n / 10) ++ [digit n]

def valueFrom (read : Nat) (cs : List Char) : Nat := cs.foldl (fun n c => 10 * n + digitValue c) read

def value (cs : List Char) : Nat := valueFrom 0 cs

def ofDigits? (cs : List Char) : Option Nat :=
  if cs ≠ [] ∧ cs.all isDigit then some (value cs) else none

def readNat? : List Char → Option Nat
  | '+' :: cs => ofDigits? cs
  | cs => ofDigits? cs

def readInt? : List Char → Option Int
  | '+' :: cs => (ofDigits? cs).map Int.ofNat
  | '-' :: cs => (ofDigits? cs).map fun n => -Int.ofNat n
  | cs => (ofDigits? cs).map Int.ofNat

def ofInt : Int → List Char
  | .ofNat n => digits n
  | .negSucc n => '-' :: digits (n + 1)

def natText (n : Nat) : String := String.ofList (digits n)

def intText (n : Int) : String := String.ofList (ofInt n)

def padded (width n : Nat) : List Char :=
  List.replicate (width - (digits n).length) '0' ++ digits n

theorem isDigit_iff {c : Char} : isDigit c = true ↔ '0' ≤ c ∧ c ≤ '9' := by
  simp [isDigit]

theorem isDigit_digit (n : Nat) : isDigit (digit n) = true := by
  have table : ∀ k : Fin 10, isDigit (Char.ofNat (48 + k)) = true := by decide
  exact table ⟨n % 10, Nat.mod_lt _ (by decide)⟩

theorem digitValue_digit (n : Nat) : digitValue (digit n) = n % 10 := by
  have table : ∀ k : Fin 10, digitValue (Char.ofNat (48 + k)) = k := by decide
  exact table ⟨n % 10, Nat.mod_lt _ (by decide)⟩

theorem digits_ne_nil (n : Nat) : digits n ≠ [] := by
  unfold digits
  split <;> simp

theorem all_isDigit_digits (n : Nat) : (digits n).all isDigit = true := by
  fun_induction digits n with
  | case1 n small => simp [isDigit_digit]
  | case2 n large ih => rw [List.all_append, ih]; simp [isDigit_digit]

theorem value_digits (n : Nat) : value (digits n) = n := by
  fun_induction digits n with
  | case1 n small =>
    simp only [value, valueFrom, List.foldl_cons, List.foldl_nil, digitValue_digit]
    omega
  | case2 n large ih =>
    unfold value valueFrom at ih ⊢
    rw [List.foldl_append, ih, List.foldl_cons, List.foldl_nil, digitValue_digit]
    omega

theorem ofDigits?_digits (n : Nat) : ofDigits? (digits n) = some n := by
  unfold ofDigits?
  rw [if_pos ⟨digits_ne_nil n, all_isDigit_digits n⟩, value_digits]

end TokenIndexer.Decimal
