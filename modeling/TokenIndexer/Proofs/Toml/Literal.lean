import Mathlib.Data.List.TakeWhile
import TokenIndexer.Proofs.Toml.Document

/-! Literals of one token. -/

namespace TokenIndexer.Toml

open TokenIndexer.Toml.Token

/-! ### One token -/

theorem beginValue_scalar {frames : List Frame} {token : Token} {tokens rest : List Token} {entry : Entry}
    (found : Scalar.read? token tokens = some (entry, rest)) :
    Reading.beginValue frames (token :: tokens) = some ⟨some entry, frames, rest⟩ := by
  cases token with
  | openBracket => cases found
  | openBrace => cases found
  | _ => rw [Reading.beginValue, found] <;> simp

theorem value?_scalar {token : Token} {tokens rest : List Token} {entry : Entry}
    (found : Scalar.read? token tokens = some (entry, rest)) :
    value? (token :: tokens) = some (entry, rest) := by
  have stepped : Reading.step ⟨none, [], token :: tokens⟩ = some ⟨some entry, [], rest⟩ :=
    beginValue_scalar found
  have going : ∀ value, (none : Option Entry) = some value → ([] : List Frame) ≠ [] := by
    intro value finished
    cases finished
  rw [value?, Reading.run_step going stepped, Reading.run]

/-- A text of one token, where it stands at the end of a line, and the value that the token stands for. -/
structure Single (text : List Char) (token : Token) (value : Toml) : Prop where
  lexed : ∀ after, (∀ c ∈ after.head?, c = '\n') → ofChars? (text ++ after) = (ofChars? after).map (token :: ·)
  read : ∀ tokens, (∀ next ∈ tokens.head?, next = .newline) →
    Scalar.read? token tokens = some (.scalar value, tokens)

theorem literal?_of_single {text : List Char} {token : Token} {value : Toml}
    (single : Single (foldLineEnds text) token value) : literal? text = some value := by
  have lexed := single.lexed [] nofun
  rw [List.append_nil, ofChars?_nil] at lexed
  exact literal?_eq_some.2 ⟨[token], .scalar value, lexed, value?_scalar (single.read [] nofun), rfl⟩

/-! ### Words -/

theorem foldLineEnds_of_not_mem {cs : List Char} (noReturn : '\r' ∉ cs) : foldLineEnds cs = cs := by
  induction cs with
  | nil => rfl
  | cons c cs ih =>
    rw [List.mem_cons, not_or] at noReturn
    rw [foldLineEnds_cons fun same => absurd same.symm noReturn.1, ih noReturn.2]

theorem isBlankChar_of_isWordChar {c : Char} (letter : isWordChar c = true) : isBlankChar c = false := by
  cases blank : isBlankChar c with
  | false => rfl
  | true =>
    obtain same | same := Bool.or_eq_true_iff.1 blank
    all_goals
      obtain rfl := eq_of_beq same
      cases letter

theorem next?_word {c : Char} {cs rest : List Char} (letters : ∀ d ∈ c :: cs, isWordChar d = true)
    (ends : ∀ d ∈ rest.head?, isWordChar d = false) :
    next? c (cs ++ rest) = some (.word (c :: cs), rest) := by
  obtain ⟨letter, others⟩ := List.forall_mem_cons.1 letters
  have taken : rest.takeWhile isWordChar = [] ∧ rest.dropWhile isWordChar = rest := by
    cases rest with
    | nil => exact ⟨rfl, rfl⟩
    | cons d rest => simp [ends d rfl]
  unfold next?
  split
  case h_14 =>
    rw [isBlankChar_of_isWordChar letter, letter, if_neg (by decide), if_pos rfl,
      List.takeWhile_append_of_pos others, List.dropWhile_append_of_pos others, taken.1, taken.2, List.append_nil]
  -- No mark is a letter of a word.
  all_goals cases letter

theorem foldLineEnds_word {cs : List Char} (letters : ∀ d ∈ cs, isWordChar d = true) : foldLineEnds cs = cs := by
  apply foldLineEnds_of_not_mem
  intro member
  cases letters _ member

theorem single_word {c : Char} {cs : List Char} {value : Toml} (letters : ∀ d ∈ c :: cs, isWordChar d = true)
    (read : ∀ tokens, (∀ next ∈ tokens.head?, next = .newline) →
      Scalar.read? (.word (c :: cs)) tokens = some (.scalar value, tokens)) :
    Single (c :: cs) (.word (c :: cs)) value where
  lexed after lineEnd := by
    apply ofChars?_cons
    apply next?_word letters
    intro d first
    rw [lineEnd d first]
    rfl
  read := read

theorem single_bool (b : Bool) :
    ∃ token, Single (foldLineEnds (if b then "true".toList else "false".toList)) token (.bool b) := by
  cases b
  · exact ⟨.word ['f', 'a', 'l', 's', 'e'], single_word (List.all_eq_true.1 rfl) fun _ _ => rfl⟩
  · exact ⟨.word ['t', 'r', 'u', 'e'], single_word (List.all_eq_true.1 rfl) fun _ _ => rfl⟩

/-! ### Whole numbers -/

namespace Scalar

theorem digitValue?_of_isDigit {c : Char} (digit : Decimal.isDigit c = true) :
    digitValue? 10 c = some (Decimal.digitValue c) := by
  have range := Decimal.isDigit_iff.1 digit
  have most : c.toNat ≤ 57 := UInt32.le_iff_toNat_le.1 range.2
  have small : c.toNat - 48 < 10 := by omega
  rw [digitValue?, hexValue?, if_pos range, Option.bind_some, if_pos small]
  rfl

theorem digitsFrom_digits {cs : List Char} (digits : cs.all Decimal.isDigit = true) {read : List Nat}
    (started : read ≠ []) (noZero : read ≠ [0]) :
    digitsFrom 10 false read false cs = some (read.reverse ++ cs.map Decimal.digitValue, []) := by
  induction cs generalizing read with
  | nil => simp [digitsFrom, started]
  | cons c cs ih =>
    rw [List.all_cons, Bool.and_eq_true] at digits
    have longer : Decimal.digitValue c :: read ≠ [0] := by
      intro same
      exact started (List.cons.inj same).2
    rw [digitsFrom, digitValue?_of_isDigit digits.1]
    simp only [noZero, and_false, if_false]
    rw [ih digits.2 (List.cons_ne_nil _ _) longer]
    simp

theorem digits_shape (n : Nat) : ∃ c cs, Decimal.digits n = c :: cs ∧ Decimal.isDigit c = true ∧
    (Decimal.digitValue c = 0 → cs = []) := by
  fun_induction Decimal.digits n with
  | case1 n small => exact ⟨_, [], rfl, Decimal.isDigit_digit n, fun _ => rfl⟩
  | case2 n large ih =>
    obtain ⟨c, cs, shape, digit, zero⟩ := ih
    refine ⟨c, cs ++ [Decimal.digit n], by rw [shape]; rfl, digit, fun leading => ?_⟩
    -- A single zero would be all of `n / 10`, which is not zero.
    have value := Decimal.value_digits (n / 10)
    rw [shape, zero leading] at value
    simp [Decimal.value, Decimal.valueFrom, leading] at value
    omega

theorem digits?_digits (n : Nat) :
    ∃ values, digits? 10 false (Decimal.digits n) = some (values, []) ∧ valueOf 10 values = n := by
  refine ⟨(Decimal.digits n).map Decimal.digitValue, ?_, ?_⟩
  · obtain ⟨c, cs, shape, digit, zero⟩ := digits_shape n
    have all := Decimal.all_isDigit_digits n
    rw [shape, List.all_cons, Bool.and_eq_true] at all
    rw [digits?, shape, digitsFrom, digitValue?_of_isDigit digit]
    by_cases leading : Decimal.digitValue c = 0
    · rw [zero leading]
      simp [digitsFrom]
    · have noZero : [Decimal.digitValue c] ≠ [0] := by simpa using leading
      simp [digitsFrom_digits all.2 (List.cons_ne_nil _ _) noZero]
  · have value := Decimal.value_digits n
    rwa [valueOf, List.foldl_map]

section Number

/-! A sign or a digit, and then digits alone. -/

variable {c : Char} {cs : List Char} (starts : c = '-' ∨ Decimal.isDigit c = true)
  (digits : ∀ d ∈ cs, Decimal.isDigit d = true)

include digits in
theorem not_mem_digits {x : Char} (other : Decimal.isDigit x = false) : x ∉ cs := by
  intro member
  rw [digits x member] at other
  cases other

include starts in
theorem starts_ne {x : Char} (noSign : x ≠ '-') (other : Decimal.isDigit x = false) : c ≠ x := by
  rintro rfl
  rcases starts with sign | digit
  · exact noSign sign
  · rw [digit] at other
    cases other

include starts digits

theorem not_mem_number {x : Char} (noSign : x ≠ '-') (other : Decimal.isDigit x = false) : x ∉ c :: cs := by
  rw [List.mem_cons, not_or]
  exact ⟨(starts_ne starts noSign other).symm, not_mem_digits digits other⟩

theorem startsDate_number : startsDate (c :: cs) = false := by
  have upper : (c :: cs).contains 'T' = false := by
    simpa using not_mem_number starts digits (x := 'T') (by decide) (by decide)
  have lower : (c :: cs).contains 't' = false := by
    simpa using not_mem_number starts digits (x := 't') (by decide) (by decide)
  have minus : ((c :: cs).drop 1).contains '-' = false := by
    simpa using not_mem_digits digits (x := '-') (by decide)
  rw [startsDate, upper, lower, minus]
  rfl

theorem number?_decimalInt {value : Toml} (whole : decimalInt? (c :: cs) = some value) {tokens : List Token}
    (noPoint : ∀ more, tokens ≠ .period :: more) : number? (c :: cs) tokens = some (value, tokens) := by
  have radix (x : Char) (other : Decimal.isDigit x = false) (more : List Char) :
      c :: cs = '0' :: x :: more → False := by
    intro same
    refine not_mem_digits digits other ?_
    rw [(List.cons.inj same).2]
    exact List.mem_cons_self
  have noPower : ¬ ('e' ∈ c :: cs ∨ 'E' ∈ c :: cs) :=
    not_or.2 ⟨not_mem_number starts digits (by decide) (by decide),
      not_mem_number starts digits (by decide) (by decide)⟩
  have noName (cs' : List Char) (name : 'n' ∈ cs') : c :: cs ≠ cs' := by
    rintro rfl
    exact not_mem_number starts digits (x := 'n') (by decide) (by decide) name
  have read : wholeNumber? (c :: cs) = some value := by
    rw [wholeNumber?]
    · exact whole
    all_goals exact noName _ (by decide)
  rw [number?_decimal (radix 'x' (by decide)) (radix 'o' (by decide)) (radix 'b' (by decide)),
    if_neg noPower]
  split
  · exact absurd rfl (noPoint _)
  · exact absurd rfl (noPoint _)
  · simp only [read, Option.map_some]

theorem read?_decimalInt {value : Toml} (whole : decimalInt? (c :: cs) = some value) {tokens : List Token}
    (lineEnd : ∀ next ∈ tokens.head?, next = .newline) :
    read? (.word (c :: cs)) tokens = some (.scalar value, tokens) := by
  have other (token : Token) (differs : token ≠ .newline) (more : List Token) : tokens ≠ token :: more := by
    rintro rfl
    exact differs (lineEnd token rfl)
  have number : numberOrDate? (c :: cs) tokens = some (.scalar value, tokens) := by
    rw [numberOrDate?, if_neg (by simp [startsDate_number starts digits])]
    · rw [number?_decimalInt starts digits whole (other .period (by decide))]
      rfl
    · exact other .colon (by decide)
  rw [read?, word?]
  · rw [if_pos starts, number]
  -- No name starts with a digit.
  all_goals
    intro same
    exact absurd same (starts_ne starts (by decide) (by decide))

end Number

end Scalar

/-- The decimal digits of a number of 64 bits, behind a minus if it is negative. -/
theorem single_int (n : Int64) : ∃ token, Single (foldLineEnds (Decimal.ofInt n.toInt)) token (.int n) := by
  have fits : Scalar.int? n.toInt = some (.int n) := by
    rw [Scalar.int?, if_pos ⟨Int64.minValue_le_toInt n, Int64.toInt_le n⟩, Int64.ofInt_toInt]
  have isWordChar_of_isDigit (d : Char) (digit : Decimal.isDigit d = true) : isWordChar d = true := by
    rw [Decimal.isDigit] at digit
    rw [isWordChar, digit]
    simp
  generalize n.toInt = i at fits ⊢
  cases i with
  | ofNat m =>
    obtain ⟨values, read, value⟩ := Scalar.digits?_digits m
    have digits := List.all_eq_true.1 (Decimal.all_isDigit_digits m)
    have letters : ∀ d ∈ Decimal.digits m, isWordChar d = true := fun d member =>
      isWordChar_of_isDigit d (digits d member)
    rw [Decimal.ofInt, foldLineEnds_word letters]
    obtain ⟨c, cs, shape, digit, -⟩ := Scalar.digits_shape m
    rw [shape] at read digits letters ⊢
    have noSign : c ≠ '-' := by
      rintro rfl
      cases digit
    have whole : Scalar.decimalInt? (c :: cs) = some (.int n) := by
      rw [Scalar.decimalInt?, Scalar.signedDigits?]
      · rw [read]
        simp only [Option.map_some, Scalar.signed, value]
        exact fits
      · intro more same
        exact noSign (List.cons.inj same).1
    refine ⟨_, single_word letters fun tokens lineEnd => ?_⟩
    exact Scalar.read?_decimalInt (.inr digit) (List.forall_mem_cons.1 digits).2 whole lineEnd
  | negSucc m =>
    obtain ⟨values, read, value⟩ := Scalar.digits?_digits (m + 1)
    have digits := List.all_eq_true.1 (Decimal.all_isDigit_digits (m + 1))
    have letters : ∀ d ∈ '-' :: Decimal.digits (m + 1), isWordChar d = true :=
      List.forall_mem_cons.2 ⟨rfl, fun d member => isWordChar_of_isDigit d (digits d member)⟩
    have whole : Scalar.decimalInt? ('-' :: Decimal.digits (m + 1)) = some (.int n) := by
      rw [Scalar.decimalInt?, Scalar.signedDigits?, read]
      simp only [Option.map_some, Scalar.signed, value]
      exact fits
    rw [Decimal.ofInt, foldLineEnds_word letters]
    exact ⟨_, single_word letters fun tokens lineEnd => Scalar.read?_decimalInt (.inl rfl) digits whole lineEnd⟩

end TokenIndexer.Toml
