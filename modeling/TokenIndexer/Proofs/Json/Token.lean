import TokenIndexer.Json.Token

/-!
JSON tokens are read back from the bytes that are written for them, whatever follows; only numbers have to be
told apart from what follows them.
-/

namespace TokenIndexer.Json.Token

variable {read : List Token} {b : UInt8} {rest : Bytes}

/-! ### One step of the reader -/

theorem ofBytesFrom_blank (blank : isBlankByte b = true) :
    ofBytesFrom read (b :: rest) = ofBytesFrom read rest := by
  rw [ofBytesFrom, if_pos blank]

theorem ofBytesFrom_token {token : Token} {rest' : Bytes} (seen : isBlankByte b = false)
    (found : next? b rest = some (token, rest')) :
    ofBytesFrom read (b :: rest) = ofBytesFrom (token :: read) rest' := by
  rw [ofBytesFrom, if_neg (by simp [seen])]
  split
  · next none_found => simp [found] at none_found
  · next same =>
    rw [found] at same
    cases same
    rfl

theorem ofBytesFrom_stuck (seen : isBlankByte b = false) (stuck : next? b rest = none) :
    ofBytesFrom read (b :: rest) = none := by
  rw [ofBytesFrom, if_neg (by simp [seen])]
  split
  · rfl
  · next found => simp [stuck] at found

/-! ### Strings -/

theorem hexWord?_lowerHex {n : Nat} (small : n < 32) :
    hexWord? 0x30 0x30 (lowerHex (n / 16)) (lowerHex (n % 16)) = some n := by
  have table : ∀ k : Fin 32, hexWord? 0x30 0x30 (lowerHex (k / 16)) (lowerHex (k % 16)) = some k.val := by
    decide
  exact table ⟨n, small⟩

theorem push_control {n : Nat} (small : n < 32) (done : Bytes) :
    push (some done) n = some (UInt8.ofNat n :: done) := by
  have table : ∀ k : Fin 32, Utf8.encode (String.singleton (Char.ofNat k)) = [UInt8.ofNat k.val] := by
    decide
  rw [push, Option.map_some, table ⟨n, small⟩]
  rfl

theorem literalFrom_escape (done : Bytes) (b : UInt8) (rest : Bytes) :
    literalFrom (some done) none (escape b ++ rest) = literalFrom (some (b :: done)) none rest := by
  unfold escape
  -- The characters with a letter of their own.
  iterate 7
    split
    · next same =>
      cases eq_of_beq same
      rfl
  split
  · next control =>
    have small : b.toNat < 32 := control
    have high : isHighSurrogate b.toNat = false := by
      simp only [isHighSurrogate, Bool.and_eq_false_iff, decide_eq_false_iff_not]
      omega
    have low : isLowSurrogate b.toNat = false := by
      simp only [isLowSurrogate, Bool.and_eq_false_iff, decide_eq_false_iff_not]
      omega
    simp only [List.cons_append, List.nil_append, literalFrom, hexWord?_lowerHex small, high, low,
      settled, Option.isSome_none, Bool.false_eq_true, if_false, push_control small, UInt8.ofNat_toNat]
  · next quote backslash _ _ _ _ _ printable =>
    have plain : ¬ (b < 0x20 ∨ b = 0x5c) := by
      simp only [beq_iff_eq] at backslash
      exact not_or.2 ⟨printable, backslash⟩
    rw [List.singleton_append, literalFrom.eq_def]
    split
    · contradiction
    all_goals grind [settled]

theorem literalFrom_escapes (bytes done : Bytes) (rest : Bytes) :
    literalFrom (some done) none (bytes.flatMap escape ++ 0x22 :: rest) =
      some (Utf8.decode? (done.reverse ++ bytes), rest) := by
  induction bytes generalizing done with
  | nil => simp [literalFrom, spelled, settled]
  | cons b bytes ih =>
    rw [List.flatMap_cons, List.append_assoc, literalFrom_escape, ih, List.reverse_cons,
      List.append_assoc, List.singleton_append]

theorem literalFrom_quoted (text : String) (rest : Bytes) :
    literalFrom (some []) none ((Utf8.encode text).flatMap escape ++ 0x22 :: rest) =
      some (some text, rest) := by
  rw [literalFrom_escapes, List.reverse_nil, List.nil_append, Utf8.decode?_encode]

/-! ### Numbers -/

def PastDigits (rest : Bytes) : Prop := ∀ b ∈ rest.head?, isDigitByte b = false

/-- What follows cannot be taken for more of a number. -/
def PastNumber (rest : Bytes) : Prop :=
  ∀ b ∈ rest.head?, isDigitByte b = false ∧ b ≠ 0x2e ∧ b ≠ 0x65 ∧ b ≠ 0x45

theorem takeWhile_digits {ds : Bytes} (digits : ds.all isDigitByte = true) (past : PastDigits rest) :
    (ds ++ rest).takeWhile isDigitByte = ds ∧ (ds ++ rest).dropWhile isDigitByte = rest := by
  have each := List.all_eq_true.1 digits
  have none_taken : rest.takeWhile isDigitByte = [] ∧ rest.dropWhile isDigitByte = rest := by
    cases rest with
    | nil => exact ⟨rfl, rfl⟩
    | cons b rest =>
      have differs : isDigitByte b = false := past b rfl
      simp [differs]
  rw [List.takeWhile_append_of_pos each, List.dropWhile_append_of_pos each, none_taken.1, none_taken.2,
    List.append_nil]
  exact ⟨rfl, rfl⟩

theorem digitByte_digit (n : Nat) :
    isDigitByte (UInt8.ofNat (Decimal.digit n).toNat) = true ∧
      digitOf (UInt8.ofNat (Decimal.digit n).toNat) = n % 10 := by
  have table : ∀ k : Fin 10, isDigitByte (UInt8.ofNat (Char.ofNat (48 + k)).toNat) = true ∧
      digitOf (UInt8.ofNat (Char.ofNat (48 + k)).toNat) = k.val := by decide
  exact table ⟨n % 10, Nat.mod_lt _ (by decide)⟩

theorem digitByte_ne_zero {n : Nat} (positive : 0 < n) (small : n < 10) :
    UInt8.ofNat (Decimal.digit n).toNat ≠ 0x30 := by
  have table : ∀ k : Fin 10, 0 < k.val → UInt8.ofNat (Decimal.digit k).toNat ≠ 0x30 := by decide
  exact table ⟨n, small⟩ positive

theorem all_isDigitByte_digits (n : Nat) : (ofChars (Decimal.digits n)).all isDigitByte = true := by
  fun_induction Decimal.digits n with
  | case1 n small => simp [ofChars, digitByte_digit]
  | case2 n large ih =>
    rw [ofChars, List.map_append, List.all_append]
    simp only [ofChars] at ih
    rw [ih]
    simp [digitByte_digit]

theorem valueOf_digits (n : Nat) : valueOf (ofChars (Decimal.digits n)) = n := by
  fun_induction Decimal.digits n with
  | case1 n small =>
    simp only [valueOf, ofChars, List.map_cons, List.map_nil, List.foldl_cons, List.foldl_nil,
      (digitByte_digit n).2]
    omega
  | case2 n large ih =>
    unfold valueOf ofChars at ih ⊢
    rw [List.map_append, List.foldl_append, ih, List.map_singleton, List.foldl_cons, List.foldl_nil,
      (digitByte_digit n).2]
    omega

theorem digits_shape (n : Nat) : ∃ b ds, ofChars (Decimal.digits n) = b :: ds ∧
    isDigitByte b = true ∧ (b = 0x30 → n = 0) := by
  fun_induction Decimal.digits n with
  | case1 n small =>
    refine ⟨_, [], rfl, (digitByte_digit n).1, fun zero => ?_⟩
    apply Decidable.byContradiction
    intro nonzero
    exact digitByte_ne_zero (Nat.pos_of_ne_zero nonzero) small zero
  | case2 n large ih =>
    obtain ⟨b, ds, shape, digit, zero⟩ := ih
    refine ⟨b, ds ++ ofChars [Decimal.digit n], ?_, digit, fun same => ?_⟩
    · rw [ofChars, List.map_append]
      exact congrArg (· ++ _) shape
    · have := zero same
      omega

theorem whole?_digits (n : Nat) (past : PastDigits rest) :
    whole? (ofChars (Decimal.digits n) ++ rest) = some (n, rest) := by
  obtain ⟨taken, left⟩ := takeWhile_digits (all_isDigitByte_digits n) past
  obtain ⟨b, ds, shape, -, zero⟩ := digits_shape n
  rw [whole?, taken, left]
  split
  · next none_taken => simp [shape] at none_taken
  · next second more leading =>
    rw [shape] at leading
    cases leading
    rw [zero rfl, Decimal.digits] at shape
    simp [ofChars] at shape
  · next spelled => rw [← spelled, valueOf_digits]

def fractionBytes (fraction : List Nat) : Bytes :=
  if fraction = [] then [] else 0x2e :: ofChars (fraction.map Decimal.digit)

def exponentBytes : Option Int → Bytes
  | none => []
  | some e => 0x65 :: ofChars (Decimal.ofInt e)

theorem numeralBytes_eq (n : Numeral) :
    numeralBytes n = (if n.negative then [0x2d] else []) ++
      (ofChars (Decimal.digits n.whole) ++ (fractionBytes n.fraction ++ exponentBytes n.exponent)) := by
  rw [numeralBytes, List.append_assoc, List.append_assoc]
  cases n.exponent <;> rfl

theorem fraction?_written {fraction : List Nat} (digits : ∀ d ∈ fraction, d < 10)
    (past : PastDigits rest) (noPoint : ∀ b ∈ rest.head?, b ≠ 0x2e) :
    fraction? (fractionBytes fraction ++ rest) = some (fraction, rest) := by
  cases fraction with
  | nil =>
    cases rest with
    | nil => rfl
    | cons b rest =>
      have differs : b ≠ 0x2e := noPoint b rfl
      simp [fractionBytes, fraction?, differs]
  | cons d ds =>
    have all_digits : (ofChars ((d :: ds).map Decimal.digit)).all isDigitByte = true := by
      rw [ofChars, List.map_map, List.all_map, List.all_eq_true]
      exact fun d _ => (digitByte_digit d).1
    have read : (ofChars ((d :: ds).map Decimal.digit)).map digitOf = d :: ds := by
      rw [ofChars, List.map_map, List.map_map]
      refine (List.map_congr_left fun d member => ?_).trans (List.map_id _)
      exact (digitByte_digit d).2.trans (Nat.mod_eq_of_lt (digits d member))
    obtain ⟨taken, left⟩ := takeWhile_digits all_digits past
    rw [fractionBytes, if_neg (by simp), List.cons_append, fraction?, taken, left]
    exact congrArg (fun ds => some (ds, rest)) read

theorem power?_digits (negative : Bool) (n : Nat) (past : PastDigits rest) :
    power? negative (ofChars (Decimal.digits n) ++ rest) =
      some (some (if negative then -(n : Int) else n), rest) := by
  obtain ⟨taken, left⟩ := takeWhile_digits (all_isDigitByte_digits n) past
  obtain ⟨b, ds, shape, -, -⟩ := digits_shape n
  have spelled := valueOf_digits n
  rw [shape] at spelled
  rw [power?, taken, left, shape]
  simp only [spelled]

theorem exponent?_written (exponent : Option Int) (past : PastNumber rest) :
    exponent? (exponentBytes exponent ++ rest) = some (exponent, rest) := by
  have pastDigits : PastDigits rest := fun b first => (past b first).1
  cases exponent with
  | none =>
    cases rest with
    | nil => rfl
    | cons b rest =>
      obtain ⟨-, -, lower, upper⟩ := past b rfl
      simp [exponentBytes, exponent?, lower, upper]
  | some e =>
    cases e with
    | ofNat n =>
      obtain ⟨b, ds, shape, digit, -⟩ := digits_shape n
      have read := power?_digits false n pastDigits
      have noPlus : b ≠ 0x2b := by
        rintro rfl
        cases digit
      have noMinus : b ≠ 0x2d := by
        rintro rfl
        cases digit
      simp only [exponentBytes, Decimal.ofInt, shape, List.cons_append] at read ⊢
      simp [exponent?, noPlus, noMinus, read]
    | negSucc n =>
      have read := power?_digits true (n + 1) pastDigits
      exact read

theorem pastDigits_exponent (exponent : Option Int) (past : PastNumber rest) :
    ∀ b ∈ (exponentBytes exponent ++ rest).head?, isDigitByte b = false ∧ b ≠ 0x2e := by
  cases exponent with
  | none => exact fun b first => ⟨(past b first).1, (past b first).2.1⟩
  | some e =>
    rintro b ⟨⟩
    decide

theorem pastDigits_fraction (fraction : List Nat) (exponent : Option Int) (past : PastNumber rest) :
    PastDigits (fractionBytes fraction ++ (exponentBytes exponent ++ rest)) := by
  cases fraction with
  | nil => exact fun b first => (pastDigits_exponent exponent past b first).1
  | cons d ds =>
    rintro b ⟨⟩
    decide

theorem numeral?_written (n : Numeral) (digits : ∀ d ∈ n.fraction, d < 10) (past : PastNumber rest) :
    numeral? n.negative (ofChars (Decimal.digits n.whole) ++
      (fractionBytes n.fraction ++ (exponentBytes n.exponent ++ rest))) = some (n, rest) := by
  have pastFraction := pastDigits_exponent n.exponent past
  simp only [numeral?, Option.bind_eq_bind]
  rw [whole?_digits n.whole (pastDigits_fraction n.fraction n.exponent past), Option.bind_some,
    fraction?_written digits (fun b first => (pastFraction b first).1)
      (fun b first => (pastFraction b first).2),
    Option.bind_some, exponent?_written n.exponent past, Option.bind_some]

/-! ### All tokens -/

/-- A token that stands for itself when it is written: its text is one, and its digits are digits. -/
def Writable : Token → Prop
  | .number n => ∀ d ∈ n.fraction, d < 10
  | .string text => text.isSome
  | _ => True

instance : DecidablePred Writable
  | .number n => inferInstanceAs (Decidable (∀ d ∈ n.fraction, d < 10))
  | .string text => inferInstanceAs (Decidable (text.isSome = true))
  | .openArray | .closeArray | .openObject | .closeObject | .comma | .colon | .null | .bool _ =>
    inferInstanceAs (Decidable True)

def isNumber : Token → Bool
  | .number _ => true
  | _ => false

theorem next?_digit (digit : isDigitByte b = true) :
    next? b rest = (numeral? false (b :: rest)).map fun (n, rest) => (.number n, rest) := by
  have apart (c : UInt8) (other : isDigitByte c = false) : (b == c) = false := by
    rw [beq_eq_false_iff_ne]
    rintro rfl
    rw [digit] at other
    cases other
  unfold next?
  rw [apart 0x5b rfl, apart 0x5d rfl, apart 0x7b rfl, apart 0x7d rfl, apart 0x2c rfl, apart 0x3a rfl,
    apart 0x22 rfl, apart 0x2d rfl, digit]
  rfl

theorem isBlankByte_of_digit (digit : isDigitByte b = true) : isBlankByte b = false := by
  cases blank : isBlankByte b with
  | false => rfl
  | true =>
    simp only [isBlankByte, Bool.or_eq_true, beq_iff_eq] at blank
    rcases blank with ((rfl | rfl) | rfl) | rfl <;> cases digit

theorem next?_numeral {n : Numeral} (digits : ∀ d ∈ n.fraction, d < 10) (past : PastNumber rest) :
    ∃ b tail, numeralBytes n = b :: tail ∧ isBlankByte b = false ∧
      next? b (tail ++ rest) = some (.number n, rest) := by
  have read := numeral?_written n digits past
  rw [numeralBytes_eq]
  cases sign : n.negative with
  | true =>
    rw [sign] at read
    refine ⟨0x2d, ofChars (Decimal.digits n.whole) ++
      (fractionBytes n.fraction ++ exponentBytes n.exponent), rfl, rfl, ?_⟩
    rw [List.append_assoc, List.append_assoc]
    change (numeral? true _).map _ = _
    rw [read, Option.map_some]
  | false =>
    obtain ⟨b, ds, shape, digit, -⟩ := digits_shape n.whole
    rw [sign, shape] at read
    rw [shape]
    refine ⟨b, _, rfl, isBlankByte_of_digit digit, ?_⟩
    rw [next?_digit digit]
    simp only [List.append_eq, List.append_assoc, List.cons_append] at read ⊢
    rw [read, Option.map_some]

theorem next?_bytes {token : Token} (writable : token.Writable)
    (past : token.isNumber = true → PastNumber rest) :
    ∃ b tail, token.bytes = b :: tail ∧ isBlankByte b = false ∧
      next? b (tail ++ rest) = some (token, rest) := by
  cases token with
  | openArray => exact ⟨_, _, rfl, rfl, rfl⟩
  | closeArray => exact ⟨_, _, rfl, rfl, rfl⟩
  | openObject => exact ⟨_, _, rfl, rfl, rfl⟩
  | closeObject => exact ⟨_, _, rfl, rfl, rfl⟩
  | comma => exact ⟨_, _, rfl, rfl, rfl⟩
  | colon => exact ⟨_, _, rfl, rfl, rfl⟩
  | null => exact ⟨_, _, rfl, rfl, rfl⟩
  | bool value => cases value <;> exact ⟨_, _, rfl, rfl, rfl⟩
  | number n => exact next?_numeral writable (past rfl)
  | string text =>
    obtain ⟨text, rfl⟩ := Option.isSome_iff_exists.1 writable
    refine ⟨0x22, (Utf8.encode text).flatMap escape ++ [0x22], rfl, rfl, ?_⟩
    rw [List.append_assoc, List.singleton_append]
    change (literalFrom (some []) none _).map _ = _
    rw [literalFrom_quoted, Option.map_some]

/-! ### Tokens with white space between them -/

structure Gap where
  bytes : Bytes
  blank : ∀ b ∈ bytes, isBlankByte b = true

namespace Gap

def none : Gap := ⟨[], fun _ member => nomatch member⟩

end Gap

def spaced (gap : Nat → Gap) : List Token → Bytes
  | [] => (gap 0).bytes
  | token :: tokens => (gap 0).bytes ++ (token.bytes ++ spaced (fun i => gap (i + 1)) tokens)

theorem spaced_none (tokens : List Token) :
    spaced (fun _ => .none) tokens = tokens.flatMap Token.bytes := by
  induction tokens with
  | nil => rfl
  | cons token tokens ih =>
    rw [spaced, ih, List.flatMap_cons]
    rfl

/-- No number stands directly in front of another. -/
def Delimited : List Token → Prop
  | [] => True
  | token :: tokens =>
    (token.isNumber = true → ∀ next ∈ tokens.head?, next.isNumber = false) ∧ Delimited tokens

theorem ofBytesFrom_gap (gap : Gap) (rest : Bytes) :
    ofBytesFrom read (gap.bytes ++ rest) = ofBytesFrom read rest := by
  obtain ⟨bytes, blank⟩ := gap
  induction bytes with
  | nil => rfl
  | cons b bytes ih =>
    rw [List.cons_append, ofBytesFrom_blank (blank b List.mem_cons_self)]
    exact ih fun c member => blank c (List.mem_cons_of_mem _ member)

theorem pastNumber_gap (gap : Gap) (past : PastNumber rest) : PastNumber (gap.bytes ++ rest) := by
  obtain ⟨bytes, blank⟩ := gap
  cases bytes with
  | nil => exact past
  | cons b bytes =>
    rintro c ⟨⟩
    have first := blank b List.mem_cons_self
    simp only [isBlankByte, Bool.or_eq_true, beq_iff_eq] at first
    rcases first with ((rfl | rfl) | rfl) | rfl <;> decide

theorem pastNumber_bytes {token : Token} (other : token.isNumber = false) (rest : Bytes) :
    PastNumber (token.bytes ++ rest) := by
  cases token with
  | number n => cases other
  | bool value => cases value <;> (rintro b ⟨⟩; decide)
  | _ => rintro b ⟨⟩; decide

theorem pastNumber_spaced (gap : Nat → Gap) {tokens : List Token}
    (other : ∀ next ∈ tokens.head?, next.isNumber = false) : PastNumber (spaced gap tokens) := by
  cases tokens with
  | nil =>
    rw [spaced, ← List.append_nil (gap 0).bytes]
    apply pastNumber_gap
    rintro b ⟨⟩
  | cons token tokens =>
    rw [spaced]
    apply pastNumber_gap
    exact pastNumber_bytes (other token rfl) _

theorem ofBytesFrom_spaced (gap : Nat → Gap) {tokens : List Token} (delimited : Delimited tokens)
    (writable : ∀ token ∈ tokens, token.Writable) :
    ofBytesFrom read (spaced gap tokens) = some (read.reverse ++ tokens) := by
  induction tokens generalizing read gap with
  | nil =>
    rw [spaced, ← List.append_nil (gap 0).bytes, ofBytesFrom_gap, ofBytesFrom, List.append_nil]
  | cons token tokens ih =>
    have past : token.isNumber = true → PastNumber (spaced (fun i => gap (i + 1)) tokens) := by
      intro number
      exact pastNumber_spaced _ (delimited.1 number)
    obtain ⟨b, tail, shape, seen, found⟩ := next?_bytes (writable token List.mem_cons_self) past
    rw [spaced, ofBytesFrom_gap, shape, List.cons_append, ofBytesFrom_token seen found,
      ih _ delimited.2 fun other member => writable other (List.mem_cons_of_mem _ member),
      List.reverse_cons, List.append_assoc, List.singleton_append]

theorem ofBytes?_spaced (gap : Nat → Gap) {tokens : List Token} (delimited : Delimited tokens)
    (writable : ∀ token ∈ tokens, token.Writable) : ofBytes? (spaced gap tokens) = some tokens :=
  ofBytesFrom_spaced gap delimited writable

end TokenIndexer.Json.Token
