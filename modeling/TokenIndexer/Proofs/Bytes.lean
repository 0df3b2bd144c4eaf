import TokenIndexer.Bytes

/-! Byte strings and their texts. Base64 is exact: each byte string has one text. -/

namespace TokenIndexer.Word

/-- Of strings of the same length, the first difference decides. -/
theorem append_lt_append {a b : Bytes} (same : a.length = b.length) (below : a < b) (s t : Bytes) :
    a ++ s < b ++ t := by
  induction a generalizing b with
  | nil =>
    rw [List.eq_nil_of_length_eq_zero same.symm] at below
    exact absurd below (List.not_lt_nil [])
  | cons x a ih =>
    cases b with
    | nil => cases same
    | cons y b =>
      rw [List.cons_append, List.cons_append, List.cons_lt_cons_iff]
      rcases List.cons_lt_cons_iff.1 below with less | ⟨equal, later⟩
      · exact .inl less
      · exact .inr ⟨equal, ih (Nat.succ.inj same) later⟩

theorem bigEndian_succ (width n : Nat) :
    bigEndian (width + 1) n = bigEndian width (n / 256) ++ [UInt8.ofNat n] := by
  simp [bigEndian, littleEndian]

theorem bigEndian_lt {width a b : Nat} (below : a < b) (bound : b < count width) :
    bigEndian width a < bigEndian width b := by
  induction width generalizing a b with
  | zero =>
    change b < 1 at bound
    omega
  | succ width ih =>
    rw [count_succ] at bound
    rw [bigEndian_succ, bigEndian_succ]
    by_cases high : a / 256 < b / 256
    · exact append_lt_append (by simp) (ih high (by omega)) _ _
    · have same : a / 256 = b / 256 := by omega
      have low : UInt8.ofNat a < UInt8.ofNat b := by
        rw [UInt8.lt_iff_toNat_lt, UInt8.toNat_ofNat', UInt8.toNat_ofNat']
        change a % 256 < b % 256
        omega
      rw [same]
      exact List.append_left_lt (List.cons_lt_cons_iff.2 (.inl low))

theorem bigEndian_inj {width a b : Nat} (small : a < count width) (small' : b < count width)
    (same : bigEndian width a = bigEndian width b) : a = b := by
  have values := congrArg ofBigEndian same
  rwa [ofBigEndian_bigEndian, ofBigEndian_bigEndian, Nat.mod_eq_of_lt small, Nat.mod_eq_of_lt small']
    at values

end TokenIndexer.Word

namespace TokenIndexer.Hex

/-- A spelling of byte strings: their digits, each in the case that the spelling prefers. -/
structure Style where
  text : Bytes → String
  lowered : ∀ bytes, (text bytes).toList.map Char.toLower = encode bytes

theorem digitValue?_toLower (c : Char) : digitValue? c.toLower = digitValue? c := by
  by_cases upper : c.val ≥ 'A'.val ∧ c.val ≤ 'Z'.val
  · have table : ∀ k : Fin 26,
        digitValue? (Char.ofNat (65 + k)).toLower = digitValue? (Char.ofNat (65 + k)) := by decide
    have low : 65 ≤ c.toNat := UInt32.le_iff_toNat_le.1 upper.1
    have high : c.toNat ≤ 90 := UInt32.le_iff_toNat_le.1 upper.2
    have same := table ⟨c.toNat - 65, by omega⟩
    simp only at same
    rwa [show 65 + (c.toNat - 65) = c.toNat by omega, Char.ofNat_toNat] at same
  · have kept : c.toLower = c := dif_neg upper
    rw [kept]

theorem decode?_toLower (cs : List Char) : decode? (cs.map Char.toLower) = decode? cs := by
  fun_induction decode? cs with
  | case1 => rfl
  | case2 high low rest ih => simp only [List.map_cons, decode?, digitValue?_toLower, ih]
  | case3 c => rfl

theorem ofText?_style (style : Style) (bytes : Bytes) : ofText? (style.text bytes) = some bytes := by
  rw [ofText?, ← decode?_toLower, style.lowered, decode?_encode]

namespace Style

theorem encode_map {change : Char → Char}
    (kept : ∀ k : Fin 16, change (digit k) = digit k) (bytes : Bytes) :
    (encode bytes).map change = encode bytes := by
  induction bytes with
  | nil => rfl
  | cons b rest ih =>
    have small := b.toNat_lt
    have high := kept ⟨b.toNat / 16, by omega⟩
    have low := kept ⟨b.toNat % 16, by omega⟩
    change change (digit _) :: change (digit _) :: (encode rest).map change = _
    rw [high, low, ih]
    rfl

def lower : Style where
  text := Hex.text
  lowered bytes := by
    rw [Hex.text, String.toList_ofList]
    exact encode_map (by decide) bytes

def upper : Style where
  text bytes := String.ofList ((encode bytes).map Char.toUpper)
  lowered bytes := by
    rw [String.toList_ofList, List.map_map]
    exact encode_map (by decide) bytes

example : upper.text [0x0a, 0xff] = "0AFF" := by decide

end Style

end TokenIndexer.Hex

namespace TokenIndexer.Base64

/-! ### Symbols -/

theorem symbol_of_symbolValue? {c : Char} {n : Nat} (found : symbolValue? c = some n) :
    n < 64 ∧ symbol n = c := by
  have code : Char.ofNat c.toNat = c := Char.ofNat_toNat c
  unfold symbolValue? at found
  split at found
  · next range =>
    have low : 65 ≤ c.toNat := UInt32.le_iff_toNat_le.1 range.1
    have high : c.toNat ≤ 90 := UInt32.le_iff_toNat_le.1 range.2
    cases found
    refine ⟨by omega, ?_⟩
    rw [symbol, if_pos (by omega), show 65 + (c.toNat - 65) = c.toNat by omega, code]
  · split at found
    · next range =>
      have low : 97 ≤ c.toNat := UInt32.le_iff_toNat_le.1 range.1
      have high : c.toNat ≤ 122 := UInt32.le_iff_toNat_le.1 range.2
      cases found
      refine ⟨by omega, ?_⟩
      rw [symbol, if_neg (by omega), if_pos (by omega), show 71 + (c.toNat - 71) = c.toNat by omega, code]
    · split at found
      · next range =>
        have low : 48 ≤ c.toNat := UInt32.le_iff_toNat_le.1 range.1
        have high : c.toNat ≤ 57 := UInt32.le_iff_toNat_le.1 range.2
        cases found
        refine ⟨by omega, ?_⟩
        rw [symbol, if_neg (by omega), if_neg (by omega), if_pos (by omega),
          show c.toNat + 4 - 4 = c.toNat by omega, code]
      · split at found
        · next plus =>
          cases found
          exact ⟨by decide, plus.symm⟩
        · split at found
          · next slash =>
            cases found
            exact ⟨by decide, slash.symm⟩
          · cases found

theorem symbol_ne_padding {n : Nat} (small : n < 64) : symbol n ≠ '=' := by
  intro same
  have found := symbolValue?_symbol small
  rw [same] at found
  cases found

/-! ### Groups -/

theorem ofNat_of_eq {a : UInt8} {n : Nat} (same : n = a.toNat) : UInt8.ofNat n = a := by
  rw [same, UInt8.ofNat_toNat]

theorem toNat_ofNat {n : Nat} (small : n < 256) : (UInt8.ofNat n).toNat = n :=
  UInt8.toNat_ofNat_of_lt' small

theorem single?_encode (a : UInt8) :
    single? (symbol (a.toNat / 4)) (symbol (a.toNat % 4 * 16)) = some [a] := by
  have bound := a.toNat_lt
  rw [single?, symbolValue?_symbol (by omega), symbolValue?_symbol (by omega)]
  simp only [Option.bind_eq_bind, Option.bind_some]
  rw [if_pos (by omega), ofNat_of_eq (a := a) (by omega)]

theorem double?_encode (a b : UInt8) :
    double? (symbol (a.toNat / 4)) (symbol (a.toNat % 4 * 16 + b.toNat / 16))
      (symbol (b.toNat % 16 * 4)) = some [a, b] := by
  have boundA := a.toNat_lt
  have boundB := b.toNat_lt
  rw [double?, symbolValue?_symbol (by omega), symbolValue?_symbol (by omega),
    symbolValue?_symbol (by omega)]
  simp only [Option.bind_eq_bind, Option.bind_some]
  rw [if_pos (by omega), ofNat_of_eq (a := a) (by omega), ofNat_of_eq (a := b) (by omega)]

theorem triple?_encode (a b c : UInt8) :
    triple? (symbol (a.toNat / 4)) (symbol (a.toNat % 4 * 16 + b.toNat / 16))
      (symbol (b.toNat % 16 * 4 + c.toNat / 64)) (symbol (c.toNat % 64)) = some [a, b, c] := by
  have boundA := a.toNat_lt
  have boundB := b.toNat_lt
  have boundC := c.toNat_lt
  rw [triple?, symbolValue?_symbol (by omega), symbolValue?_symbol (by omega),
    symbolValue?_symbol (by omega), symbolValue?_symbol (by omega)]
  simp only [Option.bind_eq_bind, Option.bind_some]
  rw [ofNat_of_eq (a := a) (by omega), ofNat_of_eq (a := b) (by omega), ofNat_of_eq (a := c) (by omega)]

theorem encode_of_single? {p q : Char} {bytes : Bytes} (read : single? p q = some bytes) :
    encode bytes = [p, q, '=', '='] := by
  simp only [single?, Option.bind_eq_bind, Option.bind_eq_some_iff] at read
  obtain ⟨m, foundP, n, foundQ, read⟩ := read
  obtain ⟨smallM, rfl⟩ := symbol_of_symbolValue? foundP
  obtain ⟨smallN, rfl⟩ := symbol_of_symbolValue? foundQ
  split at read
  · next unused =>
    cases read
    rw [encode, toNat_ofNat (by omega), show (4 * m + n / 16) / 4 = m by omega,
      show (4 * m + n / 16) % 4 * 16 = n by omega]
  · cases read

theorem encode_of_double? {p q r : Char} {bytes : Bytes} (read : double? p q r = some bytes) :
    encode bytes = [p, q, r, '='] := by
  simp only [double?, Option.bind_eq_bind, Option.bind_eq_some_iff] at read
  obtain ⟨m, foundP, n, foundQ, k, foundR, read⟩ := read
  obtain ⟨smallM, rfl⟩ := symbol_of_symbolValue? foundP
  obtain ⟨smallN, rfl⟩ := symbol_of_symbolValue? foundQ
  obtain ⟨smallK, rfl⟩ := symbol_of_symbolValue? foundR
  split at read
  · next unused =>
    cases read
    rw [encode, toNat_ofNat (by omega), toNat_ofNat (by omega),
      show (4 * m + n / 16) / 4 = m by omega,
      show (4 * m + n / 16) % 4 * 16 + (n % 16 * 16 + k / 4) / 16 = n by omega,
      show (n % 16 * 16 + k / 4) % 16 * 4 = k by omega]
  · cases read

theorem encode_of_triple? {p q r s : Char} {group : Bytes} (read : triple? p q r s = some group)
    (rest : Bytes) : encode (group ++ rest) = p :: q :: r :: s :: encode rest := by
  simp only [triple?, Option.bind_eq_bind, Option.bind_eq_some_iff] at read
  obtain ⟨m, foundP, n, foundQ, k, foundR, l, foundS, read⟩ := read
  obtain ⟨smallM, rfl⟩ := symbol_of_symbolValue? foundP
  obtain ⟨smallN, rfl⟩ := symbol_of_symbolValue? foundQ
  obtain ⟨smallK, rfl⟩ := symbol_of_symbolValue? foundR
  obtain ⟨smallL, rfl⟩ := symbol_of_symbolValue? foundS
  cases read
  rw [List.cons_append, List.cons_append, List.singleton_append, encode, toNat_ofNat (by omega),
    toNat_ofNat (by omega), toNat_ofNat (by omega), show (4 * m + n / 16) / 4 = m by omega,
    show (4 * m + n / 16) % 4 * 16 + (n % 16 * 16 + k / 4) / 16 = n by omega,
    show (n % 16 * 16 + k / 4) % 16 * 4 + (k % 4 * 64 + l) / 64 = k by omega,
    show (k % 4 * 64 + l) % 64 = l by omega]

/-! ### Texts -/

theorem decode?_double {p q r : Char} (symbolic : r ≠ '=') : decode? [p, q, r, '='] = double? p q r := by
  simp [decode?]

theorem decode?_triple {p q r s : Char} (symbolic : s ≠ '=') (rest : List Char) :
    decode? (p :: q :: r :: s :: rest) =
      (triple? p q r s).bind fun group => (decode? rest).map fun bytes => group ++ bytes := by
  rw [decode?]
  · simp only [Option.map_eq_bind, Option.bind_eq_bind, Option.pure_def, Function.comp_def]
  all_goals
    intros
    contradiction

theorem decode?_encode (bytes : Bytes) : decode? (encode bytes) = some bytes := by
  fun_induction encode bytes with
  | case1 => rfl
  | case2 a => exact single?_encode a
  | case3 a b =>
    have bound := b.toNat_lt
    rw [decode?_double (symbol_ne_padding (by omega)), double?_encode]
  | case4 a b c rest ih =>
    rw [decode?_triple (symbol_ne_padding (by omega)), triple?_encode, ih]
    rfl

theorem encode_of_decode? {cs : List Char} {bytes : Bytes} (read : decode? cs = some bytes) :
    encode bytes = cs := by
  fun_induction decode? cs generalizing bytes with
  | case1 =>
    cases read
    rfl
  | case2 p q => exact encode_of_single? read
  | case3 p q r => exact encode_of_double? read
  | case4 p q r s rest _ _ ih =>
    simp only [Option.bind_eq_bind, Option.bind_eq_some_iff] at read
    obtain ⟨group, groupRead, others, restRead, joined⟩ := read
    cases joined
    rw [encode_of_triple? groupRead, ih restRead]
  | case5 => cases read

theorem ofText?_eq_some_iff {spelled : String} {bytes : Bytes} :
    ofText? spelled = some bytes ↔ spelled = text bytes := by
  constructor
  · intro read
    rw [text, encode_of_decode? read, String.ofList_toList]
  · rintro rfl
    rw [ofText?, text, String.toList_ofList, decode?_encode]

end TokenIndexer.Base64
