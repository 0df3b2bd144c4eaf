import Mathlib.Algebra.Group.Nat.Defs
import TokenIndexer.Proto.Field

/-! Fields are read back, and a message that was read whole ends where a field ends. -/

namespace TokenIndexer.Varint

/-- Each byte but the last takes seven bits; for the last one that may be read a single bit is left. -/
theorem readAtMost_write {count n : Nat} (small : n < 2 ^ (7 * count + 1)) (rest : Bytes) :
    readAtMost (count + 1) (write n ++ rest) = some (n, rest) := by
  induction count generalizing n with
  | zero =>
    have bit : n < 2 := small
    rw [write, if_pos (by omega), List.singleton_append, readAtMost]
    have table : ∀ k : Fin 2, UInt8.ofNat k < 128 ∧ ¬ (0 = 0 ∧ 1 < UInt8.ofNat k) ∧
        (UInt8.ofNat k).toNat = k := by decide
    obtain ⟨low, single, value⟩ := table ⟨n, bit⟩
    rw [if_pos low, if_neg single, value]
  | succ count ih =>
    rw [write]
    split
    · next low =>
      have value : (UInt8.ofNat n).toNat = n := by
        rw [UInt8.toNat_ofNat', Nat.mod_eq_of_lt (by omega)]
      have last : UInt8.ofNat n < 128 := by
        rw [UInt8.lt_iff_toNat_lt, value]
        exact low
      rw [List.singleton_append, readAtMost, if_pos last, if_neg (by omega), value]
    · next high =>
      have value : (UInt8.ofNat (n % 128 + 128)).toNat = n % 128 + 128 := by
        rw [UInt8.toNat_ofNat', Nat.mod_eq_of_lt (by omega)]
      have onward : ¬ UInt8.ofNat (n % 128 + 128) < 128 := by
        rw [UInt8.lt_iff_toNat_lt, value]
        exact Nat.not_lt.2 (Nat.le_add_left _ _)
      have smaller : n / 128 < 2 ^ (7 * count + 1) := by
        rw [Nat.div_lt_iff_lt_mul (by decide)]
        calc
          n < 2 ^ (7 * (count + 1) + 1) := small
          _ = 2 ^ (7 * count + 1) * 128 := by
            rw [show 7 * (count + 1) + 1 = 7 * count + 1 + 7 by omega, Nat.pow_add]
      rw [List.cons_append, readAtMost, if_neg onward, ih smaller, value, Option.map_some]
      simp only [Option.some.injEq, Prod.mk.injEq, and_true]
      omega

theorem read_write {n : Nat} (word : n < 2 ^ 64) (rest : Bytes) :
    read (write n ++ rest) = some (n, rest) :=
  readAtMost_write word rest

theorem readAtMost_append {count n : Nat} {bytes rest : Bytes}
    (found : readAtMost count bytes = some (n, rest)) (more : Bytes) :
    readAtMost count (bytes ++ more) = some (n, rest ++ more) := by
  induction count generalizing bytes n with
  | zero => cases found
  | succ count ih =>
    cases bytes with
    | nil => cases found
    | cons b tail =>
      rw [readAtMost] at found
      rw [List.cons_append, readAtMost]
      split at found
      · next last =>
        split at found
        · cases found
        · next single =>
          cases found
          rw [if_pos last, if_neg single]
      · next onward =>
        obtain ⟨⟨m, rest'⟩, deeper, shape⟩ := Option.map_eq_some_iff.1 found
        cases shape
        rw [if_neg onward, ih deeper, Option.map_some]

theorem read_append {n : Nat} {bytes rest : Bytes} (found : read bytes = some (n, rest))
    (more : Bytes) : read (bytes ++ more) = some (n, rest ++ more) :=
  readAtMost_append found more

theorem write_of_lt {n : Nat} (low : n < 128) : write n = [UInt8.ofNat n] := by
  rw [write, if_pos low]

end TokenIndexer.Varint

namespace TokenIndexer

theorem Bytes.split?_append_right {count : Nat} {bytes front rest : Bytes}
    (found : split? count bytes = some (front, rest)) (more : Bytes) :
    split? count (bytes ++ more) = some (front, rest ++ more) := by
  obtain ⟨rfl, rfl⟩ := eq_append_of_split? found
  rw [List.append_assoc, split?_append]

namespace Proto

theorem Payload.read_append {wireType : Nat} {bytes rest : Bytes} {payload : Payload}
    (found : Payload.read wireType bytes = some (payload, rest)) (more : Bytes) :
    Payload.read wireType (bytes ++ more) = some (payload, rest ++ more) := by
  unfold Payload.read at found ⊢
  split at found
  · obtain ⟨⟨n, rest'⟩, read, shape⟩ := Option.map_eq_some_iff.1 found
    cases shape
    simp only [Varint.read_append read, Option.map_some]
  · obtain ⟨⟨word, rest'⟩, read, shape⟩ := Option.map_eq_some_iff.1 found
    cases shape
    simp only [Bytes.split?_append_right read, Option.map_some]
  · obtain ⟨⟨length, rest'⟩, size, found⟩ := Option.bind_eq_some_iff.1 found
    obtain ⟨⟨content, rest''⟩, read, shape⟩ := Option.map_eq_some_iff.1 found
    cases shape
    simp only [Varint.read_append size, Option.bind_some, Bytes.split?_append_right read,
      Option.map_some]
  · cases found
    rfl
  · cases found
    rfl
  · obtain ⟨⟨word, rest'⟩, read, shape⟩ := Option.map_eq_some_iff.1 found
    cases shape
    simp only [Bytes.split?_append_right read, Option.map_some]
  · cases found

theorem Field.read_append {bytes rest : Bytes} {field : Field}
    (found : Field.read bytes = some (field, rest)) (more : Bytes) :
    Field.read (bytes ++ more) = some (field, rest ++ more) := by
  unfold Field.read at found ⊢
  obtain ⟨⟨key, rest'⟩, number, found⟩ := Option.bind_eq_some_iff.1 found
  simp only [Varint.read_append number, Option.bind_some]
  simp only at found
  split at found
  · next valid =>
    obtain ⟨⟨payload, rest''⟩, read, shape⟩ := Option.map_eq_some_iff.1 found
    cases shape
    rw [if_pos valid, Payload.read_append read, Option.map_some]
  · cases found

@[simp] theorem scan?_nil : scan? [] = some [] := by
  rw [scan?, if_pos rfl]

theorem scan?_of_read {bytes rest : Bytes} {field : Field}
    (found : Field.read bytes = some (field, rest)) : scan? bytes = (scan? rest).map (field :: ·) := by
  have filled : bytes ≠ [] := by
    rintro rfl
    cases found
  rw [scan?, if_neg filled]
  split
  · next missing => cases missing.symm.trans found
  · next found' =>
    cases found'.symm.trans found
    rfl

theorem scan?_append {front : Bytes} {fields : List Field} (read : scan? front = some fields)
    (back : Bytes) : scan? (front ++ back) = (scan? back).map (fields ++ ·) := by
  fun_induction scan? front generalizing fields with
  | case1 =>
    cases read
    simp
  | case2 => cases read
  | case3 bytes filled field rest found shorter ih =>
    obtain ⟨later, scanned, rfl⟩ := Option.map_eq_some_iff.1 read
    rw [scan?_of_read (Field.read_append found back), ih scanned, Option.map_map]
    rfl

/-- All groups that were opened are closed at the end, so nothing that follows is inside one. -/
theorem outside?_append {limit : Nat} {openGroups : List Nat} {front kept : List Field}
    (read : outside? limit openGroups front = some kept) (back : List Field) :
    outside? limit openGroups (front ++ back) = (outside? limit [] back).map (kept ++ ·) := by
  fun_induction outside? limit openGroups front generalizing kept with
  | case1 =>
    cases read
    simp
  | case2 => cases read
  | case3 number fields outer ih =>
    rw [List.cons_append, outside?, if_pos rfl]
    exact ih read
  | case4 => cases read
  | case5 => cases read
  | case6 => cases read
  | case7 number payload fields notEnd shallow inner =>
    rename_i ih
    obtain ⟨later, outside, rfl⟩ := Option.map_eq_some_iff.1 read
    rw [List.cons_append, outside?, if_neg shallow]
    · change (outside? limit inner (fields ++ back)).map _ = _
      rw [ih outside, Option.map_map]
      rfl
    · exact notEnd
  | case8 number payload fields notEnd group outer shallow inner =>
    rename_i ih
    rw [List.cons_append, outside?, if_neg shallow]
    · exact ih read
    · exact notEnd

@[simp] theorem fields?_nil (limit : Nat) : fields? limit [] = some [] := by
  simp [fields?, outside?]

theorem fields?_append {limit : Nat} {front : Bytes} {fields : List Field}
    (read : fields? limit front = some fields) (back : Bytes) :
    fields? limit (front ++ back) = (fields? limit back).map (fields ++ ·) := by
  obtain ⟨scanned, scan, outside⟩ := Option.bind_eq_some_iff.1 read
  rw [fields?, scan?_append scan, fields?]
  cases later : scan? back with
  | none => rfl
  | some more => exact outside?_append outside more

section Written

variable {limit number : Nat} (shallow : 0 < limit) (least : 1 ≤ number) (most : number < 2 ^ 29)

include least most

theorem read_key {wireType : Nat} (known : wireType < 8) (rest : Bytes) :
    Field.read (Varint.write (8 * number + wireType) ++ rest) =
      (Payload.read wireType rest).map fun (payload, rest) => (⟨number, payload⟩, rest) := by
  have valid : 8 * number + wireType < UInt32.size ∧ 8 ≤ 8 * number + wireType := by
    change _ < 4294967296 ∧ _
    omega
  rw [Field.read, Varint.read_write (by omega), Option.bind_some]
  simp only
  rw [if_pos valid, show (8 * number + wireType) % 8 = wireType by omega,
    show (8 * number + wireType) / 8 = number by omega]

theorem read_bytesField {content : Bytes} (word : content.length < 2 ^ 64) :
    Field.read (bytesField number content) = some (⟨number, .bytes content⟩, []) := by
  have whole := Bytes.split?_append content []
  rw [List.append_nil] at whole
  rw [bytesField, List.append_assoc, read_key least most (by omega), Payload.read,
    Varint.read_write word, Option.bind_some]
  simp only [whole, Option.map_some]

theorem read_varintField {n : Nat} (word : n < 2 ^ 64) :
    Field.read (varintField number n) = some (⟨number, .varint n⟩, []) := by
  have read := Varint.read_write word []
  rw [List.append_nil] at read
  rw [varintField, ← Nat.add_zero (8 * number), read_key least most (by omega), Payload.read, read]
  rfl

include shallow

theorem fields?_bytesField {content : Bytes} (word : content.length < 2 ^ 64) :
    fields? limit (bytesField number content) = some [⟨number, .bytes content⟩] := by
  rw [fields?, scan?_of_read (read_bytesField least most word)]
  simp [outside?, Nat.not_le.2 shallow]

theorem fields?_varintField {n : Nat} (word : n < 2 ^ 64) :
    fields? limit (varintField number n) = some [⟨number, .varint n⟩] := by
  rw [fields?, scan?_of_read (read_varintField least most word)]
  simp [outside?, Nat.not_le.2 shallow]

end Written

end Proto

end TokenIndexer
