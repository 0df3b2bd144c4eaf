/-! Byte strings, their hexadecimal and base64 texts, and words of a fixed width as bytes. -/

namespace TokenIndexer

abbrev Bytes := List UInt8

namespace Bytes

def split? (count : Nat) (bytes : Bytes) : Option (Bytes × Bytes) :=
  if count ≤ bytes.length then some (bytes.take count, bytes.drop count) else none

def ofAscii (text : String) : Bytes := text.toList.map fun c => UInt8.ofNat c.toNat

/-- Dictionary order, a shorter string before those that extend it. -/
def precedes : Bytes → Bytes → Bool
  | _, [] => false
  | [], _ :: _ => true
  | a :: as, b :: bs => a < b || (a == b && precedes as bs)

theorem split?_append (a b : Bytes) : split? a.length (a ++ b) = some (a, b) := by
  simp [split?]

theorem eq_append_of_split? {count : Nat} {bytes a b : Bytes}
    (found : split? count bytes = some (a, b)) : bytes = a ++ b ∧ a.length = count := by
  unfold split? at found
  split at found
  · next fits =>
    simp only [Option.some.injEq, Prod.mk.injEq] at found
    obtain ⟨rfl, rfl⟩ := found
    exact ⟨(List.take_append_drop ..).symm, List.length_take_of_le fits⟩
  · cases found

end Bytes

end TokenIndexer

/-! ### Hexadecimal digits -/

namespace TokenIndexer.Hex

def digit (n : Nat) : Char :=
  if n < 10 then Char.ofNat (48 + n) else Char.ofNat (87 + n)

def digitValue? (c : Char) : Option Nat :=
  if '0' ≤ c ∧ c ≤ '9' then some (c.toNat - 48)
  else if 'a' ≤ c ∧ c ≤ 'f' then some (c.toNat - 87)
  else if 'A' ≤ c ∧ c ≤ 'F' then some (c.toNat - 55)
  else none

def encode (bytes : Bytes) : List Char :=
  bytes.flatMap fun b => [digit (b.toNat / 16), digit (b.toNat % 16)]

/-- Refuses an odd number of digits. -/
def decode? : List Char → Option Bytes
  | [] => some []
  | high :: low :: rest => do
    let h ← digitValue? high
    let l ← digitValue? low
    let bytes ← decode? rest
    pure (UInt8.ofNat (16 * h + l) :: bytes)
  | [_] => none

def text (bytes : Bytes) : String := String.ofList (encode bytes)

def ofText? (text : String) : Option Bytes := decode? text.toList

theorem digitValue?_digit {n : Nat} (small : n < 16) : digitValue? (digit n) = some n := by
  have table : ∀ k : Fin 16, digitValue? (digit k) = some k.val := by decide
  exact table ⟨n, small⟩

theorem decode?_encode (bytes : Bytes) : decode? (encode bytes) = some bytes := by
  induction bytes with
  | nil => rfl
  | cons b rest ih =>
    have small := b.toNat_lt
    have high := digitValue?_digit (show b.toNat / 16 < 16 by omega)
    have low := digitValue?_digit (show b.toNat % 16 < 16 by omega)
    have whole : UInt8.ofNat (16 * (b.toNat / 16) + b.toNat % 16) = b := by
      rw [show 16 * (b.toNat / 16) + b.toNat % 16 = b.toNat by omega, UInt8.ofNat_toNat]
    change decode? (digit _ :: digit _ :: encode rest) = _
    simp only [decode?, high, low, ih, whole, Option.bind_eq_bind, Option.bind_some, Option.pure_def]

end TokenIndexer.Hex

/-! ### Base 64 -/

namespace TokenIndexer.Base64

def symbol (n : Nat) : Char :=
  if n < 26 then Char.ofNat (65 + n)
  else if n < 52 then Char.ofNat (71 + n)
  else if n < 62 then Char.ofNat (n - 4)
  else if n = 62 then '+'
  else '/'

def symbolValue? (c : Char) : Option Nat :=
  if 'A' ≤ c ∧ c ≤ 'Z' then some (c.toNat - 65)
  else if 'a' ≤ c ∧ c ≤ 'z' then some (c.toNat - 71)
  else if '0' ≤ c ∧ c ≤ '9' then some (c.toNat + 4)
  else if c = '+' then some 62
  else if c = '/' then some 63
  else none

def encode : Bytes → List Char
  | [] => []
  | [a] => [symbol (a.toNat / 4), symbol (a.toNat % 4 * 16), '=', '=']
  | [a, b] =>
    [symbol (a.toNat / 4), symbol (a.toNat % 4 * 16 + b.toNat / 16), symbol (b.toNat % 16 * 4), '=']
  | a :: b :: c :: rest =>
    symbol (a.toNat / 4) :: symbol (a.toNat % 4 * 16 + b.toNat / 16) ::
      symbol (b.toNat % 16 * 4 + c.toNat / 64) :: symbol (c.toNat % 64) :: encode rest

/-- A final group with one byte, its unused four bits zero. -/
def single? (p q : Char) : Option Bytes := do
  let p ← symbolValue? p
  let q ← symbolValue? q
  if q % 16 = 0 then some [UInt8.ofNat (4 * p + q / 16)] else none

def double? (p q r : Char) : Option Bytes := do
  let p ← symbolValue? p
  let q ← symbolValue? q
  let r ← symbolValue? r
  if r % 4 = 0 then
    some [UInt8.ofNat (4 * p + q / 16), UInt8.ofNat (q % 16 * 16 + r / 4)]
  else none

def triple? (p q r s : Char) : Option Bytes := do
  let p ← symbolValue? p
  let q ← symbolValue? q
  let r ← symbolValue? r
  let s ← symbolValue? s
  some [UInt8.ofNat (4 * p + q / 16), UInt8.ofNat (q % 16 * 16 + r / 4),
    UInt8.ofNat (r % 4 * 64 + s)]

def decode? : List Char → Option Bytes
  | [] => some []
  | [p, q, '=', '='] => single? p q
  | [p, q, r, '='] => double? p q r
  | p :: q :: r :: s :: rest => do
    let group ← triple? p q r s
    let bytes ← decode? rest
    pure (group ++ bytes)
  | _ => none

def text (bytes : Bytes) : String := String.ofList (encode bytes)

def ofText? (text : String) : Option Bytes := decode? text.toList

theorem symbolValue?_symbol {n : Nat} (small : n < 64) : symbolValue? (symbol n) = some n := by
  have table : ∀ k : Fin 64, symbolValue? (symbol k) = some k.val := by decide
  exact table ⟨n, small⟩

end TokenIndexer.Base64

/-! ### Words -/

namespace TokenIndexer.Word

def count (width : Nat) : Nat := Nat.pow 256 width

theorem count_succ (width : Nat) : count (width + 1) = 256 * count width :=
  Nat.mul_comm (count width) 256

/-- The low `width` bytes of `n`, least significant first. -/
def littleEndian : Nat → Nat → Bytes
  | 0, _ => []
  | width + 1, n => UInt8.ofNat n :: littleEndian width (n / 256)

def ofLittleEndian : Bytes → Nat
  | [] => 0
  | b :: rest => b.toNat + 256 * ofLittleEndian rest

def bigEndian (width n : Nat) : Bytes := (littleEndian width n).reverse

def ofBigEndian (bytes : Bytes) : Nat := ofLittleEndian bytes.reverse

@[simp] theorem length_littleEndian (width n : Nat) : (littleEndian width n).length = width := by
  induction width generalizing n with
  | zero => rfl
  | succ width ih => simp [littleEndian, ih]

theorem ofLittleEndian_littleEndian (width n : Nat) :
    ofLittleEndian (littleEndian width n) = n % count width := by
  induction width generalizing n with
  | zero => exact (Nat.mod_one n).symm
  | succ width ih =>
    have whole : n % (256 * count width) = n % 256 + 256 * (n / 256 % count width) := Nat.mod_mul
    have low : (UInt8.ofNat n).toNat = n % 256 := rfl
    rw [littleEndian, ofLittleEndian, ih, low, count_succ, whole]

theorem littleEndian_ofLittleEndian (bytes : Bytes) :
    littleEndian bytes.length (ofLittleEndian bytes) = bytes := by
  induction bytes with
  | nil => rfl
  | cons b rest ih =>
    have small := b.toNat_lt
    have quotient : (b.toNat + 256 * ofLittleEndian rest) / 256 = ofLittleEndian rest := by omega
    have remainder : (b.toNat + 256 * ofLittleEndian rest) % 256 = b.toNat := by omega
    have head : UInt8.ofNat (b.toNat + 256 * ofLittleEndian rest) = b := by
      apply UInt8.toNat_inj.1
      rw [UInt8.toNat_ofNat']
      exact remainder
    rw [List.length_cons, ofLittleEndian, littleEndian, quotient, head, ih]

@[simp] theorem length_bigEndian (width n : Nat) : (bigEndian width n).length = width := by
  simp [bigEndian]

theorem ofBigEndian_bigEndian (width n : Nat) :
    ofBigEndian (bigEndian width n) = n % count width := by
  simp [ofBigEndian, bigEndian, ofLittleEndian_littleEndian]

end TokenIndexer.Word
