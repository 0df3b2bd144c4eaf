import TokenIndexer.Bytes
import TokenIndexer.Text

/-! The fields of a binary message: keys with a number and a wire type, and their payloads. -/

namespace TokenIndexer.Varint

def write (n : Nat) : Bytes :=
  if n < 128 then [UInt8.ofNat n] else UInt8.ofNat (n % 128 + 128) :: write (n / 128)

/-- Reads at most `count` bytes; the last of them may only hold the topmost bit. -/
def readAtMost : Nat → Bytes → Option (Nat × Bytes)
  | 0, _ => none
  | _, [] => none
  | count + 1, b :: rest =>
    if b < 128 then
      if count = 0 ∧ 1 < b then none else some (b.toNat, rest)
    else
      (readAtMost count rest).map fun (n, rest) => (b.toNat - 128 + 128 * n, rest)

def read (bytes : Bytes) : Option (Nat × Bytes) := readAtMost 10 bytes

theorem readAtMost_length {count n : Nat} {bytes rest : Bytes}
    (found : readAtMost count bytes = some (n, rest)) : rest.length < bytes.length := by
  induction count generalizing bytes n with
  | zero => cases found
  | succ count ih =>
    cases bytes with
    | nil => cases found
    | cons b tail =>
      simp only [readAtMost] at found
      split at found
      · split at found
        · cases found
        · cases found
          exact Nat.lt_succ_self _
      · simp only [Option.map_eq_some_iff, Prod.mk.injEq, Prod.exists] at found
        obtain ⟨_, _, deeper, -, rfl⟩ := found
        exact Nat.lt_succ_of_lt (ih deeper)

theorem read_length {n : Nat} {bytes rest : Bytes} (found : read bytes = some (n, rest)) :
    rest.length < bytes.length :=
  readAtMost_length found

end TokenIndexer.Varint

namespace TokenIndexer.Proto

inductive Payload where
  | varint (n : Nat)
  | fixed64 (bytes : Bytes)
  | bytes (bytes : Bytes)
  | groupStart
  | groupEnd
  | fixed32 (bytes : Bytes)
  deriving DecidableEq

structure Field where
  number : Nat
  payload : Payload
  deriving DecidableEq

def depthLimit : Nat := 100

namespace Payload

def read (wireType : Nat) (bytes : Bytes) : Option (Payload × Bytes) :=
  match wireType with
  | 0 => (Varint.read bytes).map fun (n, rest) => (.varint n, rest)
  | 1 => (Bytes.split? 8 bytes).map fun (word, rest) => (.fixed64 word, rest)
  | 2 =>
    (Varint.read bytes).bind fun (length, rest) =>
      (Bytes.split? length rest).map fun (content, rest) => (.bytes content, rest)
  | 3 => some (.groupStart, bytes)
  | 4 => some (.groupEnd, bytes)
  | 5 => (Bytes.split? 4 bytes).map fun (word, rest) => (.fixed32 word, rest)
  | _ => none

end Payload

namespace Field

/-- The field at the front. Number 0 and keys of more than 32 bits are refused. -/
def read (bytes : Bytes) : Option (Field × Bytes) :=
  (Varint.read bytes).bind fun (key, rest) =>
    if key < UInt32.size ∧ 8 ≤ key then
      (Payload.read (key % 8) rest).map fun (payload, rest) => (⟨key / 8, payload⟩, rest)
    else none

end Field

theorem split?_length {count : Nat} {bytes front rest : Bytes}
    (found : Bytes.split? count bytes = some (front, rest)) : rest.length ≤ bytes.length := by
  rw [(Bytes.eq_append_of_split? found).1, List.length_append]
  omega

theorem Payload.read_length {wireType : Nat} {bytes rest : Bytes} {payload : Payload}
    (found : Payload.read wireType bytes = some (payload, rest)) : rest.length ≤ bytes.length := by
  unfold Payload.read at found
  split at found
  · simp only [Option.map_eq_some_iff, Prod.exists, Prod.mk.injEq] at found
    obtain ⟨_, _, read, -, rfl⟩ := found
    exact Nat.le_of_lt (Varint.read_length read)
  · simp only [Option.map_eq_some_iff, Prod.exists, Prod.mk.injEq] at found
    obtain ⟨_, _, read, -, rfl⟩ := found
    exact split?_length read
  · simp only [Option.bind_eq_some_iff, Option.map_eq_some_iff, Prod.exists, Prod.mk.injEq] at found
    obtain ⟨_, _, length, _, _, read, -, rfl⟩ := found
    exact Nat.le_trans (split?_length read) (Nat.le_of_lt (Varint.read_length length))
  · cases found
    exact Nat.le_refl _
  · cases found
    exact Nat.le_refl _
  · simp only [Option.map_eq_some_iff, Prod.exists, Prod.mk.injEq] at found
    obtain ⟨_, _, read, -, rfl⟩ := found
    exact split?_length read
  · cases found

theorem Field.read_length {bytes rest : Bytes} {field : Field}
    (found : Field.read bytes = some (field, rest)) : rest.length < bytes.length := by
  simp only [Field.read, Option.bind_eq_some_iff, Prod.exists] at found
  obtain ⟨_, _, key, found⟩ := found
  split at found
  · simp only [Option.map_eq_some_iff, Prod.exists, Prod.mk.injEq] at found
    obtain ⟨_, _, read, -, rfl⟩ := found
    exact Nat.lt_of_le_of_lt (Payload.read_length read) (Varint.read_length key)
  · cases found

def scan? (bytes : Bytes) : Option (List Field) :=
  if bytes = [] then some []
  else
    match found : Field.read bytes with
    | none => none
    | some (field, rest) =>
      have := Field.read_length found
      (scan? rest).map (field :: ·)
  termination_by bytes.length

/-- The fields that stand outside groups, given the numbers of the groups that are open. Within
`limit` open groups nothing more may stand; a group ends with its own number. -/
def outside? (limit : Nat) (openGroups : List Nat) : List Field → Option (List Field)
  | [] => if openGroups = [] then some [] else none
  | ⟨number, .groupEnd⟩ :: fields =>
    match openGroups with
    | group :: outer => if group = number then outside? limit outer fields else none
    | [] => none
  | ⟨number, payload⟩ :: fields =>
    if limit ≤ openGroups.length then none
    else
      let inner := if payload = .groupStart then number :: openGroups else openGroups
      match openGroups with
      | [] => (outside? limit inner fields).map (⟨number, payload⟩ :: ·)
      | _ :: _ => outside? limit inner fields

def fields? (limit : Nat) (bytes : Bytes) : Option (List Field) :=
  (scan? bytes).bind (outside? limit [])

namespace Field

def bytes? : Field → Option Bytes
  | ⟨_, .bytes content⟩ => some content
  | _ => none

def text? (field : Field) : Option String := field.bytes?.bind Utf8.decode?

/-- The low 64 bits of a varint, as a signed number. -/
def signed64? : Field → Option Int64
  | ⟨_, .varint n⟩ => some (Int64.ofUInt64 (UInt64.ofNat n))
  | _ => none

end Field

/-! ### Writing -/

def bytesField (number : Nat) (content : Bytes) : Bytes :=
  Varint.write (8 * number + 2) ++ Varint.write content.length ++ content

def varintField (number n : Nat) : Bytes := Varint.write (8 * number) ++ Varint.write n

/-- A field that may occur once, left out when it is empty. -/
def bytesFieldUnlessEmpty (number : Nat) (content : Bytes) : Bytes :=
  if content = [] then [] else bytesField number content

end TokenIndexer.Proto
