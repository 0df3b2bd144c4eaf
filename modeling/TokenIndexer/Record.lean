import TokenIndexer.Block
import TokenIndexer.Bytes
import TokenIndexer.Text

namespace TokenIndexer

structure Codec (α : Type) where
  write : α → Option Bytes
  read : Bytes → Option (α × Bytes)

namespace Codec

variable {α β : Type}

def decode? (codec : Codec α) (bytes : Bytes) : Option α :=
  match codec.read bytes with
  | some (value, []) => some value
  | _ => none

def word (width : Nat) : Codec Nat where
  write n := if n < Word.count width then some (Word.littleEndian width n) else none
  read bytes := (Bytes.split? width bytes).map fun (front, rest) => (Word.ofLittleEndian front, rest)

def via (codec : Codec α) (into : α → β) (back : β → α) : Codec β where
  write value := codec.write (back value)
  read bytes := (codec.read bytes).map fun (value, rest) => (into value, rest)

def word32 : Codec UInt32 := (word 4).via UInt32.ofNat UInt32.toNat

def word64 : Codec UInt64 := (word 8).via UInt64.ofNat UInt64.toNat

def signed64 : Codec Int64 := word64.via Int64.ofUInt64 Int64.toUInt64

def both (first : Codec α) (second : Codec β) : Codec (α × β) where
  write pair := do
    let front ← first.write pair.1
    let back ← second.write pair.2
    some (front ++ back)
  read bytes := do
    let (a, rest) ← first.read bytes
    let (b, rest) ← second.read rest
    some ((a, b), rest)

def blob : Codec Bytes where
  write bytes := do
    let length ← (word 4).write bytes.length
    some (length ++ bytes)
  read bytes := do
    let (length, rest) ← (word 4).read bytes
    Bytes.split? length rest

def text : Codec String where
  write s := blob.write (Utf8.encode s)
  read bytes := do
    let (raw, rest) ← blob.read bytes
    let s ← Utf8.decode? raw
    some (s, rest)

def writeItems (codec : Codec α) : List α → Option Bytes
  | [] => some []
  | item :: items => do
    let front ← codec.write item
    let back ← writeItems codec items
    some (front ++ back)

def readItems (codec : Codec α) : Nat → Bytes → Option (List α × Bytes)
  | 0, bytes => some ([], bytes)
  | count + 1, bytes => do
    let (item, rest) ← codec.read bytes
    let (items, rest) ← readItems codec count rest
    some (item :: items, rest)

def list (codec : Codec α) : Codec (List α) where
  write items := do
    let length ← (word 4).write items.length
    let body ← writeItems codec items
    some (length ++ body)
  read bytes := do
    let (length, rest) ← (word 4).read bytes
    readItems codec length rest

/-- A tag byte, 1 in front of a value and 0 for none. -/
def option (codec : Codec α) : Codec (Option α) where
  write
    | none => some [0]
    | some value => (codec.write value).map (1 :: ·)
  read
    | 0 :: rest => some (none, rest)
    | 1 :: rest => (codec.read rest).map fun (value, rest) => (some value, rest)
    | _ => none

end Codec

/-! ### Records of blocks -/

open Codec

def Tx.codec : Codec Tx := blob.via Tx.mk Tx.bytes

def Block.codec : Codec Block :=
  (both word64 (both blob (both text (both text (both text (list Tx.codec)))))).via
    (fun (height, hash, chainId, time, proposer, txs) => ⟨height, hash, chainId, time, proposer, txs⟩)
    (fun b => (b.height, b.hash, b.chainId, b.time, b.proposer, b.txs))

def DeliverResponse.codec : Codec DeliverResponse :=
  (both (option text) (both blob (both text (both text (both signed64 signed64))))).via
    (fun (error, data, log, info, gasWanted, gasUsed) => ⟨error, data, log, info, gasWanted, gasUsed⟩)
    (fun r => (r.error, r.data, r.log, r.info, r.gasWanted, r.gasUsed))

def TxResult.codec : Codec TxResult :=
  (both word64 (both word32 (both Tx.codec DeliverResponse.codec))).via
    (fun (height, index, tx, response) => ⟨height, index, tx, response⟩)
    (fun r => (r.height, r.index, r.tx, r.response))

end TokenIndexer
