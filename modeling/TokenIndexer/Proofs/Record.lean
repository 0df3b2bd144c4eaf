import TokenIndexer.Record

namespace TokenIndexer

namespace Codec

variable {α β : Type} {codec : Codec α}

def Faithful (codec : Codec α) : Prop :=
  ∀ value bytes rest, codec.write value = some bytes → codec.read (bytes ++ rest) = some (value, rest)

theorem decode?_of_write (faithful : codec.Faithful) {value : α} {bytes : Bytes}
    (written : codec.write value = some bytes) : codec.decode? bytes = some value := by
  have read := faithful value bytes [] written
  rw [List.append_nil] at read
  rw [decode?, read]

theorem faithful_word (width : Nat) : (word width).Faithful := by
  intro n bytes rest written
  simp only [word] at written ⊢
  split at written
  · next small =>
    cases written
    have taken := Bytes.split?_append (Word.littleEndian width n) rest
    rw [Word.length_littleEndian] at taken
    rw [taken, Option.map_some, Word.ofLittleEndian_littleEndian, Nat.mod_eq_of_lt small]
  · cases written

theorem faithful_via (faithful : codec.Faithful) {into : α → β} {back : β → α}
    (inverse : ∀ b, into (back b) = b) : (codec.via into back).Faithful := by
  intro value bytes rest written
  change (codec.read (bytes ++ rest)).map _ = _
  rw [faithful (back value) bytes rest written, Option.map_some]
  exact congrArg (fun b => some (b, rest)) (inverse value)

theorem faithful_word32 : word32.Faithful :=
  faithful_via (faithful_word 4) fun _ => UInt32.ofNat_toNat

theorem faithful_word64 : word64.Faithful :=
  faithful_via (faithful_word 8) fun _ => UInt64.ofNat_toNat

theorem faithful_signed64 : signed64.Faithful := faithful_via faithful_word64 fun _ => rfl

theorem faithful_both {codec' : Codec β} (first : codec.Faithful) (second : codec'.Faithful) :
    (both codec codec').Faithful := by
  rintro ⟨a, b⟩ bytes rest written
  simp only [both, Option.bind_eq_bind, Option.bind_eq_some_iff, Option.some.injEq] at written
  obtain ⟨front, writtenFront, back, writtenBack, rfl⟩ := written
  simp only [both, Option.bind_eq_bind]
  rw [List.append_assoc, first a front _ writtenFront, Option.bind_some,
    second b back rest writtenBack, Option.bind_some]

theorem isSome_write_both (codec : Codec α) (codec' : Codec β) (pair : α × β) :
    ((both codec codec').write pair).isSome =
      ((codec.write pair.1).isSome && (codec'.write pair.2).isSome) := by
  simp only [both, Option.bind_eq_bind]
  cases codec.write pair.1 with
  | none => rfl
  | some front => cases codec'.write pair.2 <;> rfl

theorem isSome_write_word64 (n : UInt64) : (word64.write n).isSome := by
  have small : n.toNat < Word.count 8 := n.toNat_lt
  simp [word64, via, word, small]

theorem faithful_blob : blob.Faithful := by
  intro bytes record rest written
  simp only [blob, Option.bind_eq_bind, Option.bind_eq_some_iff, Option.some.injEq] at written
  obtain ⟨length, writtenLength, rfl⟩ := written
  simp only [blob, Option.bind_eq_bind]
  rw [List.append_assoc, faithful_word 4 _ length _ writtenLength, Option.bind_some,
    Bytes.split?_append]

theorem faithful_text : text.Faithful := by
  intro s record rest written
  simp only [text, Option.bind_eq_bind]
  rw [faithful_blob _ record rest written, Option.bind_some, Utf8.decode?_encode, Option.bind_some]

theorem readItems_writeItems (faithful : codec.Faithful) (items : List α) {bytes : Bytes}
    (written : writeItems codec items = some bytes) (rest : Bytes) :
    readItems codec items.length (bytes ++ rest) = some (items, rest) := by
  induction items generalizing bytes with
  | nil =>
    cases written
    rfl
  | cons item items ih =>
    simp only [writeItems, Option.bind_eq_bind, Option.bind_eq_some_iff, Option.some.injEq] at written
    obtain ⟨front, writtenFront, back, writtenBack, rfl⟩ := written
    rw [List.length_cons, readItems, List.append_assoc]
    simp only [Option.bind_eq_bind]
    rw [faithful item front _ writtenFront, Option.bind_some, ih writtenBack, Option.bind_some]

theorem faithful_list (faithful : codec.Faithful) : (list codec).Faithful := by
  intro items record rest written
  simp only [list, Option.bind_eq_bind, Option.bind_eq_some_iff, Option.some.injEq] at written
  obtain ⟨length, writtenLength, body, writtenBody, rfl⟩ := written
  simp only [list, Option.bind_eq_bind]
  rw [List.append_assoc, faithful_word 4 _ length _ writtenLength, Option.bind_some,
    readItems_writeItems faithful items writtenBody]

theorem faithful_option (faithful : codec.Faithful) : (option codec).Faithful := by
  intro value record rest written
  cases value with
  | none =>
    cases written
    rfl
  | some value =>
    obtain ⟨bytes, writtenValue, rfl⟩ := Option.map_eq_some_iff.1 written
    change (codec.read (bytes ++ rest)).map _ = _
    rw [faithful value bytes rest writtenValue, Option.map_some]

end Codec

open Codec

theorem Tx.faithful_codec : Tx.codec.Faithful := faithful_via faithful_blob fun _ => rfl

theorem Block.faithful_codec : Block.codec.Faithful := by
  refine faithful_via ?_ fun _ => rfl
  apply faithful_both faithful_word64
  apply faithful_both faithful_blob
  apply faithful_both faithful_text
  apply faithful_both faithful_text
  apply faithful_both faithful_text
  exact faithful_list Tx.faithful_codec

theorem DeliverResponse.faithful_codec : DeliverResponse.codec.Faithful := by
  refine faithful_via ?_ fun _ => rfl
  apply faithful_both (faithful_option faithful_text)
  apply faithful_both faithful_blob
  apply faithful_both faithful_text
  apply faithful_both faithful_text
  exact faithful_both faithful_signed64 faithful_signed64

theorem TxResult.faithful_codec : TxResult.codec.Faithful := by
  refine faithful_via ?_ fun _ => rfl
  apply faithful_both faithful_word64
  apply faithful_both faithful_word32
  exact faithful_both Tx.faithful_codec DeliverResponse.faithful_codec

end TokenIndexer
