import TokenIndexer.Proofs.Record

/-!
Stored records are canonical: a record has one spelling, and none of its proper beginnings or continuations is
a record.
-/

namespace TokenIndexer

namespace Codec

variable {α β : Type} {codec : Codec α}

def Exact (codec : Codec α) : Prop :=
  ∀ bytes value rest, codec.read bytes = some (value, rest) →
    ∃ front, codec.write value = some front ∧ bytes = front ++ rest

theorem exact_word (width : Nat) : (word width).Exact := by
  intro bytes n rest read
  simp only [word, Option.map_eq_some_iff, Prod.exists, Prod.mk.injEq] at read
  obtain ⟨front, _, taken, rfl, rfl⟩ := read
  obtain ⟨rfl, full⟩ := Bytes.eq_append_of_split? taken
  have spelled := Word.littleEndian_ofLittleEndian front
  rw [full] at spelled
  have small : Word.ofLittleEndian front < Word.count width := by
    rw [← spelled, Word.ofLittleEndian_littleEndian]
    exact Nat.mod_lt _ (Nat.pow_pos (by decide))
  refine ⟨front, ?_, rfl⟩
  simp only [word, if_pos small, spelled]

/-- Only values that have a record need to come back: those of a word are the ones in its range. -/
theorem exact_via (exact : codec.Exact) {into : α → β} {back : β → α}
    (inverse : ∀ a bytes, codec.write a = some bytes → back (into a) = a) :
    (codec.via into back).Exact := by
  intro bytes value rest read
  obtain ⟨⟨a, rest'⟩, readFirst, same⟩ := Option.map_eq_some_iff.1 read
  cases same
  obtain ⟨front, written, rfl⟩ := exact bytes a rest readFirst
  refine ⟨front, ?_, rfl⟩
  change codec.write (back (into a)) = some front
  rw [inverse a front written, written]

theorem lt_count_of_write {width n : Nat} {bytes : Bytes} (written : (word width).write n = some bytes) :
    n < Word.count width := by
  simp only [word] at written
  split at written
  · next small => exact small
  · cases written

theorem exact_word32 : word32.Exact := by
  apply exact_via (exact_word 4)
  intro n bytes written
  exact UInt32.toNat_ofNat_of_lt' (lt_count_of_write written)

theorem exact_word64 : word64.Exact := by
  apply exact_via (exact_word 8)
  intro n bytes written
  exact UInt64.toNat_ofNat_of_lt' (lt_count_of_write written)

theorem exact_signed64 : signed64.Exact := exact_via exact_word64 fun _ _ _ => rfl

theorem exact_both {codec' : Codec β} (first : codec.Exact) (second : codec'.Exact) :
    (both codec codec').Exact := by
  intro bytes pair rest read
  simp only [both, Option.bind_eq_bind, Option.bind_eq_some_iff, Prod.exists, Option.some.injEq,
    Prod.mk.injEq] at read
  obtain ⟨a, middle, readFirst, b, _, readSecond, rfl, rfl⟩ := read
  obtain ⟨front, writtenFirst, rfl⟩ := first _ _ _ readFirst
  obtain ⟨back, writtenSecond, rfl⟩ := second _ _ _ readSecond
  refine ⟨front ++ back, ?_, (List.append_assoc ..).symm⟩
  simp only [both, Option.bind_eq_bind, writtenFirst, writtenSecond, Option.bind_some]

theorem exact_blob : blob.Exact := by
  intro bytes value rest read
  simp only [blob, Option.bind_eq_bind, Option.bind_eq_some_iff, Prod.exists] at read
  obtain ⟨length, middle, readLength, taken⟩ := read
  obtain ⟨front, written, rfl⟩ := exact_word 4 _ _ _ readLength
  obtain ⟨rfl, rfl⟩ := Bytes.eq_append_of_split? taken
  refine ⟨front ++ value, ?_, (List.append_assoc ..).symm⟩
  simp only [blob, Option.bind_eq_bind, written, Option.bind_some]

theorem exact_text : text.Exact := by
  intro bytes s rest read
  simp only [text, Option.bind_eq_bind, Option.bind_eq_some_iff, Prod.exists, Option.some.injEq,
    Prod.mk.injEq] at read
  obtain ⟨raw, _, readRaw, _, spelled, rfl, rfl⟩ := read
  obtain ⟨front, written, rfl⟩ := exact_blob _ _ _ readRaw
  refine ⟨front, ?_, rfl⟩
  change blob.write (Utf8.encode _) = some front
  rw [Utf8.encode_of_decode? spelled, written]

theorem length_readItems (count : Nat) {bytes rest : Bytes} {items : List α}
    (read : readItems codec count bytes = some (items, rest)) : items.length = count := by
  induction count generalizing bytes items with
  | zero =>
    cases read
    rfl
  | succ count ih =>
    simp only [readItems, Option.bind_eq_bind, Option.bind_eq_some_iff, Prod.exists,
      Option.some.injEq, Prod.mk.injEq] at read
    obtain ⟨item, middle, -, items', _, readRest, rfl, rfl⟩ := read
    rw [List.length_cons, ih readRest]

theorem writeItems_readItems (exact : codec.Exact) (count : Nat) {bytes rest : Bytes} {items : List α}
    (read : readItems codec count bytes = some (items, rest)) :
    ∃ body, writeItems codec items = some body ∧ bytes = body ++ rest := by
  induction count generalizing bytes items with
  | zero =>
    cases read
    exact ⟨[], rfl, rfl⟩
  | succ count ih =>
    simp only [readItems, Option.bind_eq_bind, Option.bind_eq_some_iff, Prod.exists,
      Option.some.injEq, Prod.mk.injEq] at read
    obtain ⟨item, middle, readItem, items', _, readRest, rfl, rfl⟩ := read
    obtain ⟨front, writtenItem, rfl⟩ := exact _ _ _ readItem
    obtain ⟨back, writtenRest, rfl⟩ := ih readRest
    refine ⟨front ++ back, ?_, (List.append_assoc ..).symm⟩
    simp only [writeItems, Option.bind_eq_bind, writtenItem, writtenRest, Option.bind_some]

theorem exact_list (exact : codec.Exact) : (list codec).Exact := by
  intro bytes items rest read
  simp only [list, Option.bind_eq_bind, Option.bind_eq_some_iff, Prod.exists] at read
  obtain ⟨length, middle, readLength, readBody⟩ := read
  obtain ⟨front, writtenLength, rfl⟩ := exact_word 4 _ _ _ readLength
  obtain ⟨body, writtenBody, rfl⟩ := writeItems_readItems exact length readBody
  rw [← length_readItems length readBody] at writtenLength
  refine ⟨front ++ body, ?_, (List.append_assoc ..).symm⟩
  simp only [list, Option.bind_eq_bind, writtenLength, writtenBody, Option.bind_some]

theorem exact_option (exact : codec.Exact) : (option codec).Exact := by
  intro bytes value rest read
  simp only [option] at read
  split at read
  · cases read
    exact ⟨[0], rfl, rfl⟩
  · simp only [Option.map_eq_some_iff, Prod.exists, Prod.mk.injEq] at read
    obtain ⟨inner, _, readInner, rfl, rfl⟩ := read
    obtain ⟨front, written, rfl⟩ := exact _ _ _ readInner
    refine ⟨1 :: front, ?_, rfl⟩
    simp only [option, written, Option.map_some]
  · cases read

/-! ### Canonical codecs -/

/-- Writing and reading are inverse to each other, and records stand apart from one another. -/
structure Canonical (codec : Codec α) : Prop where
  decode?_write : ∀ value bytes, codec.write value = some bytes → codec.decode? bytes = some value
  write_decode? : ∀ bytes value, codec.decode? bytes = some value → codec.write value = some bytes
  /-- No proper beginning of a record is one. -/
  decode?_beginning : ∀ value bytes front back, codec.write value = some bytes →
    bytes = front ++ back → back ≠ [] → codec.decode? front = none
  decode?_continued : ∀ value bytes more, codec.write value = some bytes → more ≠ [] →
    codec.decode? (bytes ++ more) = none
  write_inj : ∀ value other bytes, codec.write value = some bytes → codec.write other = some bytes →
    value = other

theorem write_of_decode? (exact : codec.Exact) {bytes : Bytes} {value : α}
    (decoded : codec.decode? bytes = some value) : codec.write value = some bytes := by
  unfold decode? at decoded
  split at decoded
  · next read =>
    cases decoded
    obtain ⟨front, written, rfl⟩ := exact _ _ _ read
    rw [List.append_nil, written]
  · cases decoded

theorem decode?_append (faithful : codec.Faithful) {value : α} {bytes more : Bytes}
    (written : codec.write value = some bytes) (further : more ≠ []) :
    codec.decode? (bytes ++ more) = none := by
  rw [decode?, faithful value bytes more written]
  cases more with
  | nil => exact absurd rfl further
  | cons b more => rfl

theorem canonical (faithful : codec.Faithful) (exact : codec.Exact) : codec.Canonical where
  decode?_write _ _ written := decode?_of_write faithful written
  write_decode? _ _ decoded := write_of_decode? exact decoded
  decode?_beginning value bytes front back written whole further := by
    cases decoded : codec.decode? front with
    | none => rfl
    | some shorter =>
      have writtenFront := write_of_decode? exact decoded
      have left := decode?_append faithful writtenFront further
      rw [← whole, decode?_of_write faithful written] at left
      cases left
  decode?_continued _ _ _ written further := decode?_append faithful written further
  write_inj value other bytes written writtenOther := by
    have decoded := decode?_of_write faithful written
    rw [decode?_of_write faithful writtenOther] at decoded
    cases decoded
    rfl

/-! ### Which values have a record -/

def Countable (length : Nat) : Prop := length < Word.count 4

theorem isSome_write_count (length : Nat) : ((word 4).write length).isSome ↔ Countable length := by
  simp [word, Countable]

theorem isSome_write_word32 (n : UInt32) : (word32.write n).isSome := by
  have small : n.toNat < Word.count 4 := n.toNat_lt
  simp [word32, via, word, small]

theorem isSome_write_signed64 (n : Int64) : (signed64.write n).isSome := isSome_write_word64 n.toUInt64

theorem isSome_write_blob (bytes : Bytes) : (blob.write bytes).isSome ↔ Countable bytes.length := by
  rw [← isSome_write_count]
  simp only [blob, Option.bind_eq_bind]
  cases (word 4).write bytes.length <;> simp

theorem isSome_write_text (s : String) : (text.write s).isSome ↔ Countable (Utf8.encode s).length :=
  isSome_write_blob (Utf8.encode s)

theorem isSome_writeItems (items : List α) :
    (writeItems codec items).isSome ↔ ∀ item ∈ items, (codec.write item).isSome := by
  induction items with
  | nil => simp [writeItems]
  | cons item items ih =>
    rw [List.forall_mem_cons, ← ih]
    simp only [writeItems, Option.bind_eq_bind]
    cases codec.write item with
    | none => simp
    | some front => cases writeItems codec items <;> simp

theorem isSome_write_list (items : List α) :
    ((list codec).write items).isSome ↔
      Countable items.length ∧ ∀ item ∈ items, (codec.write item).isSome := by
  rw [← isSome_write_count, ← isSome_writeItems]
  simp only [list, Option.bind_eq_bind]
  cases (word 4).write items.length with
  | none => simp
  | some front => cases writeItems codec items <;> simp

theorem isSome_write_option (value : Option α) :
    ((option codec).write value).isSome ↔ ∀ inner ∈ value, (codec.write inner).isSome := by
  cases value <;> simp [option]

end Codec

open Codec

theorem Tx.exact_codec : Tx.codec.Exact := exact_via exact_blob fun _ _ _ => rfl

theorem Block.exact_codec : Block.codec.Exact := by
  refine exact_via ?_ fun _ _ _ => rfl
  apply exact_both exact_word64
  apply exact_both exact_blob
  apply exact_both exact_text
  apply exact_both exact_text
  apply exact_both exact_text
  exact exact_list Tx.exact_codec

theorem DeliverResponse.exact_codec : DeliverResponse.codec.Exact := by
  refine exact_via ?_ fun _ _ _ => rfl
  apply exact_both (exact_option exact_text)
  apply exact_both exact_blob
  apply exact_both exact_text
  apply exact_both exact_text
  exact exact_both exact_signed64 exact_signed64

theorem TxResult.exact_codec : TxResult.codec.Exact := by
  refine exact_via ?_ fun _ _ _ => rfl
  apply exact_both exact_word64
  apply exact_both exact_word32
  exact exact_both Tx.exact_codec DeliverResponse.exact_codec

/-! The lengths that a record counts. -/

def Tx.Storable (tx : Tx) : Prop := Countable tx.bytes.length

def Block.Storable (b : Block) : Prop :=
  Countable b.hash.length ∧ Countable (Utf8.encode b.chainId).length ∧
    Countable (Utf8.encode b.time).length ∧ Countable (Utf8.encode b.proposer).length ∧
    Countable b.txs.length ∧ ∀ tx ∈ b.txs, tx.Storable

def DeliverResponse.Storable (r : DeliverResponse) : Prop :=
  (∀ error ∈ r.error, Countable (Utf8.encode error).length) ∧ Countable r.data.length ∧
    Countable (Utf8.encode r.log).length ∧ Countable (Utf8.encode r.info).length

def TxResult.Storable (r : TxResult) : Prop := r.tx.Storable ∧ r.response.Storable

theorem Tx.isSome_write (tx : Tx) : (Tx.codec.write tx).isSome ↔ tx.Storable :=
  isSome_write_blob tx.bytes

theorem Block.isSome_write (b : Block) : (Block.codec.write b).isSome ↔ b.Storable := by
  simp only [Block.codec, via, isSome_write_both, Bool.and_eq_true, isSome_write_word64,
    isSome_write_blob, isSome_write_text, isSome_write_list, Tx.isSome_write, Block.Storable, true_and]

theorem DeliverResponse.isSome_write (r : DeliverResponse) :
    (DeliverResponse.codec.write r).isSome ↔ r.Storable := by
  simp only [DeliverResponse.codec, via, isSome_write_both, Bool.and_eq_true, isSome_write_option,
    isSome_write_blob, isSome_write_text, isSome_write_signed64, DeliverResponse.Storable, and_true]

theorem TxResult.isSome_write (r : TxResult) : (TxResult.codec.write r).isSome ↔ r.Storable := by
  simp only [TxResult.codec, via, isSome_write_both, Bool.and_eq_true, isSome_write_word64,
    isSome_write_word32, Tx.isSome_write, DeliverResponse.isSome_write, TxResult.Storable, true_and]

/-- The records of transactions, blocks, responses and results are canonical, and a value has one
exactly when its lengths can be counted. -/
theorem canonical_records :
    (Tx.codec.Canonical ∧ ∀ tx, (Tx.codec.write tx).isSome ↔ tx.Storable) ∧
    (Block.codec.Canonical ∧ ∀ b, (Block.codec.write b).isSome ↔ b.Storable) ∧
    (DeliverResponse.codec.Canonical ∧
      ∀ r, (DeliverResponse.codec.write r).isSome ↔ r.Storable) ∧
    (TxResult.codec.Canonical ∧ ∀ r, (TxResult.codec.write r).isSome ↔ r.Storable) := by
  constructor
  · exact ⟨canonical Tx.faithful_codec Tx.exact_codec, Tx.isSome_write⟩
  constructor
  · exact ⟨canonical Block.faithful_codec Block.exact_codec, Block.isSome_write⟩
  constructor
  · exact ⟨canonical DeliverResponse.faithful_codec DeliverResponse.exact_codec,
      DeliverResponse.isSome_write⟩
  · exact ⟨canonical TxResult.faithful_codec TxResult.exact_codec, TxResult.isSome_write⟩

end TokenIndexer
