import TokenIndexer.Proofs.Json.Members
import TokenIndexer.Proofs.Node.Integer

/-!
Reading a block undoes the node's encoding of it, and whatever is read as a block has as many transactions as
the node listed.
-/

namespace TokenIndexer

open Json

namespace Reply

variable {b : Block} {hash : Bytes} {txs : List Tx} {proposer : String} {value : Json}

/-! ### A block as the node writes it -/

/-- The hash as a member of its record. An empty one may be null or left out. -/
inductive HashForm : Bytes → List (String × Json) → Prop where
  | given {hash : Bytes} : HashForm hash [("hash", text (Base64.text hash))]
  | null : HashForm [] [("hash", .null)]
  | absent : HashForm [] []

def txJson (tx : Tx) : Json := text (Base64.text tx.bytes)

/-- The transactions as a member of the block's data. Null or no such member at all stand for none. -/
inductive TxsForm : List Tx → List (String × Json) → Prop where
  | listed {txs : List Tx} : TxsForm txs [("txs", .array (txs.map txJson))]
  | null : TxsForm [] [("txs", .null)]
  | absent : TxsForm [] []

inductive ProposerForm : String → List (String × Json) → Prop where
  | given {proposer : String} : ProposerForm proposer [("proposer_address", text proposer)]
  | absent : ProposerForm "" []

def IdentityForm (hash : Bytes) (value : Json) : Prop :=
  ∃ id members, HashForm hash members ∧ Record ["hash"] members id ∧
    Record ["block_id"] [("block_id", id)] value

def HeaderForm (b : Block) (value : Json) : Prop :=
  ∃ members, ProposerForm b.proposer members ∧
    Record ["chain_id", "height", "time", "proposer_address"] (("chain_id", text b.chainId) ::
      ("height", text b.height.text) :: ("time", text b.time) :: members) value

def BodyForm (b : Block) (value : Json) : Prop :=
  ∃ header data members, HeaderForm b header ∧ TxsForm b.txs members ∧ Record ["txs"] members data ∧
    Record ["header", "data"] [("header", header), ("data", data)] value

def BlockForm (b : Block) (value : Json) : Prop :=
  ∃ identity body, IdentityForm b.hash identity ∧ BodyForm b body ∧
    Record ["block_meta", "block"] [("block_meta", identity), ("block", body)] value

def ofBlock (b : Block) : Json :=
  obj [("block_meta", obj [("block_id", obj [("hash", text (Base64.text b.hash))])]),
    ("block", obj [
      ("header", obj [("chain_id", text b.chainId), ("height", text b.height.text), ("time", text b.time),
        ("proposer_address", text b.proposer)]),
      ("data", obj [("txs", .array (b.txs.map txJson))])])]

theorem blockForm_ofBlock (b : Block) : BlockForm b (ofBlock b) := by
  have identity : IdentityForm b.hash (obj [("block_id", obj [("hash", text (Base64.text b.hash))])]) :=
    ⟨_, _, .given, record_obj .., record_obj ..⟩
  have header : HeaderForm b (obj [("chain_id", text b.chainId), ("height", text b.height.text),
      ("time", text b.time), ("proposer_address", text b.proposer)]) := ⟨_, .given, record_obj ..⟩
  have body : BodyForm b (obj [("header", obj [("chain_id", text b.chainId), ("height", text b.height.text),
      ("time", text b.time), ("proposer_address", text b.proposer)]),
      ("data", obj [("txs", .array (b.txs.map txJson))])]) :=
    ⟨_, _, _, header, .listed, record_obj .., record_obj ..⟩
  exact ⟨_, _, identity, body, record_obj ..⟩

theorem writable_ofBlock (b : Block) : (ofBlock b).Writable := by
  have txs : (Json.array (b.txs.map txJson)).Writable := by
    apply writable_array
    intro item listed
    obtain ⟨tx, -, rfl⟩ := List.mem_map.1 listed
    exact writable_text _
  apply writable_obj
  simp [writable_obj, writable_text, txs]

/-! ### Reading it -/

theorem IdentityForm.read (form : IdentityForm hash value) :
    ∃ spelled, hash? value = some spelled ∧ spelled.getD "" = Base64.text hash := by
  obtain ⟨id, members, form, inner, outer⟩ := form
  have inside : ∃ slot spelled, id.slots? ["hash"] = some [slot] ∧ nullable? text? slot = some spelled ∧
      spelled.getD "" = Base64.text hash := by
    rw [inner.slots?]
    cases form with
    | given => exact ⟨_, some _, slots?_obj rfl (by decide), rfl, rfl⟩
    | null => exact ⟨_, none, slots?_obj rfl (by decide), rfl, rfl⟩
    | absent => exact ⟨.missing, none, rfl, rfl, rfl⟩
  obtain ⟨slot, spelled, slots, read, same⟩ := inside
  have around : value.slots? ["block_id"] = some [.given id] := outer.given rfl (by decide)
  refine ⟨spelled, field?_bind_eq_some_iff.2 ⟨_, around, ?_⟩, same⟩
  exact field?_bind_eq_some_iff.2 ⟨slot, slots, read⟩

theorem height?_text (h : Height) : height? (text h.text) = some h := readsWhole_height.digits h

theorem HeaderForm.read (form : HeaderForm b value) :
    header? value = some ⟨b.chainId, b.height, b.time, b.proposer⟩ := by
  obtain ⟨members, form, whole⟩ := form
  have inside : ∃ last, value.slots? ["chain_id", "height", "time", "proposer_address"] =
      some [.given (text b.chainId), .given (text b.height.text), .given (text b.time), last] ∧
      last.defaulted? text? "" = some b.proposer := by
    rw [whole.slots?]
    generalize b.proposer = proposer at form
    cases form with
    | given => exact ⟨_, slots?_obj rfl (by decide), rfl⟩
    | absent => exact ⟨.missing, rfl, rfl⟩
  obtain ⟨last, slots, read⟩ := inside
  exact header?_eq_some_iff.2 ⟨_, _, _, _, slots, rfl, height?_text b.height, rfl, read⟩

theorem BodyForm.read (form : BodyForm b value) :
    ∃ spelled, body? value = some (⟨b.chainId, b.height, b.time, b.proposer⟩, spelled) ∧
      spelled.getD [] = b.txs.map fun tx => Base64.text tx.bytes := by
  obtain ⟨header, data, members, headerForm, form, inner, outer⟩ := form
  have inside : ∃ slot spelled, data.slots? ["txs"] = some [slot] ∧
      nullable? (list? text?) slot = some spelled ∧
      spelled.getD [] = b.txs.map fun tx => Base64.text tx.bytes := by
    rw [inner.slots?]
    generalize b.txs = txs at form
    cases form with
    | listed =>
      have read : (Json.array (txs.map txJson)).list? text? = some (txs.map fun tx => Base64.text tx.bytes) := by
        rw [list?, items?, Option.bind_some, List.mapM_map]
        exact mapM_eq_pure fun tx _ => rfl
      refine ⟨_, some _, slots?_obj rfl (by decide), ?_, rfl⟩
      change ((Json.array (txs.map txJson)).list? text?).map some = _
      rw [read, Option.map_some]
    | null => exact ⟨_, none, slots?_obj rfl (by decide), rfl, rfl⟩
    | absent => exact ⟨.missing, none, rfl, rfl, rfl⟩
  obtain ⟨slot, spelled, slots, read, same⟩ := inside
  have around : value.slots? ["header", "data"] = some [.given header, .given data] :=
    outer.given rfl (by decide)
  refine ⟨spelled, body?_eq_some_iff.2 ⟨_, _, around, headerForm.read, ?_⟩, same⟩
  exact field?_bind_eq_some_iff.2 ⟨slot, slots, read⟩

theorem BlockForm.read (form : BlockForm b value) : block value = .ok b := by
  obtain ⟨identity, body, identityForm, bodyForm, whole⟩ := form
  obtain ⟨hash, hashRead, hashSame⟩ := identityForm.read
  obtain ⟨txs, bodyRead, txsSame⟩ := bodyForm.read
  have slots : value.slots? ["block_meta", "block"] = some [.given identity, .given body] :=
    whole.given rfl (by decide)
  have raw : rawBlock? value = some ⟨hash, ⟨b.chainId, b.height, b.time, b.proposer⟩, txs⟩ :=
    rawBlock?_eq_some_iff.2 ⟨_, _, slots, hashRead, bodyRead⟩
  refine block_eq_ok_iff.2 ⟨_, raw, hashSame, ?_, rfl⟩
  rw [txsSame, mapM_eq_ok_iff]
  simp only [List.forall₂_map_left_iff, List.forall₂_map_right_iff, List.forall₂_same]
  intro tx _
  exact bytes_eq_ok_iff.2 rfl

/-! ### What was listed -/

def txsPath : List Place := [.field "block" 1, .field "data" 1, .field "txs" 0]

theorem listAt_of_body? {header : Header} {spelled : Option (List String)}
    (read : body? value = some (header, spelled)) :
    listAt [.field "data" 1, .field "txs" 0] value = (spelled.getD []).map text := by
  obtain ⟨first, slot, outer, -, dataRead⟩ := body?_eq_some_iff.1 read
  obtain ⟨data, rfl, listed⟩ := Slot.required?_eq_some_iff.1 dataRead
  obtain ⟨list, inner, listRead⟩ := field?_bind_eq_some_iff.1 listed
  have place : at? [.field "data" 1, .field "txs" 0] value = list.value? := by
    rw [at?_of_given outer rfl rfl, at?_of_slots? inner rfl rfl]
  have each := forall₂_of_nullable?_list? listRead
  rw [listAt, place]
  simp only [text?_eq_some_iff] at each
  rwa [← List.forall₂_eq_eq_eq, List.forall₂_map_right_iff]

/-- Each transaction stands in the list at its own place, and nothing else does. -/
theorem listAt_of_block (decoded : block value = .ok b) : listAt txsPath value = b.txs.map txJson := by
  obtain ⟨raw, rawRead, -, txsRead, -⟩ := block_eq_ok_iff.1 decoded
  obtain ⟨identity, slot, slots, -, bodyRead⟩ := rawBlock?_eq_some_iff.1 rawRead
  obtain ⟨body, rfl, bodyRead⟩ := Slot.required?_eq_some_iff.1 bodyRead
  have spelled : raw.txs.getD [] = b.txs.map fun tx => Base64.text tx.bytes := by
    rw [mapM_eq_ok_iff, List.forall₂_map_right_iff] at txsRead
    simp only [bytes_eq_ok_iff, Option.getD_some] at txsRead
    rwa [← List.forall₂_eq_eq_eq, List.forall₂_map_right_iff]
  calc
    listAt txsPath value = listAt [.field "data" 1, .field "txs" 0] body := by
      rw [listAt, listAt, txsPath, at?_of_given slots rfl rfl]
    _ = (raw.txs.getD []).map text := listAt_of_body? bodyRead
    _ = b.txs.map txJson := by
      rw [spelled, List.map_map]
      rfl

end Reply

open Reply

/-- A block is what its encodings are read as, however they are spaced and whatever stands beside it; and a block
that is read has just the transactions that were listed. -/
theorem Remote.block_undoes_encoding :
    (∀ b value, BlockForm b value →
      (∀ text, parse? text = some value → block (.result text) = .ok b) ∧
        (value.Writable → ∀ gap : Nat → Token.Gap, block (.result (value.spaced gap)) = .ok b)) ∧
    (∀ b (gap : Nat → Token.Gap), block (.result ((ofBlock b).spaced gap)) = .ok b) ∧
    (∀ text b, block (.result text) = .ok b → ∃ value, parse? text = some value ∧
      listAt txsPath value = b.txs.map txJson ∧ (listAt txsPath value).length = b.txs.length) ∧
    ∀ text value entry, parse? text = some value → entry ∈ listAt txsPath value →
      (∀ tx, entry ≠ txJson tx) → ∃ e, block (.result text) = .error e := by
  have read {b : Block} {text : Bytes} {value : Json} (form : BlockForm b value)
      (parsed : parse? text = some value) : block (.result text) = .ok b := by
    rw [block, result_of_parse? parsed]
    exact form.read
  refine ⟨?_, ?_, ?_, ?_⟩
  · intro b value form
    refine ⟨?_, ?_⟩
    · intro text parsed
      exact read form parsed
    · intro writable gap
      exact read form (parse?_spaced gap writable)
  · intro b gap
    exact read (blockForm_ofBlock b) (parse?_spaced gap (writable_ofBlock b))
  · intro text b decoded
    obtain ⟨value, parsed, decoded⟩ := parse?_of_bind_ok decoded
    have listed := listAt_of_block decoded
    exact ⟨value, parsed, listed, by rw [listed, List.length_map]⟩
  · intro text value entry parsed listed other
    cases outcome : block (.result text) with
    | error e => exact ⟨e, rfl⟩
    | ok b =>
      rw [block, result_of_parse? parsed] at outcome
      rw [listAt_of_block outcome] at listed
      obtain ⟨tx, -, same⟩ := List.mem_map.1 listed
      exact absurd same.symm (other tx)

/-- All members the other way round, with others among them, null for the hash and no proposer; and the same
block with a text in its list that is no base64. -/
theorem Remote.block_reversed :
    let whole (txs : List Json) := obj [("next", .null),
      ("block", obj [("data", obj [("txs", .array txs)]),
        ("header", obj [("num_txs", text "1"), ("time", text "now"), ("height", text "18446744073709551615"),
          ("chain_id", text "dev")])]),
      ("block_meta", obj [("header", obj []), ("block_id", obj [("parts", obj []), ("hash", .null)])])]
    let b : Block := ⟨.greatest, [], "dev", "now", "", [⟨[1, 2]⟩]⟩
    BlockForm b (whole [text "AQI="]) ∧ block (.result (whole [text "AQI="]).render) = .ok b ∧
      block (.result ((whole [text "AQI="]).spaced fun _ => ⟨[0x20, 0x0a], List.all_eq_true.1 rfl⟩)) = .ok b ∧
      (∃ value, parse? (whole [text "AQI="]).render = some value ∧
        listAt txsPath value = b.txs.map txJson ∧ (listAt txsPath value).length = 1) ∧
      ∃ e, block (.result (whole [text "AQI=", text "AQI"]).render) = .error e := by
  intro whole b
  have form : BlockForm b (whole [text "AQI="]) := by
    have identity : IdentityForm b.hash
        (obj [("header", obj []), ("block_id", obj [("parts", obj []), ("hash", .null)])]) :=
      ⟨_, _, .null, ⟨[("parts", obj [])], by simp, _, List.reverse_perm _, rfl⟩,
        ⟨[("header", obj [])], by simp, _, List.reverse_perm _, rfl⟩⟩
    have header : HeaderForm b (obj [("num_txs", text "1"), ("time", text "now"),
        ("height", text "18446744073709551615"), ("chain_id", text "dev")]) := by
      have digits : "18446744073709551615" = b.height.text := by decide +kernel
      rw [digits]
      exact ⟨[], .absent, [("num_txs", text "1")], by simp, _, List.reverse_perm _, rfl⟩
    have body : BodyForm b (obj [("data", obj [("txs", .array [text "AQI="])]),
        ("header", obj [("num_txs", text "1"), ("time", text "now"), ("height", text "18446744073709551615"),
          ("chain_id", text "dev")])]) :=
      ⟨_, _, _, header, .listed, record_obj .., [], by simp, _, List.reverse_perm _, rfl⟩
    exact ⟨_, _, identity, body, [("next", .null)], by simp, _, List.reverse_perm _, rfl⟩
  have parsed : parse? (whole [text "AQI="]).render = some (whole [text "AQI="]) :=
    parse?_render (by decide +kernel)
  have other : ∀ tx, text "AQI" ≠ txJson tx := by
    intro tx same
    have read := Base64.ofText?_eq_some_iff.2 (Option.some.inj (Json.string.inj same))
    cases read
  have decoded := (Remote.block_undoes_encoding.1 b _ form).1 _ parsed
  refine ⟨form, decoded, ?_, ?_, ?_⟩
  · exact (Remote.block_undoes_encoding.1 b _ form).2 (by decide +kernel) _
  · exact Remote.block_undoes_encoding.2.2.1 _ b decoded
  · apply Remote.block_undoes_encoding.2.2.2 _ (whole [text "AQI=", text "AQI"]) (text "AQI")
    · exact parse?_render (by decide +kernel)
    · exact List.mem_cons_of_mem _ List.mem_cons_self
    · exact other

end TokenIndexer
