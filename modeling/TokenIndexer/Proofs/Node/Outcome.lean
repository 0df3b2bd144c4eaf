import TokenIndexer.Proofs.Ingest.Completeness
import TokenIndexer.Proofs.Json.Kept
import TokenIndexer.Proofs.Node.Integer

/-! From the node's list of outcomes to the results of transactions, entry by entry. -/

namespace TokenIndexer

open Json

namespace Reply

variable {entry value : Json} {raw : RawDelivery} {response : DeliverResponse}

/-! ### One entry -/

def errorPath : List Place := [.field "ResponseBase" 0, .field "Error" 0]

def dataPath : List Place := [.field "ResponseBase" 0, .field "Data" 1]

def logPath : List Place := [.field "ResponseBase" 0, .field "Log" 2]

def infoPath : List Place := [.field "ResponseBase" 0, .field "Info" 3]

/-- Bytes in base64 where null and nothing at all stand for none. -/
inductive HoldsBytes : Option Json → Bytes → Prop where
  | missing : HoldsBytes none []
  | null : HoldsBytes (some .null) []
  | given (content : Bytes) : HoldsBytes (some (text (Base64.text content))) content

structure Delivers (entry : Json) (response : DeliverResponse) : Prop where
  succeeded : response.succeeded = true ↔ ∀ error, entry.at? errorPath = some error → error.StandsForNull
  data : HoldsBytes (entry.at? dataPath) response.data
  log : (entry.at? logPath).getD (text "") = text response.log
  info : (entry.at? infoPath).getD (text "") = text response.info
  wanted : ∃ field, entry.at? [.field "GasWanted" 1] = some field ∧ field.Denotes response.gasWanted.toInt
  used : ∃ field, entry.at? [.field "GasUsed" 2] = some field ∧ field.Denotes response.gasUsed.toInt

theorem errorText?_eq_none_iff {error : Json} : errorText? error = none ↔ error = .null := by
  cases error with
  | object members =>
    rw [errorText?]
    split <;> simp
  | _ => simp [errorText?]

theorem error_of_nullable? {depth : Nat} {slot : Slot Json} {error : Option Json}
    (read : nullable? (kept? depth) slot = some error) :
    error.bind errorText? = none ↔ ∀ value, slot.value? = some value → value.StandsForNull := by
  rcases nullable?_cases read with ⟨rfl, nothing⟩ | ⟨value, kept, rfl, -, keeps, rfl⟩
  · apply iff_of_true rfl
    intro value there
    rw [nothing value there]
    exact .null
  · rw [Option.bind_some, errorText?_eq_none_iff, kept?_null_iff keeps]
    constructor
    · intro stands value there
      cases there
      exact stands
    · intro stands
      exact stands value rfl

theorem holdsBytes_of_nullable? {slot : Slot Json} {spelled : Option String} {content : Bytes}
    (read : nullable? text? slot = some spelled) (same : spelled.getD "" = Base64.text content) :
    HoldsBytes slot.value? content := by
  rcases nullable?_cases read with ⟨rfl, nothing⟩ | ⟨value, s, rfl, -, spells, rfl⟩
  · have blank : some [] = some content := Base64.ofText?_eq_some_iff.2 same
    cases blank
    cases there : slot.value? with
    | none => exact .missing
    | some value =>
      rw [nothing value there]
      exact .null
  · rw [text?_eq_some_iff.1 spells, show s = Base64.text content from same]
    exact .given content

theorem text_of_defaulted? {slot : Slot Json} {s : String} (read : slot.defaulted? text? "" = some s) :
    slot.value?.getD (text "") = text s := by
  rw [Slot.defaulted?_eq] at read
  cases there : slot.value? with
  | none =>
    rw [there] at read
    cases read
    rfl
  | some value =>
    rw [there] at read
    exact text?_eq_some_iff.1 read

theorem delivers_of_read (read : delivery? entry = some raw) (given : delivered raw = .ok response) :
    Delivers entry response := by
  obtain ⟨outcome, wanted, used, slots, outcomeRead, wantedRead, usedRead⟩ := delivery?_eq_some_iff.1 read
  obtain ⟨base, rfl, baseRead⟩ := Slot.required?_eq_some_iff.1 outcomeRead
  obtain ⟨wantedField, rfl, wantedRead⟩ := Slot.required?_eq_some_iff.1 wantedRead
  obtain ⟨usedField, rfl, usedRead⟩ := Slot.required?_eq_some_iff.1 usedRead
  obtain ⟨error, data, log, info, inner, errorRead, dataRead, logRead, infoRead⟩ :=
    outcome?_eq_some_iff.1 baseRead
  obtain ⟨dataSame, errorSame, logSame, infoSame, wantedSame, usedSame⟩ := delivered_eq_ok_iff.1 given
  constructor
  · rw [errorPath, at?_of_given slots rfl rfl, at?_of_slots? inner rfl rfl, DeliverResponse.succeeded,
      Option.isNone_iff_eq_none, ← errorSame]
    exact error_of_nullable? errorRead
  · rw [dataPath, at?_of_given slots rfl rfl, at?_of_slots? inner rfl rfl]
    exact holdsBytes_of_nullable? dataRead dataSame
  · rw [logPath, at?_of_given slots rfl rfl, at?_of_slots? inner rfl rfl, ← logSame]
    exact text_of_defaulted? logRead
  · rw [infoPath, at?_of_given slots rfl rfl, at?_of_slots? inner rfl rfl, ← infoSame]
    exact text_of_defaulted? infoRead
  · rw [wantedSame] at wantedRead
    exact ⟨wantedField, at?_of_given slots rfl rfl [], readsWhole_gas.exact _ _ wantedRead⟩
  · rw [usedSame] at usedRead
    exact ⟨usedField, at?_of_given slots rfl rfl [], readsWhole_gas.exact _ _ usedRead⟩

/-! ### The whole list -/

/-- The entries become outcomes one by one, each at its own place. -/
theorem delivers_of_blockResults {results : BlockResults} (decoded : blockResults value = .ok results) :
    List.Forall₂ Delivers (listAt entries value) results.responses := by
  obtain ⟨raws, read, all⟩ := blockResults_eq_ok_iff.1 decoded
  obtain ⟨height, outcomes, slots, -, outcomesRead⟩ := rawResults?_eq_some_iff.1 read
  obtain ⟨inner, rfl, innerRead⟩ := Slot.required?_eq_some_iff.1 outcomesRead
  obtain ⟨slot, list, given, listRead, rfl⟩ := deliveries?_eq_some_iff.1 innerRead
  have place : value.at? entries = slot.value? := by
    rw [entries, at?_of_given slots rfl rfl, at?_of_slots? given rfl rfl]
  have each := forall₂_of_nullable?_list? listRead
  rw [listAt, place]
  apply forall₂_trans _ each (mapM_eq_ok_iff.1 all)
  intro entry raw response understood given
  exact delivers_of_read understood given

theorem height_of_blockResults {results : BlockResults} (decoded : blockResults value = .ok results) :
    ∃ field, value.at? heightOfResults = some field ∧ field.Denotes (ofHeight results.height) := by
  obtain ⟨raws, read, -⟩ := blockResults_eq_ok_iff.1 decoded
  obtain ⟨height, outcomes, slots, heightRead, -⟩ := rawResults?_eq_some_iff.1 read
  obtain ⟨field, rfl, understood⟩ := Slot.required?_eq_some_iff.1 heightRead
  exact ⟨field, at?_of_given slots rfl rfl [], readsWhole_height.exact _ _ understood⟩

end Reply

namespace BlockResults

theorem getElem?_pairFrom {h : Height} {index i : Nat} {txs : List Tx} {responses : List DeliverResponse}
    {result : TxResult} (there : (pairFrom h index txs responses)[i]? = some result) :
    result.height = h ∧ result.index = UInt32.ofNat (index + i) ∧ txs[i]? = some result.tx ∧
      responses[i]? = some result.response := by
  induction txs generalizing index i responses with
  | nil => simp [pairFrom] at there
  | cons tx txs ih =>
    cases responses with
    | nil => simp [pairFrom] at there
    | cons response responses =>
      rw [pairFrom] at there
      cases i with
      | zero =>
        cases there
        exact ⟨rfl, rfl, rfl, rfl⟩
      | succ i =>
        rw [List.getElem?_cons_succ] at there
        rw [List.getElem?_cons_succ, List.getElem?_cons_succ, show index + (i + 1) = index + 1 + i by omega]
        exact ih there

theorem length_pairFrom (h : Height) (index : Nat) {txs : List Tx} {responses : List DeliverResponse}
    (same : responses.length = txs.length) : (pairFrom h index txs responses).length = txs.length := by
  rw [← List.length_map (fun result => result.tx), (map_pairFrom h index same).1]

end BlockResults

open Reply

/-- The results of a block's transactions: each has the transaction at its place and what the entry at its place
says, and there are as many as transactions. -/
structure Attributed (listed : List Json) (block : Block) (all : List TxResult) : Prop where
  length : all.length = block.txs.length
  height : ∀ result ∈ all, result.height = block.height
  index : ∀ (i : Nat) (result : TxResult), all[i]? = some result → i < 2 ^ 32 → result.index.toNat = i
  tx : ∀ (i : Nat) (result : TxResult), all[i]? = some result → block.txs[i]? = some result.tx
  entry : ∀ (i : Nat) (result : TxResult), all[i]? = some result →
    ∃ entry, listed[i]? = some entry ∧ Delivers entry result.response

theorem attributed_of_pair {listed : List Json} {results : BlockResults} {block : Block}
    {all : List TxResult} (delivers : List.Forall₂ Delivers listed results.responses)
    (paired : results.pair block = .ok all) : Attributed listed block all := by
  obtain ⟨-, count, rfl⟩ := BlockResults.pair_eq_ok_iff.1 paired
  constructor
  · exact BlockResults.length_pairFrom block.height 0 count
  · exact BlockResults.height_of_mem_pair paired
  · intro i result there small
    have index := (BlockResults.getElem?_pairFrom there).2.1
    rw [Nat.zero_add] at index
    rw [index]
    exact UInt32.toNat_ofNat_of_lt' small
  · intro i result there
    exact (BlockResults.getElem?_pairFrom there).2.2.1
  · intro i result there
    exact getElem?_of_forall₂ delivers (BlockResults.getElem?_pairFrom there).2.2.2

/-- The outcomes that a node lists go to the transactions of a block one by one or not at all. -/
theorem Remote.outcomes_attributed :
    (∀ text results, blockResults (.result text) = .ok results → ∃ value, parse? text = some value ∧
      (∃ field, value.at? heightOfResults = some field ∧ field.Denotes (ofHeight results.height)) ∧
      List.Forall₂ Delivers (listAt entries value) results.responses ∧
      ∀ block : Block,
        ((∃ all, results.pair block = .ok all) ↔
          results.height = block.height ∧ (listAt entries value).length = block.txs.length) ∧
        (results.height ≠ block.height →
          results.pair block = .error (.heightMismatch block.height results.height)) ∧
        (results.height = block.height → (listAt entries value).length ≠ block.txs.length →
          results.pair block = .error
            (.decode (.resultCount block.height block.txs.length (listAt entries value).length))) ∧
        ∀ all, results.pair block = .ok all → Attributed (listAt entries value) block all) ∧
    ∀ text value entry, parse? text = some value → entry ∈ listAt entries value →
      (∀ content, ¬ HoldsBytes (entry.at? dataPath) content) → ∃ e, blockResults (.result text) = .error e := by
  refine ⟨?_, ?_⟩
  · intro text results decoded
    obtain ⟨value, parsed, decoded⟩ := parse?_of_bind_ok decoded
    have delivers := delivers_of_blockResults decoded
    refine ⟨value, parsed, height_of_blockResults decoded, delivers, ?_⟩
    intro block
    rw [delivers.length_eq]
    refine ⟨?_, ?_, ?_, ?_⟩
    · constructor
      · rintro ⟨all, paired⟩
        obtain ⟨height, count, -⟩ := BlockResults.pair_eq_ok_iff.1 paired
        exact ⟨height, count⟩
      · rintro ⟨height, count⟩
        exact ⟨_, BlockResults.pair_eq_ok_iff.2 ⟨height, count, rfl⟩⟩
    · intro differs
      rw [BlockResults.pair, if_pos differs]
    · intro same differs
      rw [BlockResults.pair, if_neg (not_not.2 same), if_pos differs]
    · intro all paired
      exact attributed_of_pair delivers paired
  · intro text value entry parsed listed bad
    cases outcome : blockResults (.result text) with
    | error e => exact ⟨e, rfl⟩
    | ok results =>
      rw [blockResults, result_of_parse? parsed] at outcome
      obtain ⟨response, -, delivers⟩ := exists_of_forall₂ (delivers_of_blockResults outcome).flip listed
      exact absurd delivers.data (bad response.data)

/-- A success and a failure, whose error is false; and the same list with a text that is no base64. -/
theorem Remote.success_and_failure :
    let entry (error data : Json) := obj [("ResponseBase", obj [("Error", error), ("Data", data)]),
      ("GasWanted", text "10"), ("GasUsed", nat 3)]
    let value (data : Json) := obj [("height", text "42"),
      ("results", obj [("deliver_tx", .array [entry .null (text "b2s="), entry (.bool false) data])])]
    let results : BlockResults :=
      ⟨42, [⟨none, [0x6f, 0x6b], "", "", 10, 3⟩, ⟨some "false", [], "", "", 10, 3⟩]⟩
    let block : Block := ⟨42, [], "dev", "now", "", [⟨[1]⟩, ⟨[2]⟩]⟩
    blockResults (.result (value .null).render) = .ok results ∧
      (∃ all, results.pair block = .ok all ∧ ∃ listed, Attributed listed block all) ∧
      results.pair { block with height := 43 } = .error (.heightMismatch 43 42) ∧
      ∃ e, blockResults (.result (value (text "b2s")).render) = .error e := by
  intro entry value results block
  have decoded : blockResults (.result (value .null).render) = .ok results := by decide +kernel
  obtain ⟨_, -, -, -, each⟩ := Remote.outcomes_attributed.1 _ _ decoded
  have paired : results.pair block = .ok [⟨42, 0, ⟨[1]⟩, ⟨none, [0x6f, 0x6b], "", "", 10, 3⟩⟩,
      ⟨42, 1, ⟨[2]⟩, ⟨some "false", [], "", "", 10, 3⟩⟩] := by
    decide +kernel
  have bad (content : Bytes) : ¬ HoldsBytes (some (text "b2s")) content := by
    intro holds
    generalize same : text "b2s" = field at holds
    cases holds with
    | null => cases same
    | given =>
      have read := Base64.ofText?_eq_some_iff.2 (Option.some.inj (Json.string.inj same))
      cases read
  refine ⟨decoded, ⟨_, paired, _, (each block).2.2.2 _ paired⟩, ?_, ?_⟩
  · exact (each { block with height := 43 }).2.1 (by decide)
  · apply Remote.outcomes_attributed.2 _ (value (text "b2s")) (entry (.bool false) (text "b2s"))
    · exact parse?_render (by decide +kernel)
    · exact List.mem_cons_of_mem _ List.mem_cons_self
    · exact bad

/-- An error that is not null, but an object that stands for it, is no error. -/
theorem Remote.error_standing_for_null :
    let error := obj [(verbatimKey, text "null")]
    let value := obj [("height", text "1"), ("results", obj [("deliver_tx", .array [obj [
      ("ResponseBase", obj [("Error", error), ("Data", .null)]), ("GasWanted", text "0"), ("GasUsed", text "0")]])])]
    parse? value.render = some value ∧ value.at? (entries ++ .item 0 :: errorPath) = some error ∧
      error ≠ .null ∧ blockResults (.result value.render) = .ok ⟨1, [⟨none, [], "", "", 0, 0⟩]⟩ ∧
      (DeliverResponse.mk none [] "" "" 0 0).succeeded = true := by
  intro error value
  refine ⟨parse?_render (by decide +kernel), rfl, Json.noConfusion, ?_, rfl⟩
  decide +kernel

end TokenIndexer
