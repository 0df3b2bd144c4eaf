import TokenIndexer.Node.Remote
import TokenIndexer.Proofs.Bytes
import TokenIndexer.Proofs.Json.Place

namespace TokenIndexer

variable {α : Type}

namespace Reply

open Json

variable {value : Json}

theorem field?_eq_some_iff {name : String} {slot : Slot Json} :
    field? name value = some slot ↔ value.slots? [name] = some [slot] := by
  unfold field?
  constructor
  · intro read
    obtain ⟨slots, given, read⟩ := Option.bind_eq_some_iff.1 read
    split at read
    · cases read
      exact given
    · cases read
  · intro given
    rw [given]
    rfl

theorem field?_bind_eq_some_iff {name : String} {read : Slot Json → Option α} {a : α} :
    ((field? name value).bind read) = some a ↔ ∃ slot, value.slots? [name] = some [slot] ∧ read slot = some a := by
  simp only [Option.bind_eq_some_iff, field?_eq_some_iff]

theorem header?_eq_some_iff {header : Header} :
    header? value = some header ↔ ∃ chainId height time proposer,
      value.slots? ["chain_id", "height", "time", "proposer_address"] =
        some [chainId, height, time, proposer] ∧
      chainId.required? text? = some header.chainId ∧ height.required? height? = some header.height ∧
      time.required? text? = some header.time ∧
      proposer.defaulted? text? "" = some header.proposer := by
  unfold header?
  constructor
  · intro read
    obtain ⟨slots, given, read⟩ := Option.bind_eq_some_iff.1 read
    split at read
    · simp only [Option.bind_eq_bind, Option.bind_eq_some_iff, Option.some.injEq] at read
      obtain ⟨_, chainIdRead, _, heightRead, _, timeRead, _, proposerRead, rfl⟩ := read
      exact ⟨_, _, _, _, given, chainIdRead, heightRead, timeRead, proposerRead⟩
    · cases read
  · rintro ⟨_, _, _, _, given, chainIdRead, heightRead, timeRead, proposerRead⟩
    simp [given, chainIdRead, heightRead, timeRead, proposerRead]

def listed? (data : Json) : Option (Option (List String)) :=
  (field? "txs" data).bind (nullable? (list? text?))

theorem body?_eq_some_iff {header : Header} {txs : Option (List String)} :
    body? value = some (header, txs) ↔ ∃ first data, value.slots? ["header", "data"] = some [first, data] ∧
      first.required? header? = some header ∧ data.required? listed? = some txs := by
  unfold body?
  constructor
  · intro read
    obtain ⟨slots, given, read⟩ := Option.bind_eq_some_iff.1 read
    split at read
    · simp only [Option.bind_eq_bind, Option.bind_eq_some_iff, Option.some.injEq, Prod.mk.injEq] at read
      obtain ⟨_, headerRead, _, dataRead, rfl, rfl⟩ := read
      exact ⟨_, _, given, headerRead, dataRead⟩
    · cases read
  · rintro ⟨_, _, given, headerRead, dataRead⟩
    have dataRead' := dataRead
    unfold listed? at dataRead'
    simp [given, headerRead, dataRead']

theorem rawBlock?_eq_some_iff {raw : RawBlock} :
    rawBlock? value = some raw ↔ ∃ identity content,
      value.slots? ["block_meta", "block"] = some [identity, content] ∧
      identity.required? hash? = some raw.hash ∧ content.required? body? = some (raw.header, raw.txs) := by
  unfold rawBlock?
  constructor
  · intro read
    obtain ⟨slots, given, read⟩ := Option.bind_eq_some_iff.1 read
    split at read
    · simp only [Option.bind_eq_bind, Option.bind_eq_some_iff, Option.some.injEq, Prod.exists] at read
      obtain ⟨_, hashRead, _, _, bodyRead, rfl⟩ := read
      exact ⟨_, _, given, hashRead, bodyRead⟩
    · cases read
  · rintro ⟨_, _, given, hashRead, bodyRead⟩
    simp [given, hashRead, bodyRead]

theorem outcome?_eq_some_iff {depth : Nat} {outcome : Outcome} :
    outcome? depth value = some outcome ↔ ∃ error data log info,
      value.slots? ["Error", "Data", "Log", "Info"] = some [error, data, log, info] ∧
      nullable? (kept? (depthLimit - depth - 1)) error = some outcome.error ∧
      nullable? text? data = some outcome.data ∧ log.defaulted? text? "" = some outcome.log ∧
      info.defaulted? text? "" = some outcome.info := by
  unfold outcome?
  constructor
  · intro read
    obtain ⟨slots, given, read⟩ := Option.bind_eq_some_iff.1 read
    split at read
    · simp only [Option.bind_eq_bind, Option.bind_eq_some_iff, Option.some.injEq] at read
      obtain ⟨_, errorRead, _, dataRead, _, logRead, _, infoRead, rfl⟩ := read
      exact ⟨_, _, _, _, given, errorRead, dataRead, logRead, infoRead⟩
    · cases read
  · rintro ⟨_, _, _, _, given, errorRead, dataRead, logRead, infoRead⟩
    simp [given, errorRead, dataRead, logRead, infoRead]

theorem delivery?_eq_some_iff {raw : RawDelivery} :
    delivery? value = some raw ↔ ∃ outcome wanted used,
      value.slots? ["ResponseBase", "GasWanted", "GasUsed"] = some [outcome, wanted, used] ∧
      outcome.required? (outcome? 4) = some raw.outcome ∧ wanted.required? gas? = some raw.gasWanted ∧
      used.required? gas? = some raw.gasUsed := by
  unfold delivery?
  constructor
  · intro read
    obtain ⟨slots, given, read⟩ := Option.bind_eq_some_iff.1 read
    split at read
    · simp only [Option.bind_eq_bind, Option.bind_eq_some_iff, Option.some.injEq] at read
      obtain ⟨_, outcomeRead, _, wantedRead, _, usedRead, rfl⟩ := read
      exact ⟨_, _, _, given, outcomeRead, wantedRead, usedRead⟩
    · cases read
  · rintro ⟨_, _, _, given, outcomeRead, wantedRead, usedRead⟩
    simp [given, outcomeRead, wantedRead, usedRead]

theorem deliveries?_eq_some_iff {raws : List RawDelivery} :
    deliveries? value = some raws ↔ ∃ slot list, value.slots? ["deliver_tx"] = some [slot] ∧
      nullable? (list? delivery?) slot = some list ∧ list.getD [] = raws := by
  unfold deliveries?
  simp only [Option.bind_eq_bind, Option.bind_eq_some_iff, field?_eq_some_iff, Option.pure_def,
    Option.some.injEq]
  constructor
  · rintro ⟨slot, given, list, read, rfl⟩
    exact ⟨slot, list, given, read, rfl⟩
  · rintro ⟨slot, list, given, read, rfl⟩
    exact ⟨slot, given, list, read, rfl⟩

theorem rawResults?_eq_some_iff {height : Height} {raws : List RawDelivery} :
    rawResults? value = some (height, raws) ↔ ∃ first results,
      value.slots? ["height", "results"] = some [first, results] ∧
      first.required? height? = some height ∧ results.required? deliveries? = some raws := by
  unfold rawResults?
  constructor
  · intro read
    obtain ⟨slots, given, read⟩ := Option.bind_eq_some_iff.1 read
    split at read
    · simp only [Option.bind_eq_bind, Option.bind_eq_some_iff, Option.some.injEq, Prod.mk.injEq] at read
      obtain ⟨_, heightRead, _, resultsRead, rfl, rfl⟩ := read
      exact ⟨_, _, given, heightRead, resultsRead⟩
    · cases read
  · rintro ⟨_, _, given, heightRead, resultsRead⟩
    simp [given, heightRead, resultsRead]

/-! ### Whole answers -/

theorem shaped_eq_ok_iff {read : Option α} {a : α} : shaped read = .ok a ↔ read = some a := by
  cases read <;> simp [shaped]

/-- No text at all is read as the empty one. -/
theorem bytes_eq_ok_iff {field : String} {spelled : Option String} {content : Bytes} :
    bytes field spelled = .ok content ↔ spelled.getD "" = Base64.text content := by
  have read : bytes field spelled = .ok content ↔ Base64.ofText? (spelled.getD "") = some content := by
    cases spelled with
    | none =>
      change Except.ok [] = Except.ok content ↔ some [] = some content
      rw [Except.ok.injEq, Option.some.injEq]
    | some spelled =>
      rw [bytes, Option.getD_some]
      cases Base64.ofText? spelled <;> simp
  rw [read, Base64.ofText?_eq_some_iff]

theorem block_eq_ok_iff {b : Block} :
    block value = .ok b ↔ ∃ raw, rawBlock? value = some raw ∧ raw.hash.getD "" = Base64.text b.hash ∧
      (raw.txs.getD []).mapM (fun text => bytes "block.data.txs" (some text)) = .ok (b.txs.map Tx.bytes) ∧
      raw.header = ⟨b.chainId, b.height, b.time, b.proposer⟩ := by
  constructor
  · intro decoded
    obtain ⟨raw, read, decoded⟩ := exists_of_bind_ok decoded
    obtain ⟨hash, hashRead, decoded⟩ := exists_of_bind_ok decoded
    obtain ⟨txs, txsRead, decoded⟩ := exists_of_bind_ok decoded
    cases decoded
    have same : (txs.map Tx.mk).map Tx.bytes = txs := by simp [Function.comp_def]
    refine ⟨raw, shaped_eq_ok_iff.1 read, bytes_eq_ok_iff.1 hashRead, ?_, rfl⟩
    rw [txsRead, same]
  · rintro ⟨raw, read, hashRead, txsRead, header⟩
    have same : (b.txs.map Tx.bytes).map Tx.mk = b.txs := by simp [Function.comp_def]
    simp only [block, shaped_eq_ok_iff.2 read, bytes_eq_ok_iff.2 hashRead, txsRead, header, bind, Except.bind,
      pure, Except.pure, same]

theorem delivered_eq_ok_iff {raw : RawDelivery} {response : DeliverResponse} :
    delivered raw = .ok response ↔ raw.outcome.data.getD "" = Base64.text response.data ∧
      raw.outcome.error.bind errorText? = response.error ∧ raw.outcome.log = response.log ∧
      raw.outcome.info = response.info ∧ raw.gasWanted = response.gasWanted ∧
      raw.gasUsed = response.gasUsed := by
  constructor
  · intro decoded
    obtain ⟨data, dataRead, decoded⟩ := exists_of_bind_ok decoded
    cases decoded
    exact ⟨bytes_eq_ok_iff.1 dataRead, rfl, rfl, rfl, rfl, rfl⟩
  · rintro ⟨dataRead, error, log, info, wanted, used⟩
    rw [delivered, bytes_eq_ok_iff.2 dataRead, error, log, info, wanted, used]
    rfl

theorem blockResults_eq_ok_iff {results : BlockResults} :
    blockResults value = .ok results ↔ ∃ raws, rawResults? value = some (results.height, raws) ∧
      raws.mapM delivered = .ok results.responses := by
  constructor
  · intro decoded
    obtain ⟨⟨height, raws⟩, read, decoded⟩ := exists_of_bind_ok decoded
    obtain ⟨responses, all, decoded⟩ := exists_of_bind_ok decoded
    cases decoded
    exact ⟨raws, shaped_eq_ok_iff.1 read, all⟩
  · rintro ⟨raws, read, all⟩
    simp only [blockResults, shaped_eq_ok_iff.2 read, all, bind, Except.bind, pure, Except.pure]

end Reply

/-! ### Texts -/

namespace Remote

theorem result_of_parse? {text : Bytes} {value : Json} (parsed : Json.parse? text = some value) :
    result (.result text) = .ok value := by
  rw [result, parsed]

theorem parse?_of_bind_ok {text : Bytes} {f : Json → Except NodeError α} {a : α}
    (decoded : (result (.result text)).bind f = .ok a) :
    ∃ value, Json.parse? text = some value ∧ f value = .ok a := by
  obtain ⟨value, read, decoded⟩ := exists_of_bind_ok decoded
  rw [result] at read
  split at read
  · next parsed =>
    cases read
    exact ⟨value, parsed, decoded⟩
  · cases read

end Remote

end TokenIndexer
