import TokenIndexer.Node.Remote
import TokenIndexer.Proofs.Decimal.Spelling
import TokenIndexer.Proofs.Json.Document
import TokenIndexer.Proofs.Node.Reply

/-!
Whole numbers in the answers of a node: as a text over the whole range of their type, as a number only as far
as 63 bits and a sign go.
-/

namespace TokenIndexer

open Json

/-! ### Which number a value is -/

/-- The whole number that a value spells: as a text, of which the empty one stands for 0, or as a number
without point and exponent. -/
inductive Json.Denotes : Json → Int → Prop where
  | empty : Denotes (.text "") 0
  | text {spelled : String} {n : Int} (spells : Decimal.Spells spelled.toList n) : Denotes (.text spelled) n
  | whole (n : Nat) : Denotes (.nat n) n
  | negative (n : Nat) : Denotes (.number ⟨true, n, [], none⟩) (-n)

theorem Json.denotes_of_int? {n : Numeral} {i : Int} (read : n.int? = some i) : (number n).Denotes i := by
  obtain ⟨negative, whole, fraction, exponent⟩ := n
  unfold Numeral.int? at read
  split at read
  · next integral =>
    obtain ⟨rfl, rfl⟩ := integral
    cases negative with
    | false =>
      cases read
      exact .whole whole
    | true =>
      rw [if_pos rfl] at read
      split at read
      · cases read
      · cases read
        exact .negative whole
  · cases read

namespace Reply

/-! ### Readers of whole numbers -/

section Integer

variable {read : List Char → Option Int} {low high n : Int} {field : Json}

theorem integer?_eq_some (spells : ∀ cs m, read cs = some m → Decimal.Spells cs m) (zero : low ≤ 0 ∧ 0 ≤ high)
    (understood : integer? read low high field = some n) : field.Denotes n ∧ low ≤ n ∧ n ≤ high := by
  unfold integer? at understood
  split at understood
  · next spelled =>
    split at understood
    · next blank =>
      cases understood
      subst blank
      exact ⟨.empty, zero⟩
    · obtain ⟨m, found, understood⟩ := Option.bind_eq_some_iff.1 understood
      split at understood
      · next range =>
        cases understood
        exact ⟨.text (spells _ _ found), range⟩
      · cases understood
  · next numeral =>
    obtain ⟨m, found, understood⟩ := Option.bind_eq_some_iff.1 understood
    split at understood
    · next range =>
      cases understood
      exact ⟨denotes_of_int? found, by omega⟩
    · cases understood
  · cases understood

theorem integer?_intText (back : read (Decimal.ofInt n) = some n) (range : low ≤ n ∧ n ≤ high) :
    integer? read low high (.text (Decimal.intText n)) = some n := by
  have spelled : (Decimal.intText n).toList = Decimal.ofInt n := String.toList_ofList
  rw [Json.text, integer?, if_neg (Decimal.intText_ne_empty n), spelled, back, Option.bind_some, if_pos range]

theorem integer?_int (range : low ≤ n ∧ n ≤ high) :
    integer? read low high (.int n) =
      if Int64.minValue.toInt ≤ n ∧ n ≤ Int64.maxValue.toInt then some n else none := by
  rw [Json.int, integer?, intIn?, Numeral.int?_ofInt, Option.bind_some]
  by_cases small : Int64.minValue.toInt ≤ n ∧ n ≤ Int64.maxValue.toInt
  · rw [if_pos small, if_pos (by omega)]
  · rw [if_neg small, if_neg (by omega)]

end Integer

/-- What is understood where a number of a type is due. -/
structure ReadsWhole {τ : Type} (value : τ → Int) (read : Json → Option τ) : Prop where
  digits : ∀ n, read (.text (Decimal.intText (value n))) = some n
  number : ∀ n, value n ≤ Int64.maxValue.toInt → read (.int (value n)) = some n
  large : ∀ n, Int64.maxValue.toInt < value n → read (.int (value n)) = none
  empty : ∀ n, value n = 0 → read (.text "") = some n
  exact : ∀ field n, read field = some n → field.Denotes (value n)

def ofHeight (h : Height) : Int := h.toNat

theorem ofNat_ofHeight (h : Height) : UInt64.ofNat (ofHeight h).toNat = h := by
  rw [ofHeight, Int.toNat_natCast, UInt64.ofNat_toNat]

theorem ofHeight_range (h : Height) : 0 ≤ ofHeight h ∧ ofHeight h ≤ UInt64.size - 1 := by
  have bound := h.toNat_lt
  rw [ofHeight]
  simp only [UInt64.size]
  omega

theorem ofHeight_ofNat {n : Int} (low : 0 ≤ n) (high : n ≤ UInt64.size - 1) :
    ofHeight (UInt64.ofNat n.toNat) = n := by
  have small : n.toNat < UInt64.size := by omega
  rw [ofHeight, UInt64.toNat_ofNat_of_lt' small]
  omega

theorem readsWhole_height : ReadsWhole ofHeight height? where
  digits h := by
    have back : (Decimal.readNat? (Decimal.ofInt (ofHeight h))).map Int.ofNat = some (ofHeight h) := by
      change (Decimal.readNat? (Decimal.digits h.toNat)).map Int.ofNat = _
      rw [Decimal.readNat?_digits]
      rfl
    rw [height?, integer?_intText back (ofHeight_range h), Option.map_some, ofNat_ofHeight]
  number h small := by
    have signed : Int64.minValue.toInt ≤ ofHeight h := by
      have positive := (ofHeight_range h).1
      have least : Int64.minValue.toInt ≤ 0 := by decide
      omega
    rw [height?, integer?_int (ofHeight_range h), if_pos ⟨signed, small⟩, Option.map_some, ofNat_ofHeight]
  large h large := by
    rw [height?, integer?_int (ofHeight_range h), if_neg (by omega)]
    rfl
  empty h zero := by
    have same := ofNat_ofHeight h
    rw [zero] at same
    rw [← same]
    rfl
  exact field h understood := by
    obtain ⟨n, found, rfl⟩ := Option.map_eq_some_iff.1 understood
    have spells (cs : List Char) (m : Int) (read : (Decimal.readNat? cs).map Int.ofNat = some m) :
        Decimal.Spells cs m := by
      obtain ⟨k, digits, rfl⟩ := Option.map_eq_some_iff.1 read
      exact Decimal.spells_of_readNat? digits
    obtain ⟨denotes, low, high⟩ := integer?_eq_some spells (by decide) found
    rwa [ofHeight_ofNat low high]

theorem readsWhole_gas : ReadsWhole Int64.toInt gas? where
  digits n := by
    rw [gas?, integer?_intText (Decimal.readInt?_ofInt _) ⟨Int64.minValue_le_toInt n, Int64.toInt_le n⟩,
      Option.map_some, Int64.ofInt_toInt]
  number n _ := by
    have range : Int64.minValue.toInt ≤ n.toInt ∧ n.toInt ≤ Int64.maxValue.toInt :=
      ⟨Int64.minValue_le_toInt n, Int64.toInt_le n⟩
    rw [gas?, integer?_int range, if_pos range, Option.map_some, Int64.ofInt_toInt]
  large n large := by
    have bound : n.toInt ≤ Int64.maxValue.toInt := Int64.toInt_le n
    omega
  empty n zero := by
    have same := Int64.ofInt_toInt n
    rw [zero] at same
    rw [← same]
    rfl
  exact field n understood := by
    obtain ⟨m, found, rfl⟩ := Option.map_eq_some_iff.1 understood
    obtain ⟨denotes, low, high⟩ :=
      integer?_eq_some (fun _ _ => Decimal.spells_of_readInt?) (by decide) found
    rwa [Int64.toInt_ofInt_of_le low (Int.lt_of_le_of_lt high (by decide))]

/-! ### Where they stand -/

def heightOfStatus : List Place := [.field "sync_info" 0, .field "latest_block_height" 0]

def heightOfBlock : List Place := [.field "block" 1, .field "header" 0, .field "height" 1]

def heightOfResults : List Place := [.field "height" 0]

def entries : List Place := [.field "results" 1, .field "deliver_tx" 0]

def wantedGas (position : Nat) : List Place := entries ++ [.item position, .field "GasWanted" 1]

def usedGas (position : Nat) : List Place := entries ++ [.item position, .field "GasUsed" 2]

/-! ### Another number in its place -/

section Put

variable {value : Json} (field : Json)

theorem required?_put {α : Type} {slot : Slot Json} {read : Json → Option α} {a : α}
    (given : slot.required? read = some a) : (slot.map (put field [])).required? read = read field :=
  Slot.required?_map given fun _ _ => rfl

theorem field?_put {α : Type} {name : String} {path : List Place} {read : Json → Option α} {a : α}
    {result : Option α} (given : ((field? name value).bind fun slot => slot.required? read) = some a)
    (each : ∀ inner, read inner = some a → read (put field path inner) = result) :
    ((field? name (put field (.field name 0 :: path) value)).bind fun slot => slot.required? read) = result := by
  obtain ⟨slot, slots, stands⟩ := field?_bind_eq_some_iff.1 given
  have changed := slots?_put [name] 0 rfl (by simp) field path value
  rw [slots] at changed
  have single : field? name (put field (.field name 0 :: path) value) = some (slot.map (put field path)) :=
    field?_eq_some_iff.2 changed
  rw [single, Option.bind_some]
  exact Slot.required?_map stands each

theorem latestHeight?_put {h : Height} (read : latestHeight? value = some h) :
    latestHeight? (put field heightOfStatus value) = height? field :=
  field?_put field read fun _ inner => field?_put field inner fun _ _ => rfl

theorem header?_put {header : Header} (read : header? value = some header) :
    header? (put field [.field "height" 1] value) =
      (height? field).map fun h => { header with height := h } := by
  obtain ⟨chainId, height, time, proposer, given, chainIdRead, heightRead, timeRead, proposerRead⟩ :=
    header?_eq_some_iff.1 read
  have changed := slots?_put ["chain_id", "height", "time", "proposer_address"] 1 rfl (by decide) field [] value
  rw [given] at changed
  rw [header?, changed]
  simp only [Option.map_some, List.modify_succ_cons, List.modify_zero_cons, Option.bind_eq_bind,
    Option.bind_some, chainIdRead, required?_put field heightRead, timeRead, proposerRead]
  cases height? field <;> rfl

theorem body?_put {header : Header} {txs : Option (List String)} (read : body? value = some (header, txs)) :
    body? (put field [.field "header" 0, .field "height" 1] value) =
      (height? field).map fun h => ({ header with height := h }, txs) := by
  obtain ⟨first, data, given, headerRead, dataRead⟩ := body?_eq_some_iff.1 read
  have placed : (first.map (put field [.field "height" 1])).required? header? =
      (height? field).map fun h => { header with height := h } :=
    Slot.required?_map headerRead fun _ inner => header?_put field inner
  have changed := slots?_put ["header", "data"] 0 rfl (by decide) field [.field "height" 1] value
  rw [given] at changed
  unfold listed? at dataRead
  rw [body?, changed]
  simp only [Option.map_some, List.modify_zero_cons, Option.bind_eq_bind, Option.bind_some, placed, dataRead]
  cases height? field <;> rfl

theorem rawBlock?_put {raw : RawBlock} (read : rawBlock? value = some raw) :
    rawBlock? (put field heightOfBlock value) =
      (height? field).map fun h => { raw with header := { raw.header with height := h } } := by
  obtain ⟨identity, content, given, hashRead, bodyRead⟩ := rawBlock?_eq_some_iff.1 read
  have placed : (content.map (put field [.field "header" 0, .field "height" 1])).required? body? =
      (height? field).map fun h => ({ raw.header with height := h }, raw.txs) :=
    Slot.required?_map bodyRead fun _ inner => body?_put field inner
  have changed := slots?_put ["block_meta", "block"] 1 rfl (by decide) field [.field "header" 0, .field "height" 1]
    value
  rw [given] at changed
  rw [rawBlock?, heightOfBlock, changed]
  simp only [Option.map_some, List.modify_succ_cons, List.modify_zero_cons, Option.bind_eq_bind,
    Option.bind_some, hashRead, placed]
  cases height? field <;> rfl

theorem rawResults?_put {h : Height} {raws : List RawDelivery} (read : rawResults? value = some (h, raws)) :
    rawResults? (put field heightOfResults value) = (height? field).map fun h => (h, raws) := by
  obtain ⟨height, results, given, heightRead, resultsRead⟩ := rawResults?_eq_some_iff.1 read
  have changed := slots?_put ["height", "results"] 0 rfl (by decide) field [] value
  rw [given] at changed
  rw [rawResults?, heightOfResults, changed]
  simp only [Option.map_some, List.modify_zero_cons, Option.bind_eq_bind, Option.bind_some,
    required?_put field heightRead, resultsRead]
  cases height? field <;> rfl

theorem delivery?_put {raw : RawDelivery} (read : delivery? value = some raw) :
    delivery? (put field [.field "GasWanted" 1] value) =
        (gas? field).map (fun gas => { raw with gasWanted := gas }) ∧
      delivery? (put field [.field "GasUsed" 2] value) =
        (gas? field).map fun gas => { raw with gasUsed := gas } := by
  obtain ⟨outcome, wanted, used, given, outcomeRead, wantedRead, usedRead⟩ := delivery?_eq_some_iff.1 read
  have other := slots?_put ["ResponseBase", "GasWanted", "GasUsed"] 1 rfl (by decide) field [] value
  have last := slots?_put ["ResponseBase", "GasWanted", "GasUsed"] 2 rfl (by decide) field [] value
  rw [given] at other last
  constructor
  · rw [delivery?, other]
    simp only [Option.map_some, List.modify_succ_cons, List.modify_zero_cons, Option.bind_eq_bind,
      Option.bind_some, outcomeRead, required?_put field wantedRead, usedRead]
    cases gas? field <;> rfl
  · rw [delivery?, last]
    simp only [Option.map_some, List.modify_succ_cons, List.modify_zero_cons, Option.bind_eq_bind,
      Option.bind_some, outcomeRead, wantedRead, required?_put field usedRead]
    cases gas? field <;> rfl

theorem deliveries?_put {raws : List RawDelivery} {raw : RawDelivery} {position : Nat} {path : List Place}
    {result : Option RawDelivery} (read : deliveries? value = some raws) (there : raws[position]? = some raw)
    (each : ∀ entry, delivery? entry = some raw → delivery? (put field path entry) = result) :
    deliveries? (put field (.field "deliver_tx" 0 :: .item position :: path) value) =
      result.map fun raw => raws.set position raw := by
  obtain ⟨slot, list, given, listRead, rfl⟩ := deliveries?_eq_some_iff.1 read
  have changed := slots?_put ["deliver_tx"] 0 rfl (by decide) field (.item position :: path) value
  rw [given] at changed
  rcases nullable?_list? listRead with ⟨rfl, -⟩ | ⟨items, raws, rfl, all, rfl⟩
  · cases there
  · have shape : put field (.item position :: path) (.array items) =
        .array (items.modify position (put field path)) := rfl
    rw [deliveries?, field?, changed]
    simp only [Option.map_some, List.modify_zero_cons, Option.bind_eq_bind, Option.bind_some, Slot.map, shape,
      nullable?, Slot.optional?, list?, items?, mapM_modify all there each]
    cases result <;> rfl

theorem rawResults?_put_entry {h : Height} {raws : List RawDelivery} {raw : RawDelivery} {position : Nat}
    {path : List Place} {result : Option RawDelivery} (read : rawResults? value = some (h, raws))
    (there : raws[position]? = some raw)
    (each : ∀ entry, delivery? entry = some raw → delivery? (put field path entry) = result) :
    rawResults? (put field (entries ++ .item position :: path) value) =
      result.map fun raw => (h, raws.set position raw) := by
  obtain ⟨height, results, given, heightRead, resultsRead⟩ := rawResults?_eq_some_iff.1 read
  have placed : (results.map (put field (.field "deliver_tx" 0 :: .item position :: path))).required?
      deliveries? = result.map fun raw => raws.set position raw :=
    Slot.required?_map resultsRead fun _ inner => deliveries?_put field inner there each
  have changed := slots?_put ["height", "results"] 1 rfl (by decide) field
    (.field "deliver_tx" 0 :: .item position :: path) value
  rw [given] at changed
  rw [rawResults?, entries, List.cons_append, List.singleton_append, changed]
  simp only [Option.map_some, List.modify_succ_cons, List.modify_zero_cons, Option.bind_eq_bind,
    Option.bind_some, heightRead, placed]
  cases result <;> rfl

theorem latestHeight_put {h : Height} (decoded : latestHeight value = .ok h) :
    latestHeight (put field heightOfStatus value) = shaped (height? field) := by
  rw [latestHeight, latestHeight?_put field (shaped_eq_ok_iff.1 decoded)]

theorem block_put {b : Block} (decoded : block value = .ok b) :
    block (put field heightOfBlock value) = shaped ((height? field).map fun h => { b with height := h }) := by
  obtain ⟨raw, read, hash, txs, header⟩ := block_eq_ok_iff.1 decoded
  have placed := rawBlock?_put field read
  cases understood : height? field with
  | none => rw [block, placed, understood]; rfl
  | some h =>
    rw [understood] at placed
    exact block_eq_ok_iff.2 ⟨_, placed, hash, txs, by rw [header]⟩

theorem blockResults_put {results : BlockResults} (decoded : blockResults value = .ok results) :
    blockResults (put field heightOfResults value) =
      shaped ((height? field).map fun h => { results with height := h }) := by
  obtain ⟨raws, read, all⟩ := blockResults_eq_ok_iff.1 decoded
  have placed := rawResults?_put field read
  cases understood : height? field with
  | none => rw [blockResults, placed, understood]; rfl
  | some h =>
    rw [understood] at placed
    exact blockResults_eq_ok_iff.2 ⟨raws, placed, all⟩

/-- An entry that is understood with another number in it is delivered with that number. -/
theorem blockResults_put_entry {results : BlockResults} (decoded : blockResults value = .ok results)
    {position : Nat} {response : DeliverResponse} (there : results.responses[position]? = some response)
    {path : List Place} {change : RawDelivery → Int64 → RawDelivery}
    {carrying : Int64 → DeliverResponse}
    (each : ∀ entry raw, delivery? entry = some raw →
      delivery? (put field path entry) = (gas? field).map (change raw))
    (delivers : ∀ raw gas, delivered raw = .ok response → delivered (change raw gas) = .ok (carrying gas)) :
    blockResults (put field (entries ++ .item position :: path) value) =
      shaped ((gas? field).map fun gas =>
        { results with responses := results.responses.set position (carrying gas) }) := by
  obtain ⟨raws, read, all⟩ := blockResults_eq_ok_iff.1 decoded
  obtain ⟨raw, rawThere, rawDelivered⟩ := getElem?_of_forall₂ (mapM_eq_ok_iff.1 all) there
  have placed := rawResults?_put_entry field read rawThere fun entry => each entry raw
  cases understood : gas? field with
  | none => rw [blockResults, placed, understood]; rfl
  | some gas =>
    rw [understood] at placed
    exact blockResults_eq_ok_iff.2 ⟨_, placed, mapM_set all (delivers raw gas rawDelivered) position⟩

end Put

/-! ### Both forms -/

/-- How an answer depends on the field in which a whole number of a type is due: `response field` is a document
with that field, and `carrying n` is the answer with the number `n`. -/
structure BothForms {τ α : Type} (value : τ → Int) (response : Json → Json)
    (answer : Transfer → Except NodeError α) (carrying : τ → α) : Prop where
  digits : ∀ n text, parse? text = some (response (.text (Decimal.intText (value n)))) →
    answer (.result text) = .ok (carrying n)
  number : ∀ n text, value n ≤ Int64.maxValue.toInt → parse? text = some (response (.int (value n))) →
    answer (.result text) = .ok (carrying n)
  /-- A number beyond 63 bits is refused, although it is one of the type. -/
  large : ∀ n text, Int64.maxValue.toInt < value n → parse? text = some (response (.int (value n))) →
    answer (.result text) = .error (.rpc "unexpected reply")
  empty : ∀ n text, value n = 0 → parse? text = some (response (.text "")) →
    answer (.result text) = .ok (carrying n)
  refused : ∀ field text, (∀ n, ¬ field.Denotes (value n)) → parse? text = some (response field) →
    answer (.result text) = .error (.rpc "unexpected reply")
  exact : ∀ field text a, parse? text = some (response field) → answer (.result text) = .ok a →
    ∃ n, field.Denotes (value n) ∧ a = carrying n

theorem bothForms {τ α : Type} {value : τ → Int} {read : Json → Option τ} (reads : ReadsWhole value read)
    {response : Json → Json} {reply : Json → Except NodeError α} {carrying : τ → α}
    (answers : ∀ field, reply (response field) = shaped ((read field).map carrying)) :
    BothForms value response (fun transfer => (Remote.result transfer).bind reply) carrying := by
  have answer (field : Json) (text : Bytes) (parsed : parse? text = some (response field)) :
      (Remote.result (.result text)).bind reply = shaped ((read field).map carrying) := by
    rw [Remote.result_of_parse? parsed]
    exact answers field
  constructor
  · intro n text parsed
    rw [answer _ text parsed, reads.digits]
    rfl
  · intro n text small parsed
    rw [answer _ text parsed, reads.number n small]
    rfl
  · intro n text large parsed
    rw [answer _ text parsed, reads.large n large]
    rfl
  · intro n text zero parsed
    rw [answer _ text parsed, reads.empty n zero]
    rfl
  · intro field text other parsed
    rw [answer _ text parsed]
    cases understood : read field with
    | none => rfl
    | some n => exact absurd (reads.exact field n understood) (other n)
  · intro field text a parsed decoded
    rw [answer _ text parsed, shaped_eq_ok_iff] at decoded
    obtain ⟨n, understood, rfl⟩ := Option.map_eq_some_iff.1 decoded
    exact ⟨n, reads.exact field n understood, rfl⟩

end Reply

open Reply

/-- Heights and gas in all answers of the node, in documents that are understood with any number there. -/
theorem Remote.numbers_in_both_forms :
    (∀ text value h, parse? text = some value → latestHeight (.result text) = .ok h →
      BothForms ofHeight (put · heightOfStatus value) latestHeight id) ∧
    (∀ text value b, parse? text = some value → block (.result text) = .ok b →
      BothForms ofHeight (put · heightOfBlock value) block fun h => { b with height := h }) ∧
    ∀ text value results, parse? text = some value → blockResults (.result text) = .ok results →
      BothForms ofHeight (put · heightOfResults value) blockResults (fun h => { results with height := h }) ∧
      ∀ i response, results.responses[i]? = some response →
        BothForms Int64.toInt (put · (wantedGas i) value) blockResults (fun gas =>
          { results with responses := results.responses.set i { response with gasWanted := gas } }) ∧
        BothForms Int64.toInt (put · (usedGas i) value) blockResults fun gas =>
          { results with responses := results.responses.set i { response with gasUsed := gas } } := by
  refine ⟨?_, ?_, ?_⟩
  · intro text value h parsed decoded
    rw [latestHeight, result_of_parse? parsed] at decoded
    apply bothForms readsWhole_height
    intro field
    rw [Option.map_id]
    exact latestHeight_put field decoded
  · intro text value b parsed decoded
    rw [block, result_of_parse? parsed] at decoded
    exact bothForms readsWhole_height fun field => block_put field decoded
  · intro text value results parsed decoded
    rw [blockResults, result_of_parse? parsed] at decoded
    refine ⟨bothForms readsWhole_height fun field => blockResults_put field decoded, ?_⟩
    intro i response there
    refine ⟨?_, ?_⟩
    · apply bothForms readsWhole_gas
      intro field
      apply blockResults_put_entry field decoded there fun entry raw read => (delivery?_put field read).1
      intro raw gas delivers
      obtain ⟨data, error, log, info, -, used⟩ := delivered_eq_ok_iff.1 delivers
      exact delivered_eq_ok_iff.2 ⟨data, error, log, info, rfl, used⟩
    · apply bothForms readsWhole_gas
      intro field
      apply blockResults_put_entry field decoded there fun entry raw read => (delivery?_put field read).2
      intro raw gas delivers
      obtain ⟨data, error, log, info, wanted, -⟩ := delivered_eq_ok_iff.1 delivers
      exact delivered_eq_ok_iff.2 ⟨data, error, log, info, wanted, rfl⟩

/-- The least gas as a number, and the greatest height as a text. -/
theorem Remote.least_gas_and_greatest_height :
    let greatest := text "18446744073709551615"
    let status (height : Json) := obj [("sync_info", obj [("latest_block_height", height)])]
    let whole (height : Json) := obj [("block_meta", obj [("block_id", obj [])]),
      ("block", obj [("header", obj [("chain_id", text "dev"), ("height", height), ("time", text "now")]),
        ("data", obj [])])]
    let listed (wanted : Json) := obj [("height", nat 1), ("results", obj [("deliver_tx",
      .array [obj [("ResponseBase", obj []), ("GasWanted", wanted), ("GasUsed", nat 7)]])])]
    latestHeight (.result (status (text "")).render) = .ok 0 ∧
      latestHeight (.result (status greatest).render) = .ok .greatest ∧
      block (.result (whole (nat 7)).render) = .ok ⟨7, [], "dev", "now", "", []⟩ ∧
      block (.result (whole greatest).render) = .ok ⟨.greatest, [], "dev", "now", "", []⟩ ∧
      blockResults (.result (listed (text "")).render) = .ok ⟨1, [⟨none, [], "", "", 0, 7⟩]⟩ ∧
      blockResults (.result (listed (int Int64.minValue.toInt)).render) =
        .ok ⟨1, [⟨none, [], "", "", Int64.minValue, 7⟩]⟩ := by
  intro greatest status whole listed
  have spelled : text (Decimal.intText (ofHeight .greatest)) = greatest := by
    rw [show Decimal.intText (ofHeight .greatest) = "18446744073709551615" by decide +kernel]
  have ofStatus : latestHeight (.result (status (text "")).render) = .ok 0 := by decide +kernel
  have ofBlock : block (.result (whole (nat 7)).render) = .ok ⟨7, [], "dev", "now", "", []⟩ := by
    decide +kernel
  have ofResults : blockResults (.result (listed (text "")).render) =
      .ok ⟨1, [⟨none, [], "", "", 0, 7⟩]⟩ := by decide +kernel
  have statuses := numbers_in_both_forms.1 _ _ _ (parse?_render (by decide +kernel)) ofStatus
  have blocks := numbers_in_both_forms.2.1 _ _ _ (parse?_render (by decide +kernel)) ofBlock
  have results := numbers_in_both_forms.2.2 _ _ _ (parse?_render (by decide +kernel)) ofResults
  refine ⟨ofStatus, ?_, ofBlock, ?_, ofResults, ?_⟩
  · apply statuses.digits .greatest
    rw [spelled]
    exact parse?_render (by decide +kernel)
  · apply blocks.digits .greatest
    rw [spelled]
    exact parse?_render (by decide +kernel)
  · apply (results.2 0 _ rfl).1.number Int64.minValue _ (by decide)
    exact parse?_render (by decide +kernel)

/-- A height that the answer may have as a text, but not as a number. -/
theorem Remote.height_beyond_numbers :
    let status (height : Json) := obj [("sync_info", obj [("latest_block_height", height)])]
    latestHeight (.result (status (text "9223372036854775808")).render) = .ok 9223372036854775808 ∧
      latestHeight (.result (status (nat 9223372036854775808)).render) = .error (.rpc "unexpected reply") := by
  decide +kernel

end TokenIndexer
