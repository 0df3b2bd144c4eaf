import TokenIndexer.Event.Json
import TokenIndexer.Proofs.Bytes
import TokenIndexer.Proofs.Json.Document
import TokenIndexer.Proofs.Json.Shape

namespace TokenIndexer

open Json

/-! ### Byte strings in any case -/

theorem Hex.ofJson?_text (style : Hex.Style) (bytes : Bytes) :
    Hex.ofJson? (.text (style.text bytes)) = some bytes :=
  Hex.ofText?_style style bytes

namespace Tx

def toJsonIn (style : Hex.Style) (tx : Tx) : Json := .text (style.text tx.bytes)

theorem ofJson?_toJsonIn (style : Hex.Style) (tx : Tx) : ofJson? (tx.toJsonIn style) = some tx := by
  rw [ofJson?, toJsonIn, Hex.ofJson?_text, Option.map_some]

theorem writable_toJsonIn (style : Hex.Style) (tx : Tx) : (tx.toJsonIn style).Writable :=
  writable_text _

end Tx

namespace Block

def toJsonIn (style : Hex.Style) (b : Block) : Json :=
  .obj [("height", .nat b.height.toNat), ("hash", .text (style.text b.hash)),
    ("chain_id", .text b.chainId), ("time", .text b.time), ("proposer", .text b.proposer),
    ("txs", .array (b.txs.map (Tx.toJsonIn style)))]

theorem ofJson?_toJsonIn (style : Hex.Style) (b : Block) : ofJson? (b.toJsonIn style) = some b := by
  rw [ofJson?, toJsonIn, slots?_obj (by rfl) (by decide)]
  simp [Slot.required?, Hex.ofJson?_text, Tx.ofJson?_toJsonIn]

theorem writable_toJsonIn (style : Hex.Style) (b : Block) : (b.toJsonIn style).Writable := by
  apply writable_obj
  simp only [List.forall_mem_cons, List.not_mem_nil, false_implies, implies_true, and_true]
  refine ⟨writable_nat _, writable_text _, writable_text _, writable_text _, writable_text _, ?_⟩
  apply writable_array
  simp [Tx.writable_toJsonIn]

end Block

namespace DeliverResponse

def toJsonIn (style : Hex.Style) (r : DeliverResponse) : Json :=
  .obj [("error", (r.error.map Json.text).getD .null), ("data", .text (style.text r.data)),
    ("log", .text r.log), ("info", .text r.info), ("gas_wanted", .int r.gasWanted.toInt),
    ("gas_used", .int r.gasUsed.toInt)]

theorem nullable?_text (value : Option String) :
    nullable? text? (.given ((value.map Json.text).getD .null)) = some value := by
  cases value <;> rfl

theorem ofJson?_toJsonIn (style : Hex.Style) (r : DeliverResponse) :
    ofJson? (r.toJsonIn style) = some r := by
  rw [ofJson?, toJsonIn, slots?_obj (by rfl) (by decide)]
  simp [Slot.required?, Hex.ofJson?_text, nullable?_text]

theorem writable_toJsonIn (style : Hex.Style) (r : DeliverResponse) : (r.toJsonIn style).Writable := by
  apply writable_obj
  simp only [List.forall_mem_cons, List.not_mem_nil, false_implies, implies_true, and_true]
  refine ⟨?_, writable_text _, writable_text _, writable_text _, writable_int _, writable_int _⟩
  cases r.error with
  | none => exact writable_null
  | some error => exact writable_text error

end DeliverResponse

namespace TxResult

def toJsonIn (style : Hex.Style) (r : TxResult) : Json :=
  .obj [("height", .nat r.height.toNat), ("index", .nat r.index.toNat), ("tx", r.tx.toJsonIn style),
    ("response", r.response.toJsonIn style)]

theorem ofJson?_toJsonIn (style : Hex.Style) (r : TxResult) : ofJson? (r.toJsonIn style) = some r := by
  rw [ofJson?, toJsonIn, slots?_obj (by rfl) (by decide)]
  simp [Slot.required?, Tx.ofJson?_toJsonIn, DeliverResponse.ofJson?_toJsonIn]

theorem writable_toJsonIn (style : Hex.Style) (r : TxResult) : (r.toJsonIn style).Writable := by
  apply writable_obj
  simp only [List.forall_mem_cons, List.not_mem_nil, false_implies, implies_true, and_true]
  exact ⟨writable_nat _, writable_nat _, Tx.writable_toJsonIn style _,
    DeliverResponse.writable_toJsonIn style _⟩

end TxResult

/-! ### Packages and messages -/

namespace Json

theorem writable_texts (texts : List String) : (array (texts.map text)).Writable := by
  apply writable_array
  simp [writable_text]

theorem tagged?_obj {tag : String} {members : List (String × Json)}
    (apart : tag ∉ members.map (·.1)) (kind : String) :
    (obj ((tag, text kind) :: members)).tagged? tag = some (kind, obj members) := by
  rw [obj, List.map_cons, tagged?, membersAt_cons, if_pos rfl, membersAt_eq_nil apart]
  simp only [text]
  rw [List.filter_cons_of_neg (by simp), List.filter_eq_self.2]
  · rfl
  · intro member inside
    obtain ⟨named, original, rfl⟩ := List.mem_map.1 inside
    simp only [ne_eq, Option.some.injEq, decide_eq_true_eq]
    intro same
    exact apart (same ▸ List.mem_map_of_mem original)

end Json

namespace MemFile

theorem ofJson?_toJson (file : MemFile) : ofJson? file.toJson = some file := by
  rw [ofJson?, toJson, slots?_obj (by rfl) (by decide)]
  simp [Slot.required?]

theorem writable_toJson (file : MemFile) : file.toJson.Writable := by
  apply writable_obj
  simp [writable_text]

end MemFile

namespace MemPackage

theorem ofJson?_toJson (package : MemPackage) : ofJson? package.toJson = some package := by
  rw [ofJson?, toJson, slots?_obj (by rfl) (by decide)]
  simp [Slot.required?, Slot.defaulted?, MemFile.ofJson?_toJson]

theorem writable_toJson (package : MemPackage) : package.toJson.Writable := by
  have files : (array (package.files.map MemFile.toJson)).Writable := by
    apply writable_array
    simp [MemFile.writable_toJson]
  apply writable_obj
  simp [writable_text, files]

end MemPackage

namespace Message

theorem keepable_package (depth : Nat) (package : MemPackage) :
    package.toJson.keepable (depth + 3) = true := by
  simp [MemPackage.toJson, MemFile.toJson, keepable_obj, keepable_array]

theorem keepable_toJson (message : Message) : message.toJson.keepable depthLimit = true := by
  have packages (package : MemPackage) : package.toJson.keepable 126 = true :=
    keepable_package 123 package
  cases message <;> simp [toJson, depthLimit, keepable_obj 126, keepable_array 125, packages]

theorem ofJson?_toJson (message : Message) : ofJson? message.toJson = some message := by
  rw [ofJson?, if_pos message.keepable_toJson]
  cases message with
  | addPackage creator package deposit =>
    rw [toJson, tagged?_obj (by simp)]
    simp only [Option.bind_eq_bind, Option.bind_some]
    rw [ofFields?, if_pos rfl, slots?_obj (by rfl) (by decide)]
    simp [Slot.required?, MemPackage.ofJson?_toJson]
  | call caller pkgPath func args coins =>
    rw [toJson, tagged?_obj (by simp)]
    simp only [Option.bind_eq_bind, Option.bind_some]
    rw [ofFields?, if_neg (by decide), if_pos rfl, slots?_obj (by rfl) (by decide)]
    simp [Slot.required?, list?_array text?_text]
  | send sender recipient amount =>
    rw [toJson, tagged?_obj (by simp)]
    simp only [Option.bind_eq_bind, Option.bind_some]
    rw [ofFields?, if_neg (by decide), if_neg (by decide), if_pos rfl,
      slots?_obj (by rfl) (by decide)]
    simp [Slot.required?]
  | run caller package =>
    rw [toJson, tagged?_obj (by simp)]
    simp only [Option.bind_eq_bind, Option.bind_some]
    rw [ofFields?, if_neg (by decide), if_neg (by decide), if_neg (by decide), if_pos rfl,
      slots?_obj (by rfl) (by decide)]
    simp [Slot.required?, MemPackage.ofJson?_toJson]
  | unknown typeUrl =>
    rw [toJson, tagged?_obj (by simp)]
    simp only [Option.bind_eq_bind, Option.bind_some]
    rw [ofFields?, if_neg (by decide), if_neg (by decide), if_neg (by decide), if_neg (by decide),
      if_pos rfl, slots?_obj (by rfl) (by decide)]
    simp [Slot.required?]

theorem writable_toJson (message : Message) : message.toJson.Writable := by
  cases message with
  | addPackage creator package deposit =>
    apply writable_obj
    simp [writable_text, MemPackage.writable_toJson]
  | call caller pkgPath func args coins =>
    apply writable_obj
    simp [writable_text, writable_texts]
  | send sender recipient amount =>
    apply writable_obj
    simp [writable_text]
  | run caller package =>
    apply writable_obj
    simp [writable_text, MemPackage.writable_toJson]
  | unknown typeUrl =>
    apply writable_obj
    simp [writable_text]

end Message

/-! ### Events -/

namespace EventKind

theorem ofJson?_toJson (kind : EventKind) : ofJson? kind.toJson = some kind := by
  cases kind <;> rfl

end EventKind

namespace TokenCandidate

theorem ofJson?_toJson (candidate : TokenCandidate) : ofJson? candidate.toJson = some candidate := by
  rw [ofJson?, toJson, slots?_obj (by rfl) (by decide)]
  simp [Slot.required?, list?_array text?_text]

theorem writable_toJson (candidate : TokenCandidate) : candidate.toJson.Writable := by
  apply writable_obj
  simp [writable_text, writable_nat, writable_texts]

end TokenCandidate

namespace Event

def payloadIn (style : Hex.Style) : Event → Json
  | .newBlock block results =>
    .obj [("block", block.toJsonIn style), ("results", .array (results.map (TxResult.toJsonIn style)))]
  | .tokenDetected candidate => candidate.toJson

def toJsonIn (style : Hex.Style) (event : Event) : Json :=
  .obj [("type", event.kind.toJson), ("payload", event.payloadIn style)]

theorem ofPayload?_payloadIn (style : Hex.Style) (event : Event) :
    ofPayload? (event.payloadIn style) event.kind = some event := by
  cases event with
  | newBlock block results =>
    rw [payloadIn, kind, ofPayload?]
    simp only [obj, members?, Option.bind_eq_bind, Option.bind_some]
    rw [slotsOfMembers?_obj (by rfl) (by decide)]
    simp [Slot.required?, Block.ofJson?_toJsonIn, TxResult.ofJson?_toJsonIn]
  | tokenDetected candidate =>
    rw [payloadIn, kind, ofPayload?, TokenCandidate.ofJson?_toJson, Option.map_some]

/-- The type stands before the payload, so that the payload is read as what it is. -/
theorem ofJson?_toJsonIn (style : Hex.Style) (event : Event) :
    ofJson? (event.toJsonIn style) = some event := by
  rw [toJsonIn, obj, ofJson?, slotsOfMembers?_obj (by rfl) (by decide)]
  simp [payloadLeads, EventKind.ofJson?_toJson, ofPayload?_payloadIn]

theorem writable_toJsonIn (style : Hex.Style) (event : Event) : (event.toJsonIn style).Writable := by
  have payload : (event.payloadIn style).Writable := by
    cases event with
    | newBlock block results =>
      have results : (array (results.map (TxResult.toJsonIn style))).Writable := by
        apply writable_array
        simp [TxResult.writable_toJsonIn]
      apply writable_obj
      simp [Block.writable_toJsonIn, results]
    | tokenDetected candidate => exact candidate.writable_toJson
  apply writable_obj
  simp [EventKind.toJson, writable_text, payload]

end Event

/-! ### Reading back -/

namespace Json

variable {α : Type}

/-- Whether a value is read back from the document that is written for it, and from the same document
with other digits in its byte strings and white space between its tokens. -/
def ReadBack (read : Json → Option α) (written : Json) (spelled : Hex.Style → Json) (value : α) : Prop :=
  (parse? written.render).bind read = some value ∧ spelled .lower = written ∧
    ∀ style gap, (parse? ((spelled style).spaced gap)).bind read = some value

theorem readBack {read : Json → Option α} {written : Json} {spelled : Hex.Style → Json} {value : α}
    (same : spelled .lower = written) (writable : ∀ style, (spelled style).Writable)
    (inverse : ∀ style, read (spelled style) = some value) : ReadBack read written spelled value := by
  have anyhow (style : Hex.Style) (gap : Nat → Token.Gap) :
      (parse? ((spelled style).spaced gap)).bind read = some value := by
    rw [parse?_spaced gap (writable style), Option.bind_some, inverse style]
  refine ⟨?_, same, anyhow⟩
  rw [← same, ← spaced_none]
  exact anyhow .lower fun _ => .none

/-- Values of every kind are read back, whatever their texts, numbers and lists. -/
theorem readBack_documents :
    (∀ tx : Tx, ReadBack Tx.ofJson? tx.toJson tx.toJsonIn tx) ∧
    (∀ b : Block, ReadBack Block.ofJson? b.toJson b.toJsonIn b) ∧
    (∀ r : DeliverResponse, ReadBack DeliverResponse.ofJson? r.toJson r.toJsonIn r) ∧
    (∀ r : TxResult, ReadBack TxResult.ofJson? r.toJson r.toJsonIn r) ∧
    (∀ file : MemFile, ReadBack MemFile.ofJson? file.toJson (fun _ => file.toJson) file) ∧
    (∀ package : MemPackage,
      ReadBack MemPackage.ofJson? package.toJson (fun _ => package.toJson) package) ∧
    (∀ message : Message,
      ReadBack Message.ofJson? message.toJson (fun _ => message.toJson) message) ∧
    (∀ event : Event, ReadBack Event.ofJson? event.toJson event.toJsonIn event) ∧
    (∀ kind : EventKind, ReadBack EventKind.ofJson? kind.toJson (fun _ => kind.toJson) kind) ∧
    (∀ candidate : TokenCandidate,
      ReadBack TokenCandidate.ofJson? candidate.toJson (fun _ => candidate.toJson) candidate) := by
  constructor
  · intro tx
    exact readBack rfl (Tx.writable_toJsonIn · tx) (Tx.ofJson?_toJsonIn · tx)
  constructor
  · intro b
    exact readBack rfl (Block.writable_toJsonIn · b) (Block.ofJson?_toJsonIn · b)
  constructor
  · intro r
    exact readBack rfl (DeliverResponse.writable_toJsonIn · r) (DeliverResponse.ofJson?_toJsonIn · r)
  constructor
  · intro r
    exact readBack rfl (TxResult.writable_toJsonIn · r) (TxResult.ofJson?_toJsonIn · r)
  constructor
  · intro file
    exact readBack rfl (fun _ => file.writable_toJson) fun _ => file.ofJson?_toJson
  constructor
  · intro package
    exact readBack rfl (fun _ => package.writable_toJson) fun _ => package.ofJson?_toJson
  constructor
  · intro message
    exact readBack rfl (fun _ => message.writable_toJson) fun _ => message.ofJson?_toJson
  constructor
  · intro event
    exact readBack rfl (Event.writable_toJsonIn · event) (Event.ofJson?_toJsonIn · event)
  constructor
  · intro kind
    exact readBack rfl (fun _ => writable_text _) fun _ => kind.ofJson?_toJson
  · intro candidate
    exact readBack rfl (fun _ => candidate.writable_toJson) fun _ => candidate.ofJson?_toJson

end Json

end TokenIndexer
