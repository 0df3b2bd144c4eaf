import TokenIndexer.Proofs.Proto.Merge
import TokenIndexer.Proofs.Slot
import TokenIndexer.Tx.Binary
import TokenIndexer.Tx.Decoder

namespace TokenIndexer.Tx.Binary

open Proto

theorem Coin.merges_toBytes (coin : Coin) :
    Merges Coin.merge (depthLimit - 1) coin.toBytes ⟨"", 0⟩ coin := by
  refine Merges.trans (.text (by decide) (Coin.mk · 0) coin.denom ?_) ?_
  · simp [Coin.merge]
  · split
    · next zero =>
      rw [← zero]
      exact .nil
    · apply Merges.varint (by decide) (UInt64.toNat_lt _)
      simp [Coin.merge, Field.signed64?]

theorem File.merges_toBytes (file : MemFile) :
    Merges File.merge (depthLimit - 2) (File.toBytes file) ⟨"", ""⟩ file := by
  refine Merges.trans (.text (by decide) (MemFile.mk · "") file.name ?_)
    (.text (by decide) (MemFile.mk file.name) file.body ?_)
  · simp [File.merge]
  · simp [File.merge]

theorem Package.merges_toBytes (package : MemPackage) :
    Merges Package.merge (depthLimit - 1) (Package.toBytes package) .empty package := by
  refine Merges.trans (Merges.trans (.text (by decide) (MemPackage.mk · "" []) package.name ?_)
    (.text (by decide) (MemPackage.mk package.name · []) package.path ?_))
    (.repeated (MemPackage.mk package.name package.path) ?_ package.files)
  · simp [Package.merge]
  · simp [Package.merge]
  · intro before file
    apply Merges.field (by decide)
    intro short
    have read : File.ofBytes? (File.toBytes file) = some file := (File.merges_toBytes file).read short
    simp [Package.merge, read]

theorem addCoin_toBytes (coins : List Coin) (number : Nat) {coin : Coin} (short : Short coin.toBytes) :
    addCoin coins ⟨number, .bytes coin.toBytes⟩ = some (coins ++ [coin]) := by
  have read : Coin.ofBytes? coin.toBytes = some coin := coin.merges_toBytes.read short
  simp [addCoin, read]

theorem mergePackage_toBytes (number : Nat) {package : MemPackage}
    (short : Short (Package.toBytes package)) :
    mergePackage none ⟨number, .bytes (Package.toBytes package)⟩ = some (some package) := by
  have read : Package.mergeBytes .empty (Package.toBytes package) = some package :=
    (Package.merges_toBytes package).read short
  simp [mergePackage, read]

section Fields

variable {α : Type} {merge : α → Field → Option α} {number : Nat}
  (placed : 0 < depthLimit ∧ 1 ≤ number ∧ number < 2 ^ 29)

include placed

theorem merges_coinFields (put : List Coin → α)
    (step : ∀ before field coins, addCoin before field = some coins → field.number = number →
      merge (put before) field = some (put coins)) (coins : List Coin) :
    Merges merge depthLimit (coinFields number coins) (put []) (put coins) := by
  apply Merges.repeated put
  intro before coin
  apply Merges.field placed
  intro short
  exact step _ _ _ (addCoin_toBytes before number short) rfl

theorem merges_packageField (put : Option MemPackage → α)
    (step : ∀ field package, mergePackage none field = some package → field.number = number →
      merge (put none) field = some (put package)) (package : Option MemPackage) :
    Merges merge depthLimit (packageField number package) (put none) (put package) := by
  cases package with
  | none => exact .nil
  | some package =>
    apply Merges.field placed
    intro short
    exact step _ _ (mergePackage_toBytes number short) rfl

end Fields

theorem Deploy.merges_toBytes (deploy : Deploy) :
    Merges Deploy.merge depthLimit deploy.toBytes ⟨[], none, []⟩ deploy := by
  refine Merges.trans (Merges.trans
    (.bytes (by decide) (Deploy.mk · none []) deploy.creator ?_)
    (merges_packageField (by decide) (Deploy.mk deploy.creator · []) ?_ deploy.package))
    (merges_coinFields (by decide) (Deploy.mk deploy.creator deploy.package) ?_
      deploy.deposit)
  · simp [Deploy.merge]
  · intro field package merged same
    simp [Deploy.merge, same, merged]
  · intro before field coins added same
    simp [Deploy.merge, same, added]

theorem Call.merges_toBytes (call : Call) :
    Merges Call.merge depthLimit call.toBytes ⟨[], [], "", "", []⟩ call := by
  refine Merges.trans (Merges.trans (Merges.trans (Merges.trans
    (.bytes (by decide) (Call.mk · [] "" "" []) call.caller ?_)
    (merges_coinFields (by decide) (Call.mk call.caller · "" "" []) ?_ call.coins))
    (.text (by decide) (Call.mk call.caller call.coins · "" []) call.pkgPath ?_))
    (.text (by decide) (Call.mk call.caller call.coins call.pkgPath · []) call.func ?_))
    (.repeated (Call.mk call.caller call.coins call.pkgPath call.func) ?_ call.args)
  · simp [Call.merge]
  · intro before field coins added same
    simp [Call.merge, same, added]
  · simp [Call.merge]
  · simp [Call.merge]
  · intro before arg
    apply Merges.field (by decide)
    simp [Call.merge]

theorem Run.merges_toBytes (run : Run) :
    Merges Run.merge depthLimit run.toBytes ⟨[], [], none⟩ run := by
  refine Merges.trans (Merges.trans
    (.bytes (by decide) (Run.mk · [] none) run.caller ?_)
    (merges_coinFields (by decide) (Run.mk run.caller · none) ?_ run.coins))
    (merges_packageField (by decide) (Run.mk run.caller run.coins) ?_ run.package)
  · simp [Run.merge]
  · intro before field coins added same
    simp [Run.merge, same, added]
  · intro field package merged same
    simp [Run.merge, same, merged]

theorem Transfer.merges_toBytes (transfer : Transfer) :
    Merges Transfer.merge depthLimit transfer.toBytes ⟨[], [], []⟩ transfer := by
  refine Merges.trans (Merges.trans
    (.bytes (by decide) (Transfer.mk · [] []) transfer.sender ?_)
    (.bytes (by decide) (Transfer.mk transfer.sender · []) transfer.recipient ?_))
    (merges_coinFields (by decide) (Transfer.mk transfer.sender transfer.recipient) ?_
      transfer.amount)
  · simp [Transfer.merge]
  · simp [Transfer.merge]
  · intro before field coins added same
    simp [Transfer.merge, same, added]

theorem Any.merges_toBytes (any : Any) :
    Merges Any.merge (depthLimit - 1) any.toBytes ⟨"", []⟩ any := by
  refine Merges.trans (.text (by decide) (Any.mk · []) any.typeUrl ?_)
    (.bytes (by decide) (Any.mk any.typeUrl) any.value ?_)
  · simp [Any.merge]
  · simp [Any.merge]

theorem fields?_ofAnys {anys : List Any} (short : Short (ofAnys anys)) :
    fields? depthLimit (ofAnys anys) = some (anys.map fun any => ⟨1, .bytes any.toBytes⟩) := by
  induction anys with
  | nil => exact fields?_nil depthLimit
  | cons any rest ih =>
    have whole : ofAnys (any :: rest) = bytesField 1 any.toBytes ++ ofAnys rest := rfl
    rw [whole] at short ⊢
    have first : fields? depthLimit (bytesField 1 any.toBytes) = some [⟨1, .bytes any.toBytes⟩] :=
      fields?_bytesField (by decide) (by decide) (by decide) short.left.content
    rw [fields?_append first, ih short.right]
    rfl

theorem short_of_mem {anys : List Any} (short : Short (ofAnys anys)) {any : Any} (member : any ∈ anys) :
    Short any.toBytes := by
  obtain ⟨front, back, rfl⟩ := List.append_of_mem member
  have shape : ofAnys (front ++ any :: back) =
      ofAnys front ++ (bytesField 1 any.toBytes ++ ofAnys back) := by
    simp [ofAnys]
  rw [shape] at short
  exact short.right.left.content

theorem wrapped?_ofAnys {anys : List Any} (short : Short (ofAnys anys)) :
    wrapped? (ofAnys anys) = some anys := by
  have each : ∀ any ∈ anys, Any.ofBytes? any.toBytes = some any := by
    intro any member
    exact any.merges_toBytes.read (short_of_mem short member)
  have own : (anys.map fun any => (⟨1, .bytes any.toBytes⟩ : Field)).filter (fun f => f.number = 1) =
      anys.map fun any => ⟨1, .bytes any.toBytes⟩ := by
    simp
  have unwrapped : (anys.map fun any => (⟨1, .bytes any.toBytes⟩ : Field)).mapM
      (fun field => field.bytes?.bind Any.ofBytes?) = pure (anys.map id) := by
    rw [List.mapM_map]
    exact mapM_eq_pure each
  rw [wrapped?, fields?_ofAnys short]
  simp only [bind, Option.bind_some, own, unwrapped, List.map_id]
  rfl

/-- A message as it was signed: a payload of a kind that is known, or a type url that is not. -/
inductive Sent where
  | deploy (payload : Deploy)
  | call (payload : Call)
  | run (payload : Run)
  | transfer (payload : Transfer)
  | other (typeUrl : String) (payload : Bytes) (unknown : typeUrl ∉ Amino.knownUrls)

namespace Sent

def any : Sent → Any
  | deploy payload => ⟨Message.addPackageUrl, payload.toBytes⟩
  | call payload => ⟨Message.callUrl, payload.toBytes⟩
  | run payload => ⟨Message.runUrl, payload.toBytes⟩
  | transfer payload => ⟨Message.sendUrl, payload.toBytes⟩
  | other typeUrl payload _ => ⟨typeUrl, payload⟩

/-- What it says: addresses in hexadecimal, coins as the node prints them, and the empty package where
there is none. -/
def message : Sent → Message
  | deploy payload =>
    .addPackage (Hex.text payload.creator) (payload.package.getD .empty) (Coin.listText payload.deposit)
  | call payload =>
    .call (Hex.text payload.caller) payload.pkgPath payload.func payload.args
      (Coin.listText payload.coins)
  | run payload => .run (Hex.text payload.caller) (payload.package.getD .empty)
  | transfer payload =>
    .send (Hex.text payload.sender) (Hex.text payload.recipient) (Coin.listText payload.amount)
  | other typeUrl _ _ => .unknown typeUrl

theorem message?_any (sent : Sent) (short : Short sent.any.toBytes) :
    message? sent.any = .ok sent.message := by
  have payloadShort : Short sent.any.value := short.right.contentUnlessEmpty
  have call : Message.callUrl ≠ Message.addPackageUrl := by decide
  have run : Message.runUrl ≠ Message.addPackageUrl ∧ Message.runUrl ≠ Message.callUrl := by decide
  have transfer : Message.sendUrl ≠ Message.addPackageUrl ∧ Message.sendUrl ≠ Message.callUrl ∧
      Message.sendUrl ≠ Message.runUrl := by decide
  cases sent with
  | deploy payload =>
    have read : Deploy.ofBytes? payload.toBytes = some payload := payload.merges_toBytes.read payloadShort
    simp [message?, any, read, Deploy.message, message]
  | call payload =>
    have read : Call.ofBytes? payload.toBytes = some payload := payload.merges_toBytes.read payloadShort
    simp [message?, any, call, read, Call.message, message]
  | run payload =>
    have read : Run.ofBytes? payload.toBytes = some payload := payload.merges_toBytes.read payloadShort
    simp [message?, any, run, read, Run.message, message]
  | transfer payload =>
    have read : Transfer.ofBytes? payload.toBytes = some payload :=
      payload.merges_toBytes.read payloadShort
    simp [message?, any, transfer, read, Transfer.message, message]
  | other typeUrl payload unknown =>
    simp only [Amino.knownUrls, List.mem_cons, List.not_mem_nil, or_false, not_or] at unknown
    simp [message?, any, unknown, message]

end Sent

theorem messages?_sent {sent : List Sent} (short : Short (ofAnys (sent.map Sent.any))) :
    messages? (ofAnys (sent.map Sent.any)) = .ok (sent.map Sent.message) := by
  rw [messages?, wrapped?_ofAnys short]
  simp only [List.mapM_map]
  apply mapM_eq_pure
  intro message member
  exact message.message?_any (short_of_mem short (List.mem_map_of_mem member))

theorem messages?_addPackageTx {creator : Bytes} {package : MemPackage}
    (short : Short (addPackageTx creator package).bytes) :
    messages? (addPackageTx creator package).bytes =
      .ok [.addPackage (Hex.text creator) package ""] := by
  have one : [Sent.deploy ⟨creator, some package, []⟩].map Sent.any =
      [⟨Message.addPackageUrl, Deploy.toBytes ⟨creator, some package, []⟩⟩] := rfl
  rw [addPackageTx, ← one] at short ⊢
  exact messages?_sent short

/-- What was written is read, message for message; so is a transaction that deploys a package. -/
theorem messages?_eq_written :
    (∀ sent : List Sent, Short (ofAnys (sent.map Sent.any)) →
      messages? (ofAnys (sent.map Sent.any)) = .ok (sent.map Sent.message)) ∧
    ∀ creator package, Short (addPackageTx creator package).bytes →
      messages? (addPackageTx creator package).bytes =
        .ok [.addPackage (Hex.text creator) package ""] :=
  ⟨fun _ short => messages?_sent short, fun _ _ short => messages?_addPackageTx short⟩

/-- Empty texts and addresses, a coin that is all defaults, the least amount, a missing package. -/
theorem messages?_mixed :
    messages? (ofAnys ([.transfer ⟨[0x01], [0xab], [⟨"ugnot", Int64.minValue⟩, ⟨"", 0⟩]⟩,
      .call ⟨[], [], "p", "", ["", "x"]⟩, .run ⟨[0x0a], [], none⟩, .other "" [0xff] (by decide),
      .deploy ⟨[0xff], some ⟨"", "", [⟨"", ""⟩]⟩, []⟩].map Sent.any)) =
      .ok [.send "01" "ab" "-9223372036854775808ugnot,0", .call "" "p" "" ["", "x"] "",
        .run "0a" .empty, .unknown "", .addPackage "ff" ⟨"", "", [⟨"", ""⟩]⟩ ""] ∧
    messages? (addPackageTx [0xff] ⟨"", "", [⟨"", ""⟩]⟩).bytes =
      .ok [.addPackage "ff" ⟨"", "", [⟨"", ""⟩]⟩ ""] := by
  refine ⟨(messages?_eq_written.1 _ ?_).trans (congrArg Except.ok ?_),
    (messages?_eq_written.2 _ _ ?_).trans (congrArg Except.ok ?_)⟩
  · rw [Short]
    decide +kernel
  · decide +kernel
  · rw [Short]
    decide +kernel
  · decide +kernel

end TokenIndexer.Tx.Binary
