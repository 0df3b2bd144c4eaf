import TokenIndexer.Proofs.Json.Grammar
import TokenIndexer.Proofs.Json.Members
import TokenIndexer.Proofs.Json.RoundTrip
import TokenIndexer.Proofs.Tx.Binary
import TokenIndexer.Tx.Decoder

/-! A deployment in its two forms. -/

namespace TokenIndexer.Tx

open Json

variable {file : MemFile} {files : List MemFile} {package : MemPackage} {creator deposit : String}
  {value : Json}

/-! ### The parts of a deployment -/

def FileForm (file : MemFile) (value : Json) : Prop :=
  Gives [("name", text file.name), ("body", text file.body)] value

/-- The files as a member of their package. Null or no such member at all stand for no files. -/
inductive FilesForm : List MemFile → List (String × Json) → Prop where
  | listed {files : List MemFile} {items : List Json} (each : List.Forall₂ FileForm files items) :
    FilesForm files [("files", .array items)]
  | null : FilesForm [] [("files", .null)]
  | absent : FilesForm [] []

def PackageForm (package : MemPackage) (value : Json) : Prop :=
  ∃ files, FilesForm package.files files ∧
    Gives (("name", text package.name) :: ("path", text package.path) :: files) value

inductive DepositForm : String → List (String × Json) → Prop where
  | given {deposit : String} : DepositForm deposit [("deposit", text deposit)]
  | absent : DepositForm "" []

def DeployForm (creator : String) (package : MemPackage) (deposit : String) (value : Json) : Prop :=
  ∃ inner coins, PackageForm package inner ∧ DepositForm deposit coins ∧
    Gives (("@type", text Message.addPackageUrl) :: ("creator", text creator) :: ("package", inner) ::
      coins) value

/-- A transaction with one deployment, and with any members but a second `msg`. -/
def TxForm (creator : String) (package : MemPackage) (deposit : String) (value : Json) : Prop :=
  ∃ message extra, DeployForm creator package deposit message ∧ "msg" ∉ extra.map (·.1) ∧
    Gives (("msg", .array [message]) :: extra) value

/-! ### Reading them -/

theorem FileForm.read (form : FileForm file value) : MemFile.ofJson? value = some file := by
  rw [MemFile.ofJson?, form.slots?, slots?_obj (by rfl) (by decide)]
  rfl

theorem mapM_fileForm {items : List Json} (each : List.Forall₂ FileForm files items) :
    items.mapM MemFile.ofJson? = some files := by
  apply mapM_eq_some_iff.2
  exact List.Forall₂.imp (fun _ _ form => FileForm.read form) each.flip

theorem PackageForm.read (form : PackageForm package value) : Amino.package? value = some package := by
  obtain ⟨members, files, gives⟩ := form
  obtain ⟨name, path, fileList⟩ := package
  rw [Amino.package?, gives.slots?]
  cases files with
  | listed each =>
    rw [slots?_obj (by rfl) (by decide)]
    simp [Slot.required?, Slot.defaulted?, nullable?, Slot.optional?, list?, items?, mapM_fileForm each]
  | null =>
    rw [slots?_obj (by rfl) (by decide)]
    rfl
  | absent => rfl

theorem DeployForm.read (form : DeployForm creator package deposit value) :
    Amino.message? value = .ok (.addPackage creator package deposit) := by
  obtain ⟨inner, coins, packageForm, depositForm, gives⟩ := form
  have apart : "@type" ∉ (("creator", text creator) :: ("package", inner) :: coins).map (·.1) := by
    cases depositForm <;> simp
  obtain ⟨fields, tagged, rest⟩ := gives.tagged? apart
  have known : Message.addPackageUrl ∈ Amino.knownUrls := List.mem_cons_self
  have fieldsRead : Amino.ofFields? Message.addPackageUrl fields =
      some (.addPackage creator package deposit) := by
    rw [Amino.ofFields?, if_pos rfl, rest.slots?]
    cases depositForm with
    | given =>
      rw [slots?_obj (by rfl) (by decide)]
      simp [Slot.required?, Slot.defaulted?, packageForm.read]
    | absent =>
      have slots : (obj [("creator", text creator), ("package", inner)]).slots?
          ["creator", "package", "deposit"] =
          some [.given (text creator), .given inner, .missing] := rfl
      rw [slots]
      simp [Slot.required?, Slot.defaulted?, packageForm.read]
  obtain ⟨listed, -, rfl⟩ := gives
  rw [Amino.message?, tagged]
  simp only [if_pos known, fieldsRead]

/-! ### Keeping them -/

section Kept

variable (spelled : String → Option Json) (depth : Nat)

theorem FileForm.kept (form : FileForm file value) :
    ∃ result, keepBy? spelled (depth + 1) value = some result ∧ FileForm file result := by
  have keys : [("name", text file.name), ("body", text file.body)].map (·.1) = ["name", "body"] := rfl
  exact form.keepBy? (.cons ⟨rfl, rfl, rfl⟩ (.cons ⟨rfl, rfl, rfl⟩ .nil)) keys (by decide) (by decide)

theorem keepItemsBy?_fileForm {items : List Json} (each : List.Forall₂ FileForm files items) :
    ∃ results, keepItemsBy? spelled (depth + 1) items = some results ∧
      List.Forall₂ FileForm files results := by
  induction each with
  | nil => exact ⟨[], rfl, .nil⟩
  | cons first _ ih =>
    obtain ⟨result, keptFirst, form⟩ := first.kept spelled depth
    obtain ⟨results, keptRest, forms⟩ := ih
    refine ⟨result :: results, ?_, .cons form forms⟩
    rw [keepItemsBy?, keptFirst, keptRest]
    rfl

theorem FilesForm.kept {members : List (String × Json)} (form : FilesForm files members) :
    ∃ results, FilesForm files results ∧
      List.Forall₂ (MemberKept spelled (depth + 2)) (named members) (named results) := by
  cases form with
  | listed each =>
    obtain ⟨results, kept, forms⟩ := keepItemsBy?_fileForm spelled depth each
    refine ⟨_, .listed forms, .cons ⟨rfl, rfl, ?_⟩ .nil⟩
    simp [keepBy?, kept]
  | null => exact ⟨_, .null, .cons ⟨rfl, rfl, rfl⟩ .nil⟩
  | absent => exact ⟨_, .absent, .nil⟩

theorem FilesForm.keys {members : List (String × Json)} (form : FilesForm files members) :
    ∃ names ∈ [[], ["files"]], members.map (·.1) = names := by
  cases form <;> simp

theorem DepositForm.keys {members : List (String × Json)} (form : DepositForm deposit members) :
    ∃ names ∈ [[], ["deposit"]], members.map (·.1) = names := by
  cases form <;> simp

theorem PackageForm.kept (form : PackageForm package value) :
    ∃ result, keepBy? spelled (depth + 3) value = some result ∧ PackageForm package result := by
  obtain ⟨members, files, gives⟩ := form
  obtain ⟨results, filesKept, each⟩ := files.kept spelled depth
  obtain ⟨names, known, keys⟩ := files.keys
  have distinct : ∀ names ∈ [[], ["files"]], ("name" :: "path" :: names).Nodup ∧
      verbatimKey ∉ "name" :: "path" :: names := by decide
  have eachMember : List.Forall₂ (MemberKept spelled (depth + 2))
      (named (("name", text package.name) :: ("path", text package.path) :: members))
      (named (("name", text package.name) :: ("path", text package.path) :: results)) :=
    .cons ⟨rfl, rfl, rfl⟩ (.cons ⟨rfl, rfl, rfl⟩ each)
  obtain ⟨result, kept, givesKept⟩ := gives.keepBy? eachMember (by rw [← keys]; rfl)
    (distinct names known).1 (distinct names known).2
  exact ⟨result, kept, results, filesKept, givesKept⟩

theorem DeployForm.kept (form : DeployForm creator package deposit value) :
    ∃ result, keepBy? spelled (depth + 4) value = some result ∧
      DeployForm creator package deposit result := by
  obtain ⟨inner, coins, packageForm, depositForm, gives⟩ := form
  obtain ⟨inner', keptInner, packageForm'⟩ := packageForm.kept spelled depth
  have each : List.Forall₂ (MemberKept spelled (depth + 3)) (named coins) (named coins) := by
    cases depositForm with
    | given => exact .cons ⟨rfl, rfl, rfl⟩ .nil
    | absent => exact .nil
  obtain ⟨names, known, keys⟩ := depositForm.keys
  have distinct : ∀ names ∈ [[], ["deposit"]],
      ("@type" :: "creator" :: "package" :: names).Nodup ∧
        verbatimKey ∉ "@type" :: "creator" :: "package" :: names := by decide
  have eachMember : List.Forall₂ (MemberKept spelled (depth + 3))
      (named (("@type", text Message.addPackageUrl) :: ("creator", text creator) ::
        ("package", inner) :: coins))
      (named (("@type", text Message.addPackageUrl) :: ("creator", text creator) ::
        ("package", inner') :: coins)) :=
    .cons ⟨rfl, rfl, rfl⟩ (.cons ⟨rfl, rfl, rfl⟩ (.cons ⟨rfl, rfl, keptInner⟩ each))
  obtain ⟨result, kept, givesKept⟩ := gives.keepBy? eachMember (by rw [← keys]; rfl)
    (distinct names known).1 (distinct names known).2
  exact ⟨result, kept, inner', coins, packageForm', depositForm, givesKept⟩

end Kept

/-! ### Whole transactions -/

theorem TxForm.messages? (form : TxForm creator package deposit value) {bytes : Bytes}
    (parsed : Json.parse? bytes = some value) :
    Amino.messages? bytes = .ok [.addPackage creator package deposit] := by
  obtain ⟨message, extra, deploy, single, gives⟩ := form
  obtain ⟨result, kept, deployKept⟩ := deploy.kept spelled? (depthLimit - 6)
  have slots : value.slots? ["msg"] = some [.given (.array [message])] := by
    rw [gives.slots?, obj, List.map_cons, Json.slots?, slotsOfMembers?, if_pos (by simp),
      List.mapM_cons, slotOf?, membersAt_cons, if_pos rfl, membersAt_eq_nil single]
    rfl
  have values : Amino.values? bytes = some [result] := by
    have keptMessage : kept? (depthLimit - 2) message = some result := kept
    rw [Amino.values?, parsed]
    simp [slots, nullable?, Slot.optional?, list?, items?, keptMessage]
  rw [Amino.messages?, values]
  simp only [List.mapM_cons, List.mapM_nil, deployKept.read]
  rfl

theorem looksLikeJson_object {bytes : Bytes} {members : List (Literal × Json)}
    (parsed : Json.parse? bytes = some (.object members)) : looksLikeJson bytes = true := by
  obtain ⟨gap, rest, rfl⟩ := brace_of_parse? parsed
  have blank : ∀ b ∈ gap.bytes, isAsciiBlank b = true := by
    intro b member
    have narrow := gap.blank b member
    simp only [Token.isBlankByte, Bool.or_eq_true, beq_iff_eq] at narrow
    rcases narrow with ((rfl | rfl) | rfl) | rfl <;> rfl
  rw [looksLikeJson, List.dropWhile_append_of_pos blank]
  rfl

theorem Decoder.messages?_txForm (form : TxForm creator package deposit value) {bytes : Bytes}
    (parsed : Json.parse? bytes = some value) :
    Decoder.amino.messages? ⟨bytes⟩ = .ok [.addPackage creator package deposit] := by
  have read := form.messages? parsed
  obtain ⟨message, extra, -, -, listed, -, rfl⟩ := form
  simp only [Decoder.messages?, looksLikeJson_object parsed, if_true, read]
  rfl

def deploymentJson (creator : String) (package : MemPackage) (deposit : String) : Json :=
  .obj [("msg", .array [.obj [("@type", .text Message.addPackageUrl), ("creator", .text creator),
    ("package", package.toJson), ("deposit", .text deposit)]])]

theorem packageForm_toJson (package : MemPackage) : PackageForm package package.toJson := by
  have each : List.Forall₂ FileForm package.files (package.files.map MemFile.toJson) := by
    rw [List.forall₂_map_right_iff, List.forall₂_same]
    intro file _
    exact gives_obj _
  exact ⟨_, .listed each, gives_obj _⟩

theorem txForm_deploymentJson (creator : String) (package : MemPackage) (deposit : String) :
    TxForm creator package deposit (deploymentJson creator package deposit) :=
  ⟨_, [], ⟨_, _, packageForm_toJson package, .given, gives_obj _⟩, by simp, gives_obj _⟩

theorem writable_deploymentJson (creator : String) (package : MemPackage) (deposit : String) :
    (deploymentJson creator package deposit).Writable := by
  have deploy : (obj [("@type", text Message.addPackageUrl), ("creator", text creator),
      ("package", package.toJson), ("deposit", text deposit)]).Writable := by
    apply writable_obj
    simp [writable_text, MemPackage.writable_toJson]
  have messages : (Json.array [obj [("@type", text Message.addPackageUrl), ("creator", text creator),
      ("package", package.toJson), ("deposit", text deposit)]]).Writable := by
    apply writable_array
    simpa using deploy
  apply writable_obj
  simpa using messages

/-- A deployment is read from any text that spells it, with other members of the transaction, members in
any order and white space anywhere, the empty parts left out or not; the binary form gives the same
package. -/
theorem Decoder.messages?_forms :
    (∀ creator package deposit (gap : Nat → Token.Gap),
      Decoder.amino.messages? ⟨(deploymentJson creator package deposit).spaced gap⟩ =
        .ok [.addPackage creator package deposit]) ∧
    (∀ creator package deposit value, TxForm creator package deposit value →
      (∀ bytes, Json.parse? bytes = some value →
        Decoder.amino.messages? ⟨bytes⟩ = .ok [.addPackage creator package deposit]) ∧
      (value.Writable → ∀ gap : Nat → Token.Gap,
        Decoder.amino.messages? ⟨value.spaced gap⟩ = .ok [.addPackage creator package deposit])) ∧
    ∀ creator package, Proto.Short (Binary.addPackageTx creator package).bytes →
      Binary.messages? (Binary.addPackageTx creator package).bytes =
        .ok [.addPackage (Hex.text creator) package ""] := by
  refine ⟨?_, ?_, ?_⟩
  · intro creator package deposit gap
    exact messages?_txForm (txForm_deploymentJson creator package deposit)
      (parse?_spaced gap (writable_deploymentJson creator package deposit))
  · intro creator package deposit value form
    refine ⟨?_, ?_⟩
    · intro bytes parsed
      exact messages?_txForm form parsed
    · intro writable gap
      exact messages?_txForm form (parse?_spaced gap writable)
  · intro creator package short
    exact Binary.messages?_addPackageTx short

/-- All members the other way round, a fee, null for the files and no deposit. -/
theorem Decoder.messages?_forms_reversed :
    let package : MemPackage := ⟨"n", "p", []⟩
    let inner := obj [("files", .null), ("path", text "p"), ("name", text "n")]
    let message := obj [("package", inner), ("creator", text "ab"), ("@type", text Message.addPackageUrl)]
    let value := obj [("fee", .null), ("msg", .array [message])]
    TxForm "ab" package "" value ∧ Json.parse? value.render = some value ∧
      Decoder.amino.messages? ⟨value.render⟩ = .ok [.addPackage "ab" package ""] ∧
      Decoder.amino.messages? ⟨value.spaced fun _ => ⟨[0x20, 0x0a], List.all_eq_true.1 rfl⟩⟩ =
        .ok [.addPackage "ab" package ""] ∧
      Binary.messages? (Binary.addPackageTx [0xab] package).bytes = .ok [.addPackage "ab" package ""] := by
  intro package inner message value
  have form : TxForm "ab" package "" value := by
    have packageForm : PackageForm package inner := ⟨_, .null, _, List.reverse_perm _, rfl⟩
    have deployForm : DeployForm "ab" package "" message :=
      ⟨inner, _, packageForm, .absent, _, List.reverse_perm _, rfl⟩
    exact ⟨message, [("fee", .null)], deployForm, by simp, _, List.reverse_perm _, rfl⟩
  have writable : value.Writable := by
    have packageWritable : inner.Writable := by
      apply writable_obj
      simp [writable_text, writable_null]
    have messageWritable : message.Writable := by
      apply writable_obj
      simp [writable_text, packageWritable]
    have messages : (Json.array [message]).Writable := by
      apply writable_array
      simp [messageWritable]
    apply writable_obj
    simp [writable_null, messages]
  have parsed : Json.parse? value.render = some value := parse?_render writable
  refine ⟨form, parsed, ?_, ?_, ?_⟩
  · exact (Decoder.messages?_forms.2.1 _ _ _ _ form).1 _ parsed
  · exact (Decoder.messages?_forms.2.1 _ _ _ _ form).2 writable _
  · exact Decoder.messages?_forms.2.2 [0xab] package (by rw [Proto.Short]; decide +kernel)

end TokenIndexer.Tx
