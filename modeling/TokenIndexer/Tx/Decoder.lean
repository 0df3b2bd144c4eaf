import TokenIndexer.Message
import TokenIndexer.Node
import TokenIndexer.Tx.Binary

/-! From a transaction to its messages. The form is told by the first byte that is not ASCII white space. -/

namespace TokenIndexer.Tx.Amino

/-- A package whose name may be missing and whose files may be missing or null. -/
def package? (value : Json) : Option MemPackage := do
  match ← value.slots? ["name", "path", "files"] with
  | [name, path, files] =>
    some ⟨← name.defaulted? Json.text? "", ← path.required? Json.text?,
      (← Json.nullable? (Json.list? MemFile.ofJson?) files).getD []⟩
  | _ => none

def ofFields? (typeUrl : String) (fields : Json) : Option Message := do
  if typeUrl = Message.addPackageUrl then
    match ← fields.slots? ["creator", "package", "deposit"] with
    | [creator, package, deposit] =>
      some (.addPackage (← creator.required? Json.text?) (← package.required? package?)
        (← deposit.defaulted? Json.text? ""))
    | _ => none
  else if typeUrl = Message.callUrl then
    match ← fields.slots? ["caller", "send", "pkg_path", "func", "args"] with
    | [caller, coins, pkgPath, func, args] =>
      some (.call (← caller.required? Json.text?) (← pkgPath.required? Json.text?)
        (← func.required? Json.text?) ((← Json.nullable? (Json.list? Json.text?) args).getD [])
        (← coins.defaulted? Json.text? ""))
    | _ => none
  else if typeUrl = Message.runUrl then
    match ← fields.slots? ["caller", "package"] with
    | [caller, package] =>
      some (.run (← caller.required? Json.text?) (← package.required? package?))
    | _ => none
  else
    match ← fields.slots? ["from_address", "to_address", "amount"] with
    | [sender, recipient, amount] =>
      some (.send (← sender.required? Json.text?) (← recipient.required? Json.text?)
        (← amount.required? Json.text?))
    | _ => none

def knownUrls : List String :=
  [Message.addPackageUrl, Message.callUrl, Message.runUrl, Message.sendUrl]

def message? (value : Json) : Except DecodeCause Message :=
  match value with
  | .object _ =>
    match value.tagged? "@type" with
    | some (typeUrl, fields) =>
      if typeUrl ∈ knownUrls then
        match ofFields? typeUrl fields with
        | some message => .ok message
        | none => .error (.payload typeUrl)
      else .ok (.unknown typeUrl)
    | none => .error .untypedMessage
  | _ => .error .untypedMessage

/-- The values in the transaction's `msg`, kept in canonical form; the transaction and the list
are the two containers around them. -/
def values? (bytes : Bytes) : Option (List Json) := do
  match ← (← Json.parse? bytes).slots? ["msg"] with
  | [messages] =>
    let kept := Json.list? (Json.kept? (Json.depthLimit - 2))
    some ((← Json.nullable? kept messages).getD [])
  | _ => none

def messages? (bytes : Bytes) : Except DecodeCause (List Message) :=
  match values? bytes with
  | none => .error .jsonTx
  | some values => values.mapM message?

end TokenIndexer.Tx.Amino

namespace TokenIndexer.Tx

inductive Decoder where
  /-- The JSON form alone. -/
  | json
  /-- Either form. -/
  | amino
  /-- A reader of the caller's own. -/
  | custom (read : Tx → Except NodeError (List Message))

def isAsciiBlank (b : UInt8) : Bool :=
  b == 0x20 || b == 0x09 || b == 0x0a || b == 0x0c || b == 0x0d

def looksLikeJson (bytes : Bytes) : Bool := (bytes.dropWhile isAsciiBlank).head? == some 0x7b

def Decoder.messages? (decoder : Decoder) (tx : Tx) : Except NodeError (List Message) :=
  match decoder with
  | .json => (Amino.messages? tx.bytes).mapError .decode
  | .amino =>
    let read := if looksLikeJson tx.bytes then Amino.messages? tx.bytes else Binary.messages? tx.bytes
    read.mapError .decode
  | .custom read => read tx

end TokenIndexer.Tx
