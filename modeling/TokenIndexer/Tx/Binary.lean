import TokenIndexer.Bytes
import TokenIndexer.Message
import TokenIndexer.Node
import TokenIndexer.Proto.Field

/-!
The binary form of a transaction. Fee, signatures and memo are passed over, and addresses are raw bytes.
-/

namespace TokenIndexer.Tx.Binary

open Proto

structure Any where
  typeUrl : String
  value : Bytes
  deriving DecidableEq

structure Coin where
  denom : String
  amount : Int64
  deriving DecidableEq

namespace Any

def merge (any : Any) (field : Field) : Option Any :=
  match field.number with
  | 1 => field.text?.map fun text => { any with typeUrl := text }
  | 2 => field.bytes?.map fun bytes => { any with value := bytes }
  | _ => some any

def ofBytes? (bytes : Bytes) : Option Any := do
  (← fields? (depthLimit - 1) bytes).foldlM merge ⟨"", []⟩

def toBytes (any : Any) : Bytes :=
  bytesFieldUnlessEmpty 1 (Utf8.encode any.typeUrl) ++ bytesFieldUnlessEmpty 2 any.value

end Any

namespace Coin

def merge (coin : Coin) (field : Field) : Option Coin :=
  match field.number with
  | 1 => field.text?.map fun text => { coin with denom := text }
  | 2 => field.signed64?.map fun n => { coin with amount := n }
  | _ => some coin

def ofBytes? (bytes : Bytes) : Option Coin := do
  (← fields? (depthLimit - 1) bytes).foldlM merge ⟨"", 0⟩

def toBytes (coin : Coin) : Bytes :=
  bytesFieldUnlessEmpty 1 (Utf8.encode coin.denom) ++
    (if coin.amount = 0 then [] else varintField 2 coin.amount.toUInt64.toNat)

def text (coin : Coin) : String := Decimal.intText coin.amount.toInt ++ coin.denom

def listText (coins : List Coin) : String := String.intercalate "," (coins.map text)

end Coin

namespace File

def merge (file : MemFile) (field : Field) : Option MemFile :=
  match field.number with
  | 1 => field.text?.map fun text => { file with name := text }
  | 2 => field.text?.map fun text => { file with body := text }
  | _ => some file

def ofBytes? (bytes : Bytes) : Option MemFile := do
  (← fields? (depthLimit - 2) bytes).foldlM merge ⟨"", ""⟩

def toBytes (file : MemFile) : Bytes :=
  bytesFieldUnlessEmpty 1 (Utf8.encode file.name) ++ bytesFieldUnlessEmpty 2 (Utf8.encode file.body)

end File

namespace Package

def merge (package : MemPackage) (field : Field) : Option MemPackage :=
  match field.number with
  | 1 => field.text?.map fun text => { package with name := text }
  | 2 => field.text?.map fun text => { package with path := text }
  | 3 => (field.bytes?.bind File.ofBytes?).map fun file =>
    { package with files := package.files ++ [file] }
  | _ => some package

/-- Fields of a package that follow those already read: a repeated package continues the first. -/
def mergeBytes (package : MemPackage) (bytes : Bytes) : Option MemPackage := do
  (← fields? (depthLimit - 1) bytes).foldlM merge package

def toBytes (package : MemPackage) : Bytes :=
  bytesFieldUnlessEmpty 1 (Utf8.encode package.name) ++
    bytesFieldUnlessEmpty 2 (Utf8.encode package.path) ++
    package.files.flatMap fun file => bytesField 3 (File.toBytes file)

end Package

structure Deploy where
  creator : Bytes
  package : Option MemPackage
  deposit : List Coin
  deriving DecidableEq

structure Call where
  caller : Bytes
  coins : List Coin
  pkgPath : String
  func : String
  args : List String
  deriving DecidableEq

structure Run where
  caller : Bytes
  coins : List Coin
  package : Option MemPackage
  deriving DecidableEq

structure Transfer where
  sender : Bytes
  recipient : Bytes
  amount : List Coin
  deriving DecidableEq

def addCoin (coins : List Coin) (field : Field) : Option (List Coin) :=
  (field.bytes?.bind Coin.ofBytes?).map fun coin => coins ++ [coin]

def mergePackage (package : Option MemPackage) (field : Field) : Option (Option MemPackage) :=
  (field.bytes?.bind (Package.mergeBytes (package.getD .empty))).map some

def packageField (number : Nat) : Option MemPackage → Bytes
  | none => []
  | some package => bytesField number (Package.toBytes package)

def coinFields (number : Nat) (coins : List Coin) : Bytes :=
  coins.flatMap fun coin => bytesField number coin.toBytes

namespace Deploy

def merge (deploy : Deploy) (field : Field) : Option Deploy :=
  match field.number with
  | 1 => field.bytes?.map fun bytes => { deploy with creator := bytes }
  | 2 => (mergePackage deploy.package field).map fun package => { deploy with package := package }
  | 3 => (addCoin deploy.deposit field).map fun coins => { deploy with deposit := coins }
  | _ => some deploy

def ofBytes? (bytes : Bytes) : Option Deploy := do
  (← fields? depthLimit bytes).foldlM merge ⟨[], none, []⟩

def toBytes (deploy : Deploy) : Bytes :=
  bytesFieldUnlessEmpty 1 deploy.creator ++ packageField 2 deploy.package ++
    coinFields 3 deploy.deposit

def message (deploy : Deploy) : Message :=
  .addPackage (Hex.text deploy.creator) (deploy.package.getD .empty) (Coin.listText deploy.deposit)

end Deploy

namespace Call

def merge (call : Call) (field : Field) : Option Call :=
  match field.number with
  | 1 => field.bytes?.map fun bytes => { call with caller := bytes }
  | 2 => (addCoin call.coins field).map fun coins => { call with coins := coins }
  | 3 => field.text?.map fun text => { call with pkgPath := text }
  | 4 => field.text?.map fun text => { call with func := text }
  | 5 => field.text?.map fun text => { call with args := call.args ++ [text] }
  | _ => some call

def ofBytes? (bytes : Bytes) : Option Call := do
  (← fields? depthLimit bytes).foldlM merge ⟨[], [], "", "", []⟩

def toBytes (call : Call) : Bytes :=
  bytesFieldUnlessEmpty 1 call.caller ++ coinFields 2 call.coins ++
    bytesFieldUnlessEmpty 3 (Utf8.encode call.pkgPath) ++
    bytesFieldUnlessEmpty 4 (Utf8.encode call.func) ++
    call.args.flatMap fun arg => bytesField 5 (Utf8.encode arg)

def message (call : Call) : Message :=
  .call (Hex.text call.caller) call.pkgPath call.func call.args (Coin.listText call.coins)

end Call

namespace Run

def merge (run : Run) (field : Field) : Option Run :=
  match field.number with
  | 1 => field.bytes?.map fun bytes => { run with caller := bytes }
  | 2 => (addCoin run.coins field).map fun coins => { run with coins := coins }
  | 3 => (mergePackage run.package field).map fun package => { run with package := package }
  | _ => some run

def ofBytes? (bytes : Bytes) : Option Run := do
  (← fields? depthLimit bytes).foldlM merge ⟨[], [], none⟩

def toBytes (run : Run) : Bytes :=
  bytesFieldUnlessEmpty 1 run.caller ++ coinFields 2 run.coins ++ packageField 3 run.package

def message (run : Run) : Message := .run (Hex.text run.caller) (run.package.getD .empty)

end Run

namespace Transfer

def merge (transfer : Transfer) (field : Field) : Option Transfer :=
  match field.number with
  | 1 => field.bytes?.map fun bytes => { transfer with sender := bytes }
  | 2 => field.bytes?.map fun bytes => { transfer with recipient := bytes }
  | 3 => (addCoin transfer.amount field).map fun coins => { transfer with amount := coins }
  | _ => some transfer

def ofBytes? (bytes : Bytes) : Option Transfer := do
  (← fields? depthLimit bytes).foldlM merge ⟨[], [], []⟩

def toBytes (transfer : Transfer) : Bytes :=
  bytesFieldUnlessEmpty 1 transfer.sender ++ bytesFieldUnlessEmpty 2 transfer.recipient ++
    coinFields 3 transfer.amount

def message (transfer : Transfer) : Message :=
  .send (Hex.text transfer.sender) (Hex.text transfer.recipient) (Coin.listText transfer.amount)

end Transfer

def message? (any : Any) : Except DecodeCause Message :=
  let known (message : Option Message) : Except DecodeCause Message :=
    match message with
    | some message => .ok message
    | none => .error (.payload any.typeUrl)
  if any.typeUrl = Message.addPackageUrl then known ((Deploy.ofBytes? any.value).map Deploy.message)
  else if any.typeUrl = Message.callUrl then known ((Call.ofBytes? any.value).map Call.message)
  else if any.typeUrl = Message.runUrl then known ((Run.ofBytes? any.value).map Run.message)
  else if any.typeUrl = Message.sendUrl then
    known ((Transfer.ofBytes? any.value).map Transfer.message)
  else .ok (.unknown any.typeUrl)

/-- The messages in their wrappers, before their payloads are looked at. -/
def wrapped? (bytes : Bytes) : Option (List Any) := do
  let fields ← fields? depthLimit bytes
  (fields.filter fun field => field.number = 1).mapM fun field => field.bytes?.bind Any.ofBytes?

def messages? (bytes : Bytes) : Except DecodeCause (List Message) :=
  match wrapped? bytes with
  | none => .error .binaryTx
  | some anys => anys.mapM message?

/-! ### Writing -/

def ofAnys (anys : List Any) : Bytes := anys.flatMap fun any => bytesField 1 any.toBytes

def addPackageTx (creator : Bytes) (package : MemPackage) : Tx :=
  ⟨ofAnys [⟨Message.addPackageUrl, Deploy.toBytes ⟨creator, some package, []⟩⟩]⟩

end TokenIndexer.Tx.Binary
