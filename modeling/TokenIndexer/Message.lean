import TokenIndexer.Json.Shape

/-! Messages, and their JSON: an object with its kind under `kind`, or an array with its kind first. -/

namespace TokenIndexer

structure MemFile where
  name : String
  body : String
  deriving DecidableEq, Repr

/-- A package carried inline by a deploy or run message. -/
structure MemPackage where
  name : String
  path : String
  files : List MemFile
  deriving DecidableEq, Repr

namespace MemPackage

def empty : MemPackage := ⟨"", "", []⟩

def file? (package : MemPackage) (name : String) : Option MemFile :=
  package.files.find? fun file => file.name = name

end MemPackage

inductive Message where
  /-- Deploys a new package at the package's path. -/
  | addPackage (creator : String) (package : MemPackage) (deposit : String)
  /-- Calls an exported function of a deployed realm. -/
  | call (caller pkgPath func : String) (args : List String) (send : String)
  /-- Transfers coins. -/
  | send (sender recipient amount : String)
  /-- Runs a package without deploying it. -/
  | run (caller : String) (package : MemPackage)
  | unknown (typeUrl : String)
  deriving DecidableEq, Repr

namespace Message

def kind : Message → String
  | .addPackage .. => "add_package"
  | .call .. => "call"
  | .send .. => "send"
  | .run .. => "run"
  | .unknown .. => "unknown"

def addPackageUrl : String := "/vm.m_addpkg"

def callUrl : String := "/vm.m_call"

def runUrl : String := "/vm.m_run"

def sendUrl : String := "/bank.MsgSend"

end Message

namespace MemFile

def toJson (file : MemFile) : Json := .obj [("name", .text file.name), ("body", .text file.body)]

def ofJson? (value : Json) : Option MemFile := do
  match ← value.slots? ["name", "body"] with
  | [name, body] => some ⟨← name.required? Json.text?, ← body.required? Json.text?⟩
  | _ => none

end MemFile

namespace MemPackage

def toJson (package : MemPackage) : Json :=
  .obj [("name", .text package.name), ("path", .text package.path),
    ("files", .array (package.files.map MemFile.toJson))]

def ofJson? (value : Json) : Option MemPackage := do
  match ← value.slots? ["name", "path", "files"] with
  | [name, path, files] =>
    some ⟨← name.required? Json.text?, ← path.required? Json.text?,
      ← files.defaulted? (Json.list? MemFile.ofJson?) []⟩
  | _ => none

end MemPackage

namespace Json

/-- A tagged value: the text under `tag` and the other members, or the first item and the rest. -/
def tagged? (tag : String) : Json → Option (String × Json)
  | .object members =>
    match membersAt tag members with
    | [.string (some text)] => some (text, .object (members.filter fun (key, _) => key ≠ some tag))
    | _ => none
  | .array (.string (some text) :: items) => some (text, .array items)
  | _ => none

end Json

namespace Message

def toJson : Message → Json
  | .addPackage creator package deposit =>
    .obj [("kind", .text "add_package"), ("creator", .text creator), ("package", package.toJson),
      ("deposit", .text deposit)]
  | .call caller pkgPath func args coins =>
    .obj [("kind", .text "call"), ("caller", .text caller), ("pkg_path", .text pkgPath),
      ("func", .text func), ("args", .array (args.map Json.text)), ("send", .text coins)]
  | .send sender recipient amount =>
    .obj [("kind", .text "send"), ("from", .text sender), ("to", .text recipient),
      ("amount", .text amount)]
  | .run caller package =>
    .obj [("kind", .text "run"), ("caller", .text caller), ("package", package.toJson)]
  | .unknown typeUrl => .obj [("kind", .text "unknown"), ("type_url", .text typeUrl)]

def ofFields? (kind : String) (fields : Json) : Option Message := do
  if kind = "add_package" then
    match ← fields.slots? ["creator", "package", "deposit"] with
    | [creator, package, deposit] =>
      some (.addPackage (← creator.required? Json.text?) (← package.required? MemPackage.ofJson?)
        (← deposit.required? Json.text?))
    | _ => none
  else if kind = "call" then
    match ← fields.slots? ["caller", "pkg_path", "func", "args", "send"] with
    | [caller, pkgPath, func, args, coins] =>
      some (.call (← caller.required? Json.text?) (← pkgPath.required? Json.text?)
        (← func.required? Json.text?) (← args.required? (Json.list? Json.text?))
        (← coins.required? Json.text?))
    | _ => none
  else if kind = "send" then
    match ← fields.slots? ["from", "to", "amount"] with
    | [sender, recipient, amount] =>
      some (.send (← sender.required? Json.text?) (← recipient.required? Json.text?)
        (← amount.required? Json.text?))
    | _ => none
  else if kind = "run" then
    match ← fields.slots? ["caller", "package"] with
    | [caller, package] =>
      some (.run (← caller.required? Json.text?) (← package.required? MemPackage.ofJson?))
    | _ => none
  else if kind = "unknown" then
    match ← fields.slots? ["type_url"] with
    | [typeUrl] => some (.unknown (← typeUrl.required? Json.text?))
    | _ => none
  else none

def ofJson? (value : Json) : Option Message := do
  if value.keepable Json.depthLimit then
    let (kind, fields) ← value.tagged? "kind"
    ofFields? kind fields
  else none

end Message

end TokenIndexer
