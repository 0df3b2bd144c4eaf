import TokenIndexer.Block
import TokenIndexer.Event
import TokenIndexer.Message

/-! Events as JSON: the kind under `type` and what happened under `payload`, or an array of the two. -/

namespace TokenIndexer

namespace EventKind

def toJson (kind : EventKind) : Json := .text kind.name

def ofJson? : Json → Option EventKind :=
  Json.word? (EventKind.all.map fun kind => (kind.name, kind))

end EventKind

namespace TokenCandidate

def toJson (candidate : TokenCandidate) : Json :=
  .obj [("package_path", .text candidate.packagePath), ("height", .nat candidate.height.toNat),
    ("creator", .text candidate.creator),
    ("functions", .array (candidate.functions.map Json.text))]

def ofJson? (value : Json) : Option TokenCandidate := do
  match ← value.slots? ["package_path", "height", "creator", "functions"] with
  | [packagePath, height, creator, functions] =>
    some ⟨← packagePath.required? Json.text?, ← height.required? Json.word64?,
      ← creator.required? Json.text?, ← functions.required? (Json.list? Json.text?)⟩
  | _ => none

end TokenCandidate

namespace Event

def payload : Event → Json
  | .newBlock block results =>
    .obj [("block", block.toJson), ("results", .array (results.map TxResult.toJson))]
  | .tokenDetected candidate => candidate.toJson

def toJson (event : Event) : Json := .obj [("type", event.kind.toJson), ("payload", event.payload)]

def ofPayload? (payload : Json) : EventKind → Option Event
  | .newBlock => do
    match ← Json.slotsOfMembers? ["block", "results"] (← payload.members?) with
    | [block, results] =>
      some (.newBlock (← block.required? Block.ofJson?)
        (← results.required? (Json.list? TxResult.ofJson?)))
    | _ => none
  | .tokenDetected => (TokenCandidate.ofJson? payload).map .tokenDetected

def payloadLeads : List (Literal × Json) → Bool
  | [] => false
  | (key, _) :: rest =>
    if key = some "payload" then true else if key = some "type" then false else payloadLeads rest

def ofJson? : Json → Option Event
  | .object members => do
    match ← Json.slotsOfMembers? ["type", "payload"] members with
    | [.given kind, .given payload] =>
      if payloadLeads members && !payload.keepable (Json.depthLimit - 1) then none
      else ofPayload? payload (← EventKind.ofJson? kind)
    | _ => none
  | .array [.string kind, payload] => do ofPayload? payload (← EventKind.ofJson? (.string kind))
  | _ => none

end Event

end TokenIndexer
