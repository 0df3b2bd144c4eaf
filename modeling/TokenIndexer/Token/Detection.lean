import TokenIndexer.Event
import TokenIndexer.Node
import TokenIndexer.Token.Banker
import TokenIndexer.Tx.Decoder

/-!
Token contracts among the packages that a block deploys. A transaction that is not understood and a package
that cannot be asked about are passed over.
-/

namespace TokenIndexer.Token

def interface : List String :=
  ["TotalSupply", "BalanceOf", "Transfer", "Allowance", "Approve", "TransferFrom"]

def exportsInterface (exported : List String) : Bool := interface.all exported.contains

structure Detector where
  decoder : Tx.Decoder
  /-- Whether a package must build a banker from literal metadata. -/
  requireBanker : Bool
  /-- What the application answers about the functions of a package. -/
  query : String → Except NodeError QueryResponse

structure Deployment where
  creator : String
  package : MemPackage
  deriving DecidableEq

namespace Deployment

def ofMessage? : Message → Option Deployment
  | .addPackage creator package _ => some ⟨creator, package⟩
  | _ => none

/-- What a result deploys: nothing unless it succeeded and its transaction is understood. -/
def ofResult (decoder : Tx.Decoder) (result : TxResult) : List Deployment :=
  if result.succeeded then
    match decoder.messages? result.tx with
    | .ok messages => messages.filterMap ofMessage?
    | .error _ => []
  else []

end Deployment

namespace Detector

def inspected (detector : Detector) (results : List TxResult) : List Deployment :=
  (results.flatMap (Deployment.ofResult detector.decoder)).filter fun d =>
    !detector.requireBanker || (Banker.find? d.package.files).isSome

def functionsOf (detector : Detector) (packagePath : String) : Except NodeError (List String) :=
  (detector.query packagePath).bind (Functions.ofResponse packagePath)

def candidate? (detector : Detector) (h : Height) (d : Deployment) : Option TokenCandidate :=
  match detector.functionsOf d.package.path with
  | .ok functions =>
    if exportsInterface functions then some ⟨d.package.path, h, d.creator, functions⟩ else none
  | .error _ => none

def detect (detector : Detector) (block : Block) (results : List TxResult) :
    List TokenCandidate :=
  (detector.inspected results).filterMap (detector.candidate? block.height)

end Detector

end TokenIndexer.Token
