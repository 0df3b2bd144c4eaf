import TokenIndexer.Block
import TokenIndexer.Json.Shape

/-! A node that is asked for blocks and results and answers queries. -/

namespace TokenIndexer

inductive DecodeCause where
  | binaryTx
  | jsonTx
  /-- The payload of a message with a known type url. -/
  | payload (typeUrl : String)
  | untypedMessage
  /-- A base64 text in the named field. -/
  | base64 (field : String)
  | resultCount (height : Height) (txs results : Nat)
  /-- The list of exported functions of a package. -/
  | functions (packagePath : String)
  | other (text : String)
  deriving DecidableEq

inductive NodeError where
  | rpc (text : String)
  | decode (cause : DecodeCause)
  /-- A block or its results came for another height. -/
  | heightMismatch (requested actual : Height)
  /-- The application refused a query. -/
  | query (packagePath error : String)
  deriving DecidableEq

def DecodeCause.message : DecodeCause → String
  | .binaryTx => "tx is not binary amino"
  | .jsonTx => "tx is not amino JSON"
  | .payload typeUrl => typeUrl
  | .untypedMessage => "message without @type"
  | .base64 field => field
  | .resultCount height txs results =>
    "block " ++ height.text ++ " has " ++ Decimal.natText txs ++ " txs but " ++
      Decimal.natText results ++ " results"
  | .functions packagePath => "qfuncs response for " ++ packagePath
  | .other text => text

def NodeError.message : NodeError → String
  | .rpc text => "rpc error: " ++ text
  | .decode cause => "decode error: " ++ cause.message
  | .heightMismatch requested actual =>
    "requested block " ++ requested.text ++ ", got " ++ actual.text
  | .query packagePath error => "abci query " ++ packagePath ++ " failed: " ++ error

structure BlockResults where
  height : Height
  responses : List DeliverResponse
  deriving DecidableEq

namespace BlockResults

def pairFrom (h : Height) : Nat → List Tx → List DeliverResponse → List TxResult
  | index, tx :: txs, response :: responses =>
    ⟨h, UInt32.ofNat index, tx, response⟩ :: pairFrom h (index + 1) txs responses
  | _, _, _ => []

/-- The results of a block, which must have the same height and as many transactions. -/
def pair (results : BlockResults) (block : Block) : Except NodeError (List TxResult) :=
  if results.height ≠ block.height then
    .error (.heightMismatch block.height results.height)
  else if results.responses.length ≠ block.txs.length then
    .error (.decode (.resultCount block.height block.txs.length results.responses.length))
  else .ok (pairFrom block.height 0 block.txs results.responses)

end BlockResults

def Block.checked (requested : Height) (block : Block) : Except NodeError Block :=
  if block.height = requested then .ok block
  else .error (.heightMismatch requested block.height)

structure QueryResponse where
  /-- Set when the application refused the query. -/
  error : Option String
  data : Bytes
  value : Bytes
  log : String
  height : Height
  deriving DecidableEq

def QueryResponse.empty : QueryResponse := ⟨none, [], [], "", 0⟩

namespace Functions

/-- Where the application lists the functions of the package whose path is the query's data. -/
def queryPath : String := "vm/qfuncs"

def name? (signature : Json) : Option String := do
  match ← signature.slots? ["FuncName"] with
  | [name] => name.required? Json.text?
  | _ => none

def names? (data : Bytes) : Option (List String) := (Json.parse? data).bind (Json.list? name?)

def ofResponse (packagePath : String) (response : QueryResponse) :
    Except NodeError (List String) :=
  match response.error with
  | some error => .error (.query packagePath error)
  | none =>
    match names? response.data with
    | some names => .ok names
    | none => .error (.decode (.functions packagePath))

end Functions

end TokenIndexer
