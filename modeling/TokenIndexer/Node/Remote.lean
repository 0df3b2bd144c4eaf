import TokenIndexer.Bytes
import TokenIndexer.Height
import TokenIndexer.Json
import TokenIndexer.Node.Reply
import TokenIndexer.Node.Url

namespace TokenIndexer

structure Request where
  method : String
  /-- The parameters, null when there are none. -/
  params : Json

namespace Request

def status : Request := ⟨"status", .null⟩

def atHeight (method : String) (h : Height) : Request := ⟨method, .obj [("height", .text h.text)]⟩

def block (h : Height) : Request := atHeight "block" h

def blockResults (h : Height) : Request := atHeight "block_results" h

def query (path : String) (data : Bytes) : Request :=
  ⟨"abci_query", .obj [("path", .text path), ("data", .text (Base64.text data))]⟩

end Request

inductive Transfer where
  /-- The node was not reached. -/
  | unreachable
  | result (text : Bytes)
  /-- The node refused the call. -/
  | refused (error : Json)

namespace Remote

def connect (url : String) : Except NodeError Unit :=
  if !Url.hasWebScheme url then .error (.rpc ("unsupported remote scheme: " ++ url))
  else if !Url.namesHost url then .error (.rpc "invalid address")
  else .ok ()

def result : Transfer → Except NodeError Json
  | .unreachable => .error (.rpc "not connected")
  | .refused error => .error (.rpc error.shown)
  | .result text =>
    match Json.parse? text with
    | some value => .ok value
    | none => .error (.rpc "unexpected reply")

def latestHeight (transfer : Transfer) : Except NodeError Height :=
  (result transfer).bind Reply.latestHeight

def block (transfer : Transfer) : Except NodeError Block := (result transfer).bind Reply.block

def blockResults (transfer : Transfer) : Except NodeError BlockResults :=
  (result transfer).bind Reply.blockResults

def query (transfer : Transfer) : Except NodeError QueryResponse :=
  (result transfer).bind Reply.query

end Remote

end TokenIndexer
