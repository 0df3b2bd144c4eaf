import TokenIndexer.Json.Token

/-!
JSON documents. The containers that are still open stand on an explicit stack, so that nesting costs no
recursion.
-/

namespace TokenIndexer.Json

/-- A container that is still open, with its finished parts, last first. -/
inductive Frame where
  | array (items : List Json)
  | object (members : List (Literal × Json))
  | member (members : List (Literal × Json)) (key : Literal)

inductive Awaiting where
  | value
  /-- A first item or key, or the closing bracket. -/
  | first
  | key
  | colon
  /-- A comma, or the closing bracket. -/
  | comma
  /-- The document's value is complete. -/
  | nothing (document : Json)

structure Reading where
  frames : List Frame
  awaiting : Awaiting

namespace Reading

def complete (value : Json) : List Frame → Option Reading
  | [] => some ⟨[], .nothing value⟩
  | .array items :: outer => some ⟨.array (value :: items) :: outer, .comma⟩
  | .member members key :: outer => some ⟨.object ((key, value) :: members) :: outer, .comma⟩
  | .object _ :: _ => none

def beginValue (frames : List Frame) : Token → Option Reading
  | .openArray => some ⟨.array [] :: frames, .first⟩
  | .openObject => some ⟨.object [] :: frames, .first⟩
  | .null => complete .null frames
  | .bool b => complete (.bool b) frames
  | .number n => complete (.number n) frames
  | .string text => complete (.string text) frames
  | _ => none

def beginMember : List Frame → Token → Option Reading
  | .object members :: outer, .string key => some ⟨.member members key :: outer, .colon⟩
  | _, _ => none

def close : List Frame → Token → Option Reading
  | .array items :: outer, .closeArray => complete (.array items.reverse) outer
  | .object members :: outer, .closeObject => complete (.object members.reverse) outer
  | _, _ => none

def step (reading : Reading) (token : Token) : Option Reading :=
  match reading.awaiting, token with
  | .value, token => beginValue reading.frames token
  | .first, .closeArray => close reading.frames .closeArray
  | .first, .closeObject => close reading.frames .closeObject
  | .first, token =>
    match reading.frames with
    | .array _ :: _ => beginValue reading.frames token
    | frames => beginMember frames token
  | .key, token => beginMember reading.frames token
  | .colon, .colon => some { reading with awaiting := .value }
  | .comma, .comma =>
    match reading.frames with
    | .array _ :: _ => some { reading with awaiting := .value }
    | .object _ :: _ => some { reading with awaiting := .key }
    | _ => none
  | .comma, token => close reading.frames token
  | _, _ => none

def run (reading : Reading) : List Token → Option Reading
  | [] => some reading
  | token :: rest => (reading.step token).bind fun next => run next rest

end Reading

def ofTokens? (tokens : List Token) : Option Json :=
  match Reading.run ⟨[], .value⟩ tokens with
  | some ⟨_, .nothing document⟩ => some document
  | _ => none

def parse? (bytes : Bytes) : Option Json := (Token.ofBytes? bytes).bind ofTokens?

mutual

def tokens : Json → List Token
  | .null => [.null]
  | .bool b => [.bool b]
  | .number n => [.number n]
  | .string text => [.string text]
  | .array [] => [.openArray, .closeArray]
  | .array (item :: items) => .openArray :: tokens item ++ itemTokens items
  | .object [] => [.openObject, .closeObject]
  | .object ((key, value) :: members) =>
    .openObject :: .string key :: .colon :: tokens value ++ memberTokens members

def itemTokens : List Json → List Token
  | [] => [.closeArray]
  | item :: items => .comma :: tokens item ++ itemTokens items

def memberTokens : List (Literal × Json) → List Token
  | [] => [.closeObject]
  | (key, value) :: members => .comma :: .string key :: .colon :: tokens value ++ memberTokens members

end

def render (value : Json) : Bytes := value.tokens.flatMap Token.bytes

end TokenIndexer.Json
