import TokenIndexer.Decimal.Binary64
import TokenIndexer.Json.Document

/-!
Values that are kept whole, in canonical form. An object may also stand for a value by holding its text.
-/

namespace TokenIndexer

namespace Numeral

def significandLimit : Nat := UInt64.size

/-- Digits taken into a significand while it fits in 64 bits, and how many were left over. -/
def takeWhole (significand : Nat) : List Nat → Nat × Nat
  | [] => (significand, 0)
  | d :: ds =>
    if 10 * significand + d < significandLimit then takeWhole (10 * significand + d) ds
    else (significand, ds.length + 1)

def takeFraction (significand : Nat) : List Nat → Nat × Nat
  | [] => (significand, 0)
  | d :: ds =>
    if 10 * significand + d < significandLimit then
      let (n, count) := takeFraction (10 * significand + d) ds
      (n, count + 1)
    else (significand, 0)

/-- `significand * 10 ^ exponent`: the significand and the power of ten are rounded first, then
their product or quotient. A positive exponent above 308 is out of range. -/
def scale (significand : Nat) (exponent : Int) : Option Binary64 :=
  let value := Binary64.ofNat significand
  let power (e : Int) := Binary64.ofDecimal false 1 e
  if significand = 0 then some value
  else if 308 < exponent then none
  else if 0 ≤ exponent then
    let product := value.mul (power exponent)
    if product.isFinite then some product else none
  else if -308 ≤ exponent then some (value.div (power (-exponent)))
  else if -616 ≤ exponent then some ((value.div (power 308)).div (power (-exponent - 308)))
  else some (Binary64.ofNat 0)

def real? (n : Numeral) : Option Binary64 :=
  let (whole, dropped) := takeWhole 0 ((Decimal.digits n.whole).map Decimal.digitValue)
  let (significand, taken) := takeFraction whole n.fraction
  let exponent : Int := dropped - taken + n.exponent.getD 0
  (scale significand exponent).map fun value => if n.negative then value.negate else value

def word? (n : Numeral) : Option Int :=
  n.int?.bind fun i => if Int64.minValue.toInt ≤ i ∧ i < UInt64.size then some i else none

def inRange (n : Numeral) : Bool := n.word?.isSome || n.real?.isSome

/-- The one spelling of the number: whole ones in full, others by their shortest digits. -/
def spelling (n : Numeral) : List Char :=
  match n.word?, n.real? with
  | some i, _ => Decimal.ofInt i
  | none, some x => Decimal.spellBinary64 x
  | none, none => []

end Numeral

namespace Json

def depthLimit : Nat := 127

mutual

/-- Whether the value can be kept with at most `depth` containers inside one another. -/
def keepable (depth : Nat) : Json → Bool
  | .null => true
  | .bool _ => true
  | .number n => n.inRange
  | .string text => text.isSome
  | .array items => 0 < depth && keepableItems (depth - 1) items
  | .object members => 0 < depth && keepableMembers (depth - 1) members

def keepableItems (depth : Nat) : List Json → Bool
  | [] => true
  | item :: items => keepable depth item && keepableItems depth items

def keepableMembers (depth : Nat) : List (Literal × Json) → Bool
  | [] => true
  | (key, value) :: members => key.isSome && keepable depth value && keepableMembers depth members

end

/-- The order of keys: that of their UTF-8 bytes. -/
def keyPrecedes (a b : Literal) : Bool :=
  Bytes.precedes (Utf8.encode (a.getD "")) (Utf8.encode (b.getD ""))

def insertMember (key : Literal) (value : Json) :
    List (Literal × Json) → List (Literal × Json)
  | [] => [(key, value)]
  | (k, v) :: rest =>
    if k = key then (key, value) :: rest
    else if keyPrecedes key k then (key, value) :: (k, v) :: rest
    else (k, v) :: insertMember key value rest

/-- The only key of an object that stands for the value that its text spells. -/
def verbatimKey : String := "$serde_json::private::RawValue"

def leadsVerbatim : List (Literal × Json) → Bool
  | (key, _) :: _ => key = some verbatimKey
  | [] => false

def verbatimText? : List (Literal × Json) → Option String
  | [(_, .string text)] => text
  | _ => none

mutual

/-- A kept value in canonical form, when at most `depth` containers stand inside one another:
each object has each key once, the last occurrence counting, and its keys in order. What stands
for another value is replaced by what `spelled` makes of its text. -/
def keepBy? (spelled : String → Option Json) (depth : Nat) : Json → Option Json
  | .null => some .null
  | .bool value => some (.bool value)
  | .number n => if n.inRange then some (.number n) else none
  | .string text => if text.isSome then some (.string text) else none
  | .array items =>
    if depth = 0 then none else (keepItemsBy? spelled (depth - 1) items).map .array
  | .object members =>
    if depth = 0 then none
    else if leadsVerbatim members then (verbatimText? members).bind spelled
    else (keepMembersBy? spelled (depth - 1) [] members).map .object

def keepItemsBy? (spelled : String → Option Json) (depth : Nat) :
    List Json → Option (List Json)
  | [] => some []
  | item :: items => do
    some ((← keepBy? spelled depth item) :: (← keepItemsBy? spelled depth items))

def keepMembersBy? (spelled : String → Option Json) (depth : Nat)
    (done : List (Literal × Json)) :
    List (Literal × Json) → Option (List (Literal × Json))
  | [] => some done
  | (key, value) :: members => do
    if key.isNone then none
    else keepMembersBy? spelled depth (insertMember key (← keepBy? spelled depth value) done) members

end

/-- The value that a text spells as a document of its own, with at most `layers` documents inside one
another. -/
def spelledWithin? : Nat → String → Option Json
  | 0, _ => none
  | layers + 1, text =>
    (parse? (Utf8.encode text)).bind (keepBy? (spelledWithin? layers) depthLimit)

/-- The value that a text spells. A text inside a document is shorter than the document, so that no
more documents stand inside one another than the text has characters. -/
def spelled? (text : String) : Option Json := spelledWithin? text.length text

def kept? (depth : Nat) (value : Json) : Option Json := keepBy? spelled? depth value

def Token.spelling : Token → Bytes
  | .number n => n.spelling.map fun c => UInt8.ofNat c.toNat
  | token => token.bytes

def shown (value : Json) : String :=
  (Utf8.decode? (value.tokens.flatMap Token.spelling)).getD ""

end Json

end TokenIndexer
