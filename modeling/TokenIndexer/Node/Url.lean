import TokenIndexer.Bytes
import TokenIndexer.DomainName
import TokenIndexer.Settings
import TokenIndexer.Text

namespace TokenIndexer.Url

/-- Tabs and line ends are dropped wherever they stand. -/
def isDropped (c : Char) : Bool := c == '\t' || c == '\n' || c == '\r'

def endsAuthority (c : Char) : Bool := c == '/' || c == '\\' || c == '?' || c == '#'

def withoutTail (cs : List Char) : List Char := (cs.reverse.dropWhile (· ≤ ' ')).reverse

def authority (afterScheme : List Char) : List Char :=
  let cs := (withoutTail afterScheme).filter fun c => !isDropped c
  (cs.dropWhile fun c => c == '/' || c == '\\').takeWhile fun c => !endsAuthority c

def withoutUser (authority : List Char) : List Char :=
  (authority.reverse.takeWhile (· ≠ '@')).reverse

/-! ### Numbers -/

def radixValue? (radix : Nat) (cs : List Char) : Option Nat :=
  cs.foldlM (fun n c =>
    (Hex.digitValue? c).bind fun d => if d < radix then some (radix * n + d) else none) 0

/-- A number of an IPv4 address: decimal, octal after a zero, hexadecimal after `0x`. -/
def ipv4Number? : List Char → Option Nat
  | [] => none
  | '0' :: 'x' :: cs => radixValue? 16 cs
  | '0' :: 'X' :: cs => radixValue? 16 cs
  | '0' :: c :: cs => radixValue? 8 (c :: cs)
  | cs => radixValue? 10 cs

def withoutLastIfEmpty (parts : List (List Char)) : List (List Char) :=
  if parts.length > 1 ∧ parts.getLast? = some [] then parts.dropLast else parts

/-- Whether the last label is a number, which makes the whole host an IPv4 address. -/
def endsInNumber (parts : List (List Char)) : Bool :=
  match (withoutLastIfEmpty parts).getLast? with
  | none => false
  | some last => last ≠ [] && (last.all Decimal.isDigit || (ipv4Number? last).isSome)

def isIpv4 (parts : List (List Char)) : Bool :=
  match (withoutLastIfEmpty parts).mapM ipv4Number? with
  | none => false
  | some numbers =>
    numbers.length ≤ 4 && numbers.dropLast.all (· ≤ 255) &&
      numbers.getLast?.any fun last => last < Word.count (5 - numbers.length)

/-! ### IPv6 -/

def isHexPiece (cs : List Char) : Bool :=
  cs ≠ [] && cs.length ≤ 4 && (radixValue? 16 cs).isSome

def isByte (cs : List Char) : Bool :=
  match radixValue? 10 cs with
  | some n => cs ≠ [] && n ≤ 255 && (cs.length = 1 || cs.head? ≠ some '0')
  | none => false

def isDottedQuad (cs : List Char) : Bool :=
  let parts := Split.pieces '.' cs
  parts.length = 4 && parts.all isByte

/-- How many 16-bit pieces a list of pieces makes; an IPv4 address may stand at the very end. -/
def pieceCount? (atEnd : Bool) : List (List Char) → Option Nat
  | [] => some 0
  | [piece] =>
    if isHexPiece piece then some 1 else if atEnd && isDottedQuad piece then some 2 else none
  | piece :: rest => if isHexPiece piece then (pieceCount? atEnd rest).map (· + 1) else none

def piecesOf (cs : List Char) : List (List Char) := if cs = [] then [] else Split.pieces ':' cs

def aroundGap? : List Char → Option (List Char × List Char)
  | ':' :: ':' :: rest => some ([], rest)
  | c :: rest => (aroundGap? rest).map fun (front, back) => (c :: front, back)
  | [] => none

def isIpv6 (cs : List Char) : Bool :=
  match aroundGap? cs with
  | none => pieceCount? true (piecesOf cs) = some 8
  | some (front, back) =>
    match pieceCount? false (piecesOf front), pieceCount? true (piecesOf back) with
    | some a, some b => a + b ≤ 7
    | _, _ => false

/-! ### Hosts -/

def unescaped : Bytes → Bytes
  | 0x25 :: a :: b :: rest =>
    match Hex.digitValue? (Char.ofNat a.toNat), Hex.digitValue? (Char.ofNat b.toNat) with
    | some high, some low => UInt8.ofNat (16 * high + low) :: unescaped rest
    | _, _ => 0x25 :: unescaped (a :: b :: rest)
  | b :: rest => b :: unescaped rest
  | [] => []

def isDomain (cs : List Char) : Bool :=
  match (Utf8.decode? (unescaped (Utf8.encode (String.ofList cs)))).bind fun text =>
    DomainName.labels? text.toList with
  | none => false
  | some labels => labels ≠ [[]] && (!endsInNumber labels || isIpv4 labels)

def isPort (cs : List Char) : Bool :=
  match radixValue? 10 cs with
  | some n => n < UInt16.size
  | none => false

def isHost : List Char → Bool
  | '[' :: cs =>
    match Split.atFirst? ']' cs with
    | some (address, []) => isIpv6 address
    | some (address, ':' :: port) => isIpv6 address && isPort port
    | _ => false
  | cs =>
    match Split.atFirst? ':' cs with
    | some (domain, port) => isDomain domain && isPort port
    | none => isDomain cs

def hasWebScheme (url : String) : Bool := (Settings.afterScheme? url.toList).isSome

def namesHost (url : String) : Bool :=
  match Settings.afterScheme? url.toList with
  | some rest => isHost (withoutUser (authority rest))
  | none => false

end TokenIndexer.Url
