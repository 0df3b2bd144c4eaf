import TokenIndexer.Decimal.Digits
import TokenIndexer.Message
import TokenIndexer.Text

/-!
The metadata that a token contract hands to the constructor of its banker, as far as it stands there in
literals.
-/

namespace TokenIndexer

namespace DecimalDigit

/-- The code of the zero of every run, ascending. -/
def zeros : List Nat :=
  [0x30, 0x660, 0x6f0, 0x7c0, 0x966, 0x9e6, 0xa66, 0xae6, 0xb66, 0xbe6, 0xc66, 0xce6, 0xd66, 0xde6,
    0xe50, 0xed0, 0xf20, 0x1040, 0x1090, 0x17e0, 0x1810, 0x1946, 0x19d0, 0x1a80, 0x1a90, 0x1b50,
    0x1bb0, 0x1c40, 0x1c50, 0xa620, 0xa8d0, 0xa900, 0xa9d0, 0xa9f0, 0xaa50, 0xabf0, 0xff10, 0x104a0,
    0x10d30, 0x10d40, 0x11066, 0x110f0, 0x11136, 0x111d0, 0x112f0, 0x11450, 0x114d0, 0x11650,
    0x116c0, 0x116d0, 0x116da, 0x11730, 0x118e0, 0x11950, 0x11bf0, 0x11c50, 0x11d50, 0x11da0,
    0x11f50, 0x16130, 0x16a60, 0x16ac0, 0x16b50, 0x16d70, 0x1ccf0, 0x1d7ce, 0x1d7d8, 0x1d7e2,
    0x1d7ec, 0x1d7f6, 0x1e140, 0x1e2f0, 0x1e4f0, 0x1e5f1, 0x1e950, 0x1fbf0]

end DecimalDigit

def isDecimalDigit (c : Char) : Bool :=
  DecimalDigit.zeros.any fun start => start ≤ c.toNat && c.toNat < start + 10

end TokenIndexer

namespace TokenIndexer.Token

structure Banker where
  name : String
  symbol : String
  decimals : UInt64
  deriving DecidableEq, Repr

namespace Banker

/-- A call of the constructor: its literals, and how many characters it takes. -/
structure Call where
  name : List Char
  symbol : List Char
  decimals : List Char
  length : Nat

def opening : List Char := "grc20.NewBanker(\"".toList

def literal? (cs : List Char) : Option (List Char × List Char) :=
  match cs.span (· ≠ '"') with
  | (text, '"' :: ',' :: rest) => if text = [] then none else some (text, rest)
  | _ => none

def call? (cs : List Char) : Option Call := do
  let rest ← Split.after? opening cs
  let (name, rest) ← literal? rest
  match rest.dropWhile isBlank with
  | '"' :: rest =>
    let (symbol, rest) ← literal? rest
    match (rest.dropWhile isBlank).span isDecimalDigit with
    | (decimals, ')' :: rest) =>
      if decimals = [] then none else some ⟨name, symbol, decimals, cs.length - rest.length⟩
    | _ => none
  | _ => none

/-- The metadata of a call, unless its number is not one of 64 bits in ASCII digits. -/
def ofCall? (call : Call) : Option Banker :=
  (Decimal.ofDigits? call.decimals).bind fun n =>
    if n < UInt64.size then
      some ⟨String.ofList call.name, String.ofList call.symbol, UInt64.ofNat n⟩
    else none

/-- The first call with metadata, after the next `skip` characters. A call is passed over as a whole
when it has none. -/
def scan : Nat → List Char → Option Banker
  | _, [] => none
  | skip + 1, _ :: cs => scan skip cs
  | 0, c :: cs =>
    match call? (c :: cs) with
    | none => scan 0 cs
    | some call =>
      match ofCall? call with
      | some banker => some banker
      | none => scan (call.length - 1) cs

def find? (files : List MemFile) : Option Banker :=
  files.findSome? fun file => scan 0 file.body.toList

end Banker

end TokenIndexer.Token
