import TokenIndexer.Decimal.Digits

/-! Floating-point values, and their shortest decimal texts that read back as the same value. -/

namespace TokenIndexer

inductive Binary64 where
  | finite (negative : Bool) (significand : Nat) (exponent : Int)
  | infinite (negative : Bool)
  | nan
  deriving DecidableEq, Repr

namespace Binary64

/-- The leading bit of a significand of 53 bits. -/
def hiddenBit : Nat := 0x10000000000000

def leastExponent : Int := -1074

def greatestExponent : Int := 971

def nearestEven (num den : Nat) : Nat :=
  let quotient := num / den
  let twice := 2 * (num % den)
  if twice < den then quotient
  else if den < twice then quotient + 1
  else if quotient % 2 = 0 then quotient
  else quotient + 1

/-- `num / den / 2 ^ exponent` as a fraction. -/
def scaled (num den : Nat) (exponent : Int) : Nat × Nat :=
  if 0 ≤ exponent then (num, den <<< exponent.toNat) else (num <<< (-exponent).toNat, den)

/-- The exponent at which `num / den` has 53 significant bits, or the least one. -/
def exponentOf (num den : Nat) : Int :=
  let guess := (Nat.log2 num : Int) - Nat.log2 den - 52
  let (top, bottom) := scaled num den guess
  max leastExponent (if top / bottom < hiddenBit then guess - 1 else guess)

/-- The value nearest to `num / den`, infinite when it is beyond the greatest finite one. -/
def ofRatio (negative : Bool) (num den : Nat) : Binary64 :=
  if num = 0 then .finite negative 0 leastExponent
  else
    let exponent := exponentOf num den
    let (top, bottom) := scaled num den exponent
    let rounded := nearestEven top bottom
    let (significand, exponent) :=
      if rounded = 2 * hiddenBit then (hiddenBit, exponent + 1) else (rounded, exponent)
    if exponent ≤ greatestExponent then .finite negative significand exponent else .infinite negative

def ofNat (n : Nat) : Binary64 := ofRatio false n 1

/-- The value nearest to `coefficient * 10 ^ exponent`. Exponents far outside the format's range
are settled without computing the power. -/
def ofDecimal (negative : Bool) (coefficient : Nat) (exponent : Int) : Binary64 :=
  let magnitude := (Decimal.digits coefficient).length + exponent
  if coefficient = 0 ∨ magnitude < -400 then .finite negative 0 leastExponent
  else if 400 < magnitude then .infinite negative
  else if 0 ≤ exponent then ofRatio negative (coefficient * Decimal.power exponent.toNat) 1
  else ofRatio negative coefficient (Decimal.power (-exponent).toNat)

def mul : Binary64 → Binary64 → Binary64
  | .finite n s e, .finite n' s' e' =>
    let (num, den) := scaled (s * s') 1 (-(e + e'))
    ofRatio (n != n') num den
  | _, _ => .nan

def div : Binary64 → Binary64 → Binary64
  | .finite n s e, .finite n' s' e' =>
    let (num, den) := scaled s s' (e' - e)
    ofRatio (n != n') num den
  | _, _ => .nan

def negate : Binary64 → Binary64
  | .finite n s e => .finite (!n) s e
  | .infinite n => .infinite (!n)
  | .nan => .nan

def isFinite : Binary64 → Bool
  | .finite .. => true
  | _ => false

def signBit (negative : Bool) : Nat := if negative then 0x8000000000000000 else 0

/-- The value's 64 bits: sign, eleven bits of exponent, fifty-two of fraction. -/
def bits : Binary64 → Nat
  | .finite n s e =>
    let biased := if s < hiddenBit then 0 else (e + 1075).toNat
    signBit n + biased * hiddenBit + (if s < hiddenBit then s else s - hiddenBit)
  | .infinite n => signBit n + 2047 * hiddenBit
  | .nan => 2047 * hiddenBit + hiddenBit / 2

example : (ofDecimal false 1 (-1)).bits = 0x3fb999999999999a := by decide +kernel
example : (ofDecimal false 15 (-1)).bits = 0x3ff8000000000000 := by decide +kernel
example : (ofDecimal false 5 (-324)).bits = 1 := by decide +kernel
example : ofDecimal true 2 308 = .infinite true := by decide +kernel

end Binary64

end TokenIndexer

namespace TokenIndexer.Decimal

/-- The decimal exponent of the leading digit of `num / den`, given one that is close to it. -/
def leading (num den : Nat) : Int :=
  let guess : Int := ((Decimal.digits num).length : Int) - (Decimal.digits den).length
  let reaches : Bool :=
    if 0 ≤ guess then den * power guess.toNat ≤ num else den ≤ num * power (-guess).toNat
  if reaches then guess else guess - 1

/-- The neighbours of `num / den` among the multiples of `10 ^ exponent`, the nearer one first. -/
def neighbours (num den : Nat) (exponent : Int) : List Nat :=
  let (top, bottom) :=
    if 0 ≤ exponent then (num, den * power exponent.toNat) else (num * power (-exponent).toNat, den)
  let low := top / bottom
  if 2 * (top % bottom) ≤ bottom then [low, low + 1] else [low + 1, low]

def shortest (significand : Nat) (exponent : Int) : Nat × Int :=
  let value := Binary64.finite false significand exponent
  let (num, den) := Binary64.scaled significand 1 (-exponent)
  let top := leading num den
  let attempt (count : Nat) : Option (Nat × Int) :=
    let last := top - count
    ((neighbours num den last).find? fun n => Binary64.ofDecimal false n last = value).map
      fun n => (n, last)
  ((List.range 17).findSome? attempt).getD (significand, exponent)

def withoutTrailingZeros (coefficient : Nat) (exponent : Int) : Nat × Int :=
  if coefficient ≠ 0 ∧ coefficient % 10 = 0 then
    withoutTrailingZeros (coefficient / 10) (exponent + 1)
  else (coefficient, exponent)

/-- How a positive value is spelled: positionally when its leading digit stands between the fifth
decimal place and the sixteenth whole one, with an explicitly signed exponent otherwise. -/
def spell (coefficient : Nat) (exponent : Int) : List Char :=
  let cs := digits coefficient
  let count : Int := cs.length
  let point := count + exponent
  if 0 ≤ exponent ∧ point ≤ 16 then
    cs ++ List.replicate exponent.toNat '0' ++ ['.', '0']
  else if 0 < point ∧ point ≤ 16 then
    cs.take point.toNat ++ ['.'] ++ cs.drop point.toNat
  else if -5 < point ∧ point ≤ 0 then
    ['0', '.'] ++ List.replicate (-point).toNat '0' ++ cs
  else
    let mantissa := if cs.length = 1 then cs else cs.take 1 ++ ['.'] ++ cs.drop 1
    let power := point - 1
    mantissa ++ ['e', if power < 0 then '-' else '+'] ++ digits power.natAbs

def spellBinary64 : Binary64 → List Char
  | .finite negative significand exponent =>
    let body :=
      if significand = 0 then ['0', '.', '0']
      else
        let (n, e) := shortest significand exponent
        let (n, e) := withoutTrailingZeros n e
        spell n e
    if negative then '-' :: body else body
  | .infinite negative => (if negative then ['-'] else []) ++ ['i', 'n', 'f']
  | .nan => ['n', 'a', 'n']

end TokenIndexer.Decimal
