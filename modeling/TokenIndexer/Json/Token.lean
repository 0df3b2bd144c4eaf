import TokenIndexer.Decimal.Digits
import TokenIndexer.Json

namespace TokenIndexer.Json

inductive Token where
  | openArray
  | closeArray
  | openObject
  | closeObject
  | comma
  | colon
  | null
  | bool (value : Bool)
  | number (value : Numeral)
  | string (text : Literal)
  deriving DecidableEq

namespace Token

def isBlankByte (b : UInt8) : Bool := b == 0x20 || b == 0x09 || b == 0x0a || b == 0x0d

def isDigitByte (b : UInt8) : Bool := 0x30 ≤ b && b ≤ 0x39

def digitOf (b : UInt8) : Nat := b.toNat - 48

/-! ### Strings -/

def hexValue? (b : UInt8) : Option Nat :=
  if isDigitByte b then some (b.toNat - 48)
  else if 0x61 ≤ b && b ≤ 0x66 then some (b.toNat - 87)
  else if 0x41 ≤ b && b ≤ 0x46 then some (b.toNat - 55)
  else none

def hexWord? (a b c d : UInt8) : Option Nat := do
  let a ← hexValue? a
  let b ← hexValue? b
  let c ← hexValue? c
  let d ← hexValue? d
  some (((a * 16 + b) * 16 + c) * 16 + d)

def escaped? (b : UInt8) : Option UInt8 :=
  if b == 0x22 || b == 0x5c || b == 0x2f then some b
  else if b == 0x62 then some 0x08
  else if b == 0x66 then some 0x0c
  else if b == 0x6e then some 0x0a
  else if b == 0x72 then some 0x0d
  else if b == 0x74 then some 0x09
  else none

def push (read : Option Bytes) (code : Nat) : Option Bytes :=
  read.map fun bytes => (Utf8.encode (String.singleton (Char.ofNat code))).reverse ++ bytes

def spelled (read : Option Bytes) : Literal := read.bind fun bytes => Utf8.decode? bytes.reverse

/-- What was read, unless a high surrogate still waits for its low one. -/
def settled (read : Option Bytes) (high : Option Nat) : Option Bytes :=
  if high.isSome then none else read

def isHighSurrogate (unit : Nat) : Bool := 0xd800 ≤ unit && unit ≤ 0xdbff

def isLowSurrogate (unit : Nat) : Bool := 0xdc00 ≤ unit && unit ≤ 0xdfff

/-- The rest of a string literal after its opening quote, given the bytes read so far, last first,
and the high surrogate that was read just before. A lone surrogate leaves the literal without a
text, but reading goes on. -/
def literalFrom (read : Option Bytes) (high : Option Nat) : Bytes → Option (Literal × Bytes)
  | [] => none
  | 0x22 :: rest => some (spelled (settled read high), rest)
  | 0x5c :: 0x75 :: a :: b :: c :: d :: rest =>
    match hexWord? a b c d with
    | none => none
    | some unit =>
      if isHighSurrogate unit then literalFrom (settled read high) (some unit) rest
      else if isLowSurrogate unit then
        match high with
        | some h =>
          literalFrom (push read (0x10000 + (h - 0xd800) * 0x400 + (unit - 0xdc00))) none rest
        | none => literalFrom none none rest
      else literalFrom (push (settled read high) unit) none rest
  | 0x5c :: e :: rest =>
    match escaped? e with
    | none => none
    | some b => literalFrom ((settled read high).map (b :: ·)) none rest
  | b :: rest =>
    if b < 0x20 ∨ b = 0x5c then none
    else literalFrom ((settled read high).map (b :: ·)) none rest

/-! ### Numbers -/

def valueOf (digits : Bytes) : Nat := digits.foldl (fun n b => 10 * n + digitOf b) 0

def whole? (bytes : Bytes) : Option (Nat × Bytes) :=
  match bytes.takeWhile isDigitByte with
  | [] => none
  | 0x30 :: _ :: _ => none
  | b :: digits => some (valueOf (b :: digits), bytes.dropWhile isDigitByte)

def fraction? : Bytes → Option (List Nat × Bytes)
  | 0x2e :: rest =>
    match rest.takeWhile isDigitByte with
    | [] => none
    | b :: digits => some ((b :: digits).map digitOf, rest.dropWhile isDigitByte)
  | bytes => some ([], bytes)

def power? (negative : Bool) (bytes : Bytes) : Option (Option Int × Bytes) :=
  match bytes.takeWhile isDigitByte with
  | [] => none
  | b :: digits =>
    let n : Int := valueOf (b :: digits)
    some (some (if negative then -n else n), bytes.dropWhile isDigitByte)

def exponent? : Bytes → Option (Option Int × Bytes)
  | b :: rest =>
    if b == 0x65 || b == 0x45 then
      match rest with
      | 0x2b :: rest => power? false rest
      | 0x2d :: rest => power? true rest
      | rest => power? false rest
    else some (none, b :: rest)
  | [] => some (none, [])

def numeral? (negative : Bool) (bytes : Bytes) : Option (Numeral × Bytes) := do
  let (whole, rest) ← whole? bytes
  let (fraction, rest) ← fraction? rest
  let (exponent, rest) ← exponent? rest
  some (⟨negative, whole, fraction, exponent⟩, rest)

/-! ### The token at the front -/

def next? (b : UInt8) (rest : Bytes) : Option (Token × Bytes) :=
  if b == 0x5b then some (.openArray, rest)
  else if b == 0x5d then some (.closeArray, rest)
  else if b == 0x7b then some (.openObject, rest)
  else if b == 0x7d then some (.closeObject, rest)
  else if b == 0x2c then some (.comma, rest)
  else if b == 0x3a then some (.colon, rest)
  else if b == 0x22 then (literalFrom (some []) none rest).map fun (text, rest) => (.string text, rest)
  else if b == 0x2d then (numeral? true rest).map fun (n, rest) => (.number n, rest)
  else if isDigitByte b then (numeral? false (b :: rest)).map fun (n, rest) => (.number n, rest)
  else
    match b, rest with
    | 0x6e, 0x75 :: 0x6c :: 0x6c :: rest => some (.null, rest)
    | 0x74, 0x72 :: 0x75 :: 0x65 :: rest => some (.bool true, rest)
    | 0x66, 0x61 :: 0x6c :: 0x73 :: 0x65 :: rest => some (.bool false, rest)
    | _, _ => none

/-! Nothing is read twice: what is left is no longer than what was there. -/

theorem dropWhile_length (p : UInt8 → Bool) (bytes : Bytes) :
    (bytes.dropWhile p).length ≤ bytes.length := by
  have shape := congrArg List.length (List.takeWhile_append_dropWhile (p := p) (l := bytes))
  rw [List.length_append] at shape
  omega

theorem dropWhile_length_lt {p : UInt8 → Bool} {bytes taken : Bytes} {b : UInt8}
    (some_taken : bytes.takeWhile p = b :: taken) : (bytes.dropWhile p).length < bytes.length := by
  have shape := congrArg List.length (List.takeWhile_append_dropWhile (p := p) (l := bytes))
  rw [List.length_append, some_taken, List.length_cons] at shape
  omega

theorem literalFrom_length {read : Option Bytes} {high : Option Nat} {bytes rest : Bytes}
    {text : Literal} (found : literalFrom read high bytes = some (text, rest)) :
    rest.length ≤ bytes.length := by
  fun_induction literalFrom read high bytes <;> simp_all <;> omega

theorem whole?_length {bytes rest : Bytes} {n : Nat} (found : whole? bytes = some (n, rest)) :
    rest.length < bytes.length := by
  unfold whole? at found
  split at found
  · cases found
  · cases found
  · next _ taken =>
    cases found
    exact dropWhile_length_lt taken

theorem fraction?_length {bytes rest : Bytes} {ds : List Nat}
    (found : fraction? bytes = some (ds, rest)) : rest.length ≤ bytes.length := by
  unfold fraction? at found
  split at found
  · split at found
    · cases found
    · cases found
      exact Nat.le_succ_of_le (dropWhile_length _ _)
  · cases found
    exact Nat.le_refl _

theorem power?_length {negative : Bool} {bytes rest : Bytes} {e : Option Int}
    (found : power? negative bytes = some (e, rest)) : rest.length ≤ bytes.length := by
  unfold power? at found
  split at found
  · cases found
  · cases found
    exact dropWhile_length _ _

theorem exponent?_length {bytes rest : Bytes} {e : Option Int}
    (found : exponent? bytes = some (e, rest)) : rest.length ≤ bytes.length := by
  unfold exponent? at found
  split at found
  · split at found
    · split at found
      all_goals
        have := power?_length found
        simp only [List.length_cons] at this ⊢
        omega
    · cases found
      exact Nat.le_refl _
  · cases found
    exact Nat.le_refl _

theorem numeral?_length {negative : Bool} {bytes rest : Bytes} {n : Numeral}
    (found : numeral? negative bytes = some (n, rest)) : rest.length < bytes.length := by
  simp only [numeral?, Option.bind_eq_bind, Option.bind_eq_some_iff, Prod.exists, Option.some.injEq,
    Prod.mk.injEq] at found
  obtain ⟨_, r₁, h₁, _, r₂, h₂, _, r₃, h₃, -, rfl⟩ := found
  have := whole?_length h₁
  have := fraction?_length h₂
  have := exponent?_length h₃
  omega

theorem next?_length {b : UInt8} {rest rest' : Bytes} {token : Token}
    (found : next? b rest = some (token, rest')) : rest'.length ≤ rest.length := by
  unfold next? at found
  repeat' split at found
  all_goals
    first
    | (cases found
       simp only [List.length_cons]
       omega)
    | (simp only [Option.map_eq_some_iff, Prod.mk.injEq, Prod.exists] at found
       obtain ⟨_, _, read, -, rfl⟩ := found
       first
       | exact literalFrom_length read
       | exact Nat.le_of_lt (numeral?_length read)
       | exact Nat.le_of_lt_succ (numeral?_length read))
    | (cases found
       exact Nat.le_refl _)
    | cases found

def ofBytesFrom (read : List Token) : Bytes → Option (List Token)
  | [] => some read.reverse
  | b :: rest =>
    if isBlankByte b then ofBytesFrom read rest
    else
      match found : next? b rest with
      | none => none
      | some (token, rest') =>
        have := next?_length found
        ofBytesFrom (token :: read) rest'
  termination_by bytes => bytes.length

def ofBytes? (bytes : Bytes) : Option (List Token) := ofBytesFrom [] bytes

/-! ### Writing -/

def lowerHex (n : Nat) : UInt8 := UInt8.ofNat (if n < 10 then 48 + n else 87 + n)

/-- Quotes, backslashes and control characters are escaped, everything else stands for itself. -/
def escape (b : UInt8) : Bytes :=
  if b == 0x22 then [0x5c, 0x22]
  else if b == 0x5c then [0x5c, 0x5c]
  else if b == 0x08 then [0x5c, 0x62]
  else if b == 0x0c then [0x5c, 0x66]
  else if b == 0x0a then [0x5c, 0x6e]
  else if b == 0x0d then [0x5c, 0x72]
  else if b == 0x09 then [0x5c, 0x74]
  else if b < 0x20 then
    [0x5c, 0x75, 0x30, 0x30, lowerHex (b.toNat / 16), lowerHex (b.toNat % 16)]
  else [b]

def quoted (text : String) : Bytes := 0x22 :: (Utf8.encode text).flatMap escape ++ [0x22]

def ofChars (cs : List Char) : Bytes := cs.map fun c => UInt8.ofNat c.toNat

def numeralBytes (n : Numeral) : Bytes :=
  (if n.negative then [0x2d] else []) ++ ofChars (Decimal.digits n.whole) ++
    (if n.fraction = [] then [] else 0x2e :: ofChars (n.fraction.map Decimal.digit)) ++
    (match n.exponent with
      | none => []
      | some e => 0x65 :: ofChars (Decimal.ofInt e))

def bytes : Token → Bytes
  | .openArray => [0x5b]
  | .closeArray => [0x5d]
  | .openObject => [0x7b]
  | .closeObject => [0x7d]
  | .comma => [0x2c]
  | .colon => [0x3a]
  | .null => Bytes.ofAscii "null"
  | .bool true => Bytes.ofAscii "true"
  | .bool false => Bytes.ofAscii "false"
  | .number n => numeralBytes n
  | .string text => quoted (text.getD "")

end Token

end TokenIndexer.Json
