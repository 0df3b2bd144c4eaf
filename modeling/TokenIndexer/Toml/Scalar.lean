import TokenIndexer.Toml.Token
import TokenIndexer.Toml.Value

/-!
Values that are not containers. A number or a date may run over several tokens, since points, colons and plus
signs stand between words.
-/

namespace TokenIndexer.Toml.Scalar

/-! ### Digits -/

def digitValue? (radix : Nat) (c : Char) : Option Nat :=
  (Token.hexValue? c).bind fun d => if d < radix then some d else none

/-- Digits with single underscores between them, after those read, last first; and what follows. A
zero in front of other digits is refused unless `zeros` are allowed. -/
def digitsFrom (radix : Nat) (zeros : Bool) (read : List Nat) (underscore : Bool) :
    List Char → Option (List Nat × List Char)
  | [] => if read = [] ∨ underscore then none else some (read.reverse, [])
  | c :: cs =>
    match digitValue? radix c with
    | some d =>
      if zeros = false ∧ read = [0] then none else digitsFrom radix zeros (d :: read) false cs
    | none =>
      if read = [] ∨ underscore then none
      else if c = '_' then digitsFrom radix zeros read true cs
      else some (read.reverse, c :: cs)

def digits? (radix : Nat) (zeros : Bool) (cs : List Char) : Option (List Nat × List Char) :=
  digitsFrom radix zeros [] false cs

def signedDigits? (zeros : Bool) : List Char → Option (Bool × List Nat × List Char)
  | '-' :: cs => (digits? 10 zeros cs).map fun (digits, rest) => (true, digits, rest)
  | cs => (digits? 10 zeros cs).map fun (digits, rest) => (false, digits, rest)

def valueOf (radix : Nat) (digits : List Nat) : Nat := digits.foldl (fun n d => radix * n + d) 0

def signed (negative : Bool) (n : Nat) : Int := if negative then -(n : Int) else n

/-! ### Numbers -/

def int? (n : Int) : Option Toml :=
  if Int64.minValue.toInt ≤ n ∧ n ≤ Int64.maxValue.toInt then some (.int (Int64.ofInt n)) else none

/-- A whole number in another radix: no sign, any zeros in front. -/
def radixInt? (radix : Nat) (cs : List Char) : Option Toml :=
  match digits? radix true cs with
  | some (digits, []) => int? (valueOf radix digits)
  | _ => none

def decimalInt? (cs : List Char) : Option Toml :=
  match signedDigits? false cs with
  | some (negative, digits, []) => int? (signed negative (valueOf 10 digits))
  | _ => none

def withoutPlus : List Token → List Token
  | .plus :: rest => rest
  | rest => rest

/-- The exponent in what follows a number's digits, and the tokens after it. An `e` at the end of a
word has its digits in the next one, perhaps behind a plus. -/
def exponent? (suffix : List Char) (rest : List Token) : Option (Int × List Token) :=
  match suffix with
  | [] => some (0, rest)
  | c :: suffix =>
    if c = 'e' ∨ c = 'E' then
      match suffix with
      | [] =>
        match withoutPlus rest with
        | .word cs :: rest =>
          match digits? 10 true cs with
          | some (digits, []) => some (valueOf 10 digits, rest)
          | _ => none
        | _ => none
      | suffix =>
        match signedDigits? true suffix with
        | some (negative, digits, []) => some (signed negative (valueOf 10 digits), rest)
        | _ => none
    else none

def fraction? (after : Option (List Char)) (suffix : List Char) : Option (List Nat × List Char) :=
  match after with
  | none => some ([], suffix)
  | some after => if suffix = [] then digits? 10 true after else none

def float? (cs : List Char) (after : Option (List Char)) (rest : List Token) :
    Option (Toml × List Token) := do
  let (negative, integral, suffix) ← signedDigits? false cs
  let (fraction, suffix) ← fraction? after suffix
  let (power, rest) ← exponent? suffix rest
  let value :=
    Binary64.ofDecimal negative (valueOf 10 (integral ++ fraction)) (power - fraction.length)
  if value.isFinite then some (.float value, rest) else none

def wholeNumber? (cs : List Char) : Option Toml :=
  match cs with
  | ['i', 'n', 'f'] => some (.float (.infinite false))
  | ['-', 'i', 'n', 'f'] => some (.float (.infinite true))
  | ['n', 'a', 'n'] => some (.float .nan)
  | ['-', 'n', 'a', 'n'] => some (.float .nan)
  | cs => decimalInt? cs

def number? (cs : List Char) (rest : List Token) : Option (Toml × List Token) :=
  match cs with
  | '0' :: 'x' :: cs => (radixInt? 16 cs).map fun value => (value, rest)
  | '0' :: 'o' :: cs => (radixInt? 8 cs).map fun value => (value, rest)
  | '0' :: 'b' :: cs => (radixInt? 2 cs).map fun value => (value, rest)
  | cs =>
    if 'e' ∈ cs ∨ 'E' ∈ cs then float? cs none rest
    else
      match rest with
      | .period :: .word after :: rest => float? cs (some after) rest
      | .period :: _ => none
      | rest => (wholeNumber? cs).map fun value => (value, rest)

/-! ### Dates and times -/

def part? (mark : Token) (char : Char) (read : List Char) (rest : List Token) :
    Option (List Char × List Token) :=
  match rest with
  | token :: following =>
    if token = mark then
      match following with
      | .word cs :: following => some (read ++ char :: cs, following)
      | _ => none
    else some (read, rest)
  | [] => some (read, [])

def afterColon? (read : List Char) : List Token → Option (List Char × List Token)
  | .word minutes :: .colon :: .word seconds :: rest => do
    let (read, rest) ← part? .period '.' (read ++ minutes ++ ':' :: seconds) rest
    let (read, rest) ← part? .plus '+' read rest
    part? .colon ':' read rest
  | _ => none

def spacedHour (read : List Char) : List Token → List Char × List Token
  | .blank [' '] :: .word hour :: rest => (read ++ ' ' :: hour, rest)
  | rest => (read, rest)

def dateOf (found : List Char × List Token) : Entry × List Token := (.date found.1, found.2)

def date? (cs : List Char) (rest : List Token) : Option (Entry × List Token) :=
  let (cs, rest) := spacedHour cs rest
  match rest with
  | .colon :: rest => (afterColon? (cs ++ [':']) rest).map dateOf
  | rest => some (dateOf (cs, rest))

def time? (cs : List Char) (rest : List Token) : Option (Entry × List Token) :=
  let (cs, rest) := spacedHour (cs ++ [':']) rest
  (afterColon? cs rest).map dateOf

def hasPair (a b : Char) : List Char → Bool
  | c :: d :: cs => (c == a && d == b) || hasPair a b (d :: cs)
  | _ => false

/-- Whether a word is taken for the start of a date: it has a separator of a time, or a minus that
is neither its first character nor the sign of an exponent. -/
def startsDate (cs : List Char) : Bool :=
  cs.contains 'T' || cs.contains 't' ||
    ((cs.drop 1).contains '-' && !hasPair 'e' '-' cs && !hasPair 'E' '-' cs)

def written (found : Toml × List Token) : Entry × List Token := (.scalar found.1, found.2)

def numberOrDate? (cs : List Char) (rest : List Token) : Option (Entry × List Token) :=
  if startsDate cs then date? cs rest
  else
    match rest with
    | .colon :: rest => time? cs rest
    | rest => (number? cs rest).map written

/-! ### All scalars -/

def word? (cs : List Char) (rest : List Token) : Option (Entry × List Token) :=
  match cs with
  | ['t', 'r', 'u', 'e'] => some (.scalar (.bool true), rest)
  | ['f', 'a', 'l', 's', 'e'] => some (.scalar (.bool false), rest)
  | ['i', 'n', 'f'] => numberOrDate? cs rest
  | ['n', 'a', 'n'] => numberOrDate? cs rest
  | c :: _ => if c = '-' ∨ Decimal.isDigit c then numberOrDate? cs rest else none
  | [] => none

def read? (token : Token) (rest : List Token) : Option (Entry × List Token) :=
  match token with
  | .string text _ => some (.scalar (.string text), rest)
  | .word cs => word? cs rest
  | .plus =>
    match rest with
    | .word cs :: rest => (number? cs rest).map written
    | _ => none
  | _ => none

/-! Every scalar leaves no more tokens than there were. -/

theorem withoutPlus_length (rest : List Token) : (withoutPlus rest).length ≤ rest.length := by
  unfold withoutPlus
  split
  · exact Nat.le_succ _
  · exact Nat.le_refl _

theorem exponent?_length {suffix : List Char} {rest rest' : List Token} {e : Int}
    (found : exponent? suffix rest = some (e, rest')) : rest'.length ≤ rest.length := by
  unfold exponent? at found
  repeat' split at found
  all_goals
    first
    | contradiction
    | (cases found; exact Nat.le_refl _)
    | skip
  next word _ _ _ =>
    cases found
    have := withoutPlus_length rest
    rw [word, List.length_cons] at this
    omega

theorem float?_length {cs : List Char} {after : Option (List Char)} {rest rest' : List Token}
    {value : Toml} (found : float? cs after rest = some (value, rest')) :
    rest'.length ≤ rest.length := by
  simp only [float?, Option.bind_eq_bind, Option.bind_eq_some_iff, Prod.exists] at found
  obtain ⟨_, _, _, -, _, _, -, _, _, power, found⟩ := found
  split at found
  · cases found
    exact exponent?_length power
  · cases found

theorem number?_length {cs : List Char} {rest rest' : List Token} {value : Toml}
    (found : number? cs rest = some (value, rest')) : rest'.length ≤ rest.length := by
  unfold number? at found
  repeat' split at found
  all_goals
    first
    | contradiction
    | exact float?_length found
    | (have shorter := float?_length found
       simp only [List.length_cons]
       omega)
    | (simp only [Option.map_eq_some_iff, Prod.mk.injEq] at found
       obtain ⟨_, -, -, rfl⟩ := found
       exact Nat.le_refl _)

theorem part?_length {mark : Token} {char : Char} {read read' : List Char}
    {rest rest' : List Token} (found : part? mark char read rest = some (read', rest')) :
    rest'.length ≤ rest.length := by
  unfold part? at found
  repeat' split at found
  all_goals
    first
    | contradiction
    | (cases found
       simp only [List.length_cons, List.length_nil]
       omega)

theorem afterColon?_length {read read' : List Char} {rest rest' : List Token}
    (found : afterColon? read rest = some (read', rest')) : rest'.length ≤ rest.length := by
  unfold afterColon? at found
  split at found
  · simp only [Option.bind_eq_bind, Option.bind_eq_some_iff, Prod.exists] at found
    obtain ⟨_, _, fraction, _, _, plus, colon⟩ := found
    have := part?_length fraction
    have := part?_length plus
    have := part?_length colon
    simp only [List.length_cons]
    omega
  · cases found

theorem spacedHour_length (read : List Char) (rest : List Token) :
    (spacedHour read rest).2.length ≤ rest.length := by
  unfold spacedHour
  split
  · simp only [List.length_cons]
    omega
  · exact Nat.le_refl _

theorem written_length {cs : List Char} {rest rest' : List Token} {value : Entry}
    (found : (number? cs rest).map written = some (value, rest')) :
    rest'.length ≤ rest.length := by
  simp only [Option.map_eq_some_iff, Prod.exists, written, Prod.mk.injEq] at found
  obtain ⟨_, _, number, -, rfl⟩ := found
  exact number?_length number

theorem time?_length {cs : List Char} {rest rest' : List Token} {value : Entry}
    (found : time? cs rest = some (value, rest')) : rest'.length ≤ rest.length := by
  simp only [time?, Option.map_eq_some_iff, Prod.exists, dateOf, Prod.mk.injEq] at found
  obtain ⟨_, _, time, -, rfl⟩ := found
  exact Nat.le_trans (afterColon?_length time) (spacedHour_length (cs ++ [':']) rest)

theorem date?_length {cs : List Char} {rest rest' : List Token} {value : Entry}
    (found : date? cs rest = some (value, rest')) : rest'.length ≤ rest.length := by
  have shorter := spacedHour_length cs rest
  simp only [date?] at found
  split at found
  · next colon =>
    simp only [Option.map_eq_some_iff, Prod.exists, dateOf, Prod.mk.injEq] at found
    obtain ⟨_, _, time, -, rfl⟩ := found
    have := afterColon?_length time
    simp only [colon, List.length_cons] at shorter
    omega
  · simp only [dateOf, Option.some.injEq, Prod.mk.injEq] at found
    obtain ⟨-, rfl⟩ := found
    exact shorter

theorem numberOrDate?_length {cs : List Char} {rest rest' : List Token} {value : Entry}
    (found : numberOrDate? cs rest = some (value, rest')) : rest'.length ≤ rest.length := by
  unfold numberOrDate? at found
  split at found
  · exact date?_length found
  · split at found
    · have := time?_length found
      simp only [List.length_cons]
      omega
    · exact written_length found

theorem read?_length {token : Token} {rest rest' : List Token} {value : Entry}
    (found : read? token rest = some (value, rest')) : rest'.length ≤ rest.length := by
  unfold read? word? at found
  repeat' split at found
  all_goals
    first
    | contradiction
    | exact numberOrDate?_length found
    | (have shorter := written_length found
       simp only [List.length_cons]
       omega)
    | (cases found
       exact Nat.le_refl _)

end TokenIndexer.Toml.Scalar
