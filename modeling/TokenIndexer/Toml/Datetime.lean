import TokenIndexer.Decimal.Digits

/-!
Dates and times. Days are checked against 31 and hours against 24, whatever the month; fractions of a second
beyond nanoseconds are cut off.
-/

namespace TokenIndexer

structure Date where
  year : Nat
  month : Nat
  day : Nat
  deriving DecidableEq, Repr

structure Clock where
  hour : Nat
  minute : Nat
  second : Nat
  nanosecond : Nat
  deriving DecidableEq, Repr

inductive Offset where
  | utc
  | hoursMinutes (hours : Int) (minutes : Nat)
  deriving DecidableEq, Repr

structure Datetime where
  date : Option Date
  clock : Option Clock
  offset : Option Offset
  deriving DecidableEq, Repr

namespace Datetime

/-! ### Reading -/

def fixed? (read : Nat) : Nat → List Char → Option (Nat × List Char)
  | 0, cs => some (read, cs)
  | count + 1, c :: cs =>
    if Decimal.isDigit c then fixed? (10 * read + Decimal.digitValue c) count cs else none
  | _ + 1, [] => none

def mark? (mark : Char) : List Char → Option (List Char)
  | c :: cs => if c = mark then some cs else none
  | [] => none

def date? (cs : List Char) : Option (Date × List Char) := do
  let (year, cs) ← fixed? 0 4 cs
  let cs ← mark? '-' cs
  let (month, cs) ← fixed? 0 2 cs
  let cs ← mark? '-' cs
  let (day, cs) ← fixed? 0 2 cs
  if 1 ≤ month ∧ month ≤ 12 ∧ 1 ≤ day ∧ day ≤ 31 then some (⟨year, month, day⟩, cs) else none

def nanoseconds (digits : List Char) : Nat :=
  Decimal.value (digits.take 9) * Decimal.power (9 - digits.length)

def fraction? : List Char → Option (Nat × List Char)
  | '.' :: cs =>
    match cs.takeWhile Decimal.isDigit with
    | [] => none
    | digits => some (nanoseconds digits, cs.dropWhile Decimal.isDigit)
  | cs => some (0, cs)

def clock? (cs : List Char) : Option (Clock × List Char) := do
  let (hour, cs) ← fixed? 0 2 cs
  let cs ← mark? ':' cs
  let (minute, cs) ← fixed? 0 2 cs
  let cs ← mark? ':' cs
  let (second, cs) ← fixed? 0 2 cs
  let (nanosecond, cs) ← fraction? cs
  if hour ≤ 24 ∧ minute ≤ 59 ∧ second ≤ 59 then some (⟨hour, minute, second, nanosecond⟩, cs)
  else none

def offsetFrom? (sign : Int) (cs : List Char) : Option Offset := do
  let (hours, cs) ← fixed? 0 2 cs
  let cs ← mark? ':' cs
  let (minutes, cs) ← fixed? 0 2 cs
  if cs = [] then some (.hoursMinutes (sign * hours) minutes) else none

def offset? : List Char → Option (Option Offset)
  | [] => some none
  | ['Z'] => some (some .utc)
  | ['z'] => some (some .utc)
  | '+' :: cs => (offsetFrom? 1 cs).map some
  | '-' :: cs => (offsetFrom? (-1) cs).map some
  | _ => none

def separates (c : Char) : Bool := c == 'T' || c == 't' || c == ' '

def ofChars? (cs : List Char) : Option Datetime :=
  if cs[2]? = some ':' then
    match clock? cs with
    | some (clock, []) => some ⟨none, some clock, none⟩
    | _ => none
  else do
    let (date, rest) ← date? cs
    match rest with
    | [] => some ⟨some date, none, none⟩
    | c :: rest =>
      if separates c then
        let (clock, rest) ← clock? rest
        let offset ← offset? rest
        some ⟨some date, some clock, offset⟩
      else none

/-! ### Writing -/

def dateChars (date : Date) : List Char :=
  Decimal.padded 4 date.year ++ '-' :: Decimal.padded 2 date.month ++ '-' :: Decimal.padded 2 date.day

def withoutTrailingZeros (cs : List Char) : List Char := (cs.reverse.dropWhile (· == '0')).reverse

def clockChars (clock : Clock) : List Char :=
  Decimal.padded 2 clock.hour ++ ':' :: Decimal.padded 2 clock.minute ++
    ':' :: Decimal.padded 2 clock.second ++
    if clock.nanosecond = 0 then []
    else '.' :: withoutTrailingZeros (Decimal.padded 9 clock.nanosecond)

def offsetChars : Offset → List Char
  | .utc => ['Z']
  | .hoursMinutes hours minutes =>
    (if hours < 0 then '-' else '+') :: Decimal.padded 2 hours.natAbs ++
      ':' :: Decimal.padded 2 minutes

def chars (datetime : Datetime) : List Char :=
  (datetime.date.map dateChars).getD [] ++
    (if datetime.date.isSome && datetime.clock.isSome then ['T'] else []) ++
    (datetime.clock.map clockChars).getD [] ++ (datetime.offset.map offsetChars).getD []

def text (datetime : Datetime) : String := String.ofList datetime.chars

end Datetime

end TokenIndexer
