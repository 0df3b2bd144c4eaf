/-!
Labels in letters, digits and hyphens alone. The plain characters come first, and behind the last hyphen stand
numbers that say which others were left out and where: each is the distance, counted through all places and
then all characters, from the one before.
-/

namespace TokenIndexer.DomainName.Punycode

def base : Nat := 36

def wordLimit : Nat := UInt32.size

def digitValue? (c : Char) : Option Nat :=
  if 'a' ≤ c ∧ c ≤ 'z' then some (c.toNat - 97)
  else if '0' ≤ c ∧ c ≤ '9' then some (c.toNat - 22)
  else none

/-- A digit below the threshold of its place ends a number. -/
def threshold (bias place : Nat) : Nat :=
  if place ≤ bias then 1 else if bias + 26 ≤ place then 26 else place - bias

/-- How often a distance is cut down before it is small, and what is left of it. Every cut divides it
by 35, so that the eight of a 32-bit distance are more than enough. -/
def cutDown (delta : Nat) : Nat → Nat × Nat
  | 0 => (0, delta)
  | cuts + 1 =>
    if 455 < delta then
      let (count, rest) := cutDown (delta / (base - 1)) cuts
      (count + 1, rest)
    else (0, delta)

def adapt (delta count : Nat) (first : Bool) : Nat :=
  let scaled := if first then delta / 700 else delta / 2
  let (cuts, rest) := cutDown (scaled + scaled / count) 8
  base * cuts + base * rest / (rest + 38)

structure Reading where
  label : List Char
  code : Nat
  index : Nat
  bias : Nat
  /-- The index where the number at hand starts from, none between numbers. -/
  start : Option Nat
  weight : Nat
  place : Nat

namespace Reading

def ofLabel (plain : List Char) : Reading := ⟨plain, 128, 0, 72, none, 1, base⟩

def insert? (reading : Reading) (start index : Nat) : Option Reading :=
  let count := reading.label.length + 1
  let code := reading.code + index / count
  if code.isValidChar then
    some ⟨reading.label.insertIdx (index % count) (Char.ofNat code), code, index % count + 1,
      adapt (index - start) count (start = 0), none, 1, base⟩
  else none

def step? (reading : Reading) (c : Char) : Option Reading :=
  (digitValue? c).bind fun digit =>
    let start := reading.start.getD reading.index
    let index := reading.index + digit * reading.weight
    let bound := threshold reading.bias reading.place
    if wordLimit ≤ index then none
    else if digit < bound then reading.insert? start index
    else if wordLimit ≤ reading.weight * (base - bound) then none
    else
      some { reading with
        index, start := some start, weight := reading.weight * (base - bound)
        place := reading.place + base }

end Reading

/-- The plain characters in front of the last hyphen and the digits behind it; a hyphen at the very
beginning divides nothing. -/
def halves (cs : List Char) : List Char × List Char :=
  match (cs.reverse.dropWhile (· ≠ '-')).reverse.dropLast with
  | [] => ([], cs)
  | plain => (plain, (cs.reverse.takeWhile (· ≠ '-')).reverse)

def decode? (cs : List Char) : Option (List Char) :=
  let (plain, digits) := halves cs
  if plain.all fun c => c.toNat < 0x80 then
    match digits.foldlM Reading.step? (.ofLabel plain) with
    | some reading => if reading.start.isNone then some reading.label else none
    | none => none
  else none

end TokenIndexer.DomainName.Punycode
