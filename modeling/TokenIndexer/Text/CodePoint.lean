import TokenIndexer.Bytes
import TokenIndexer.Text

/-!
Tables over code points, written as rows of words with hexadecimal numbers in them: `AD` is one code point,
`115F-1160` a range of them, and what they map to stands after `>`.
-/

namespace TokenIndexer

structure CodeRange where
  first : Nat
  last : Nat
  deriving DecidableEq, Repr

/-- Values for ranges, which ascend from left to right. -/
inductive CodeTable (α : Type) where
  | empty
  | branch (before : CodeTable α) (range : CodeRange) (value : α) (after : CodeTable α)

variable {α : Type}

namespace CodeTable

def find? (code : Nat) : CodeTable α → Option (CodeRange × α)
  | .empty => none
  | .branch before range value after =>
    if code < range.first then find? code before
    else if range.last < code then find? code after
    else some (range, value)

/-- A table of at most `depth` levels of the first entries, and the entries that are left. -/
def build : Nat → List (CodeRange × α) → CodeTable α × List (CodeRange × α)
  | 0, entries => (.empty, entries)
  | depth + 1, entries =>
    match build depth entries with
    | (before, []) => (before, [])
    | (before, (range, value) :: rest) =>
      (.branch before range value (build depth rest).1, (build depth rest).2)

def ofList (entries : List (CodeRange × α)) : CodeTable α :=
  (build (Nat.log2 entries.length + 1) entries).1

end CodeTable

namespace CodePoint

def ofHex (digits : List Char) : Nat :=
  digits.foldl (fun n c => 16 * n + (Hex.digitValue? c).getD 0) 0

def char (digits : List Char) : Char := Char.ofNat (ofHex digits)

def range (word : List Char) : CodeRange :=
  match Split.atFirst? '-' word with
  | some (first, last) => ⟨ofHex first, ofHex last⟩
  | none => ⟨ofHex word, ofHex word⟩

def entry (word : List Char) : CodeRange × List Char :=
  match Split.atFirst? '>' word with
  | some (codes, value) => (range codes, value)
  | none => (range word, [])

/-- Values of code points in a row, such as `F900>8C48,66F4`. -/
def listing (word : List Char) : List (CodeRange × List Char) :=
  let (codes, values) := entry word
  (Split.pieces ',' values).zipIdx codes.first |>.map fun (value, code) => (⟨code, code⟩, value)

def words (rows : List String) : List (List Char) :=
  rows.flatMap fun row => Split.pieces ' ' row.toList

end CodePoint

namespace CodeTable

def ofRows (value : List Char → α) (rows : List String) : CodeTable α :=
  ofList ((CodePoint.words rows).map fun word =>
    ((CodePoint.entry word).1, value (CodePoint.entry word).2))

def value? (c : Char) (table : CodeTable α) : Option α := (table.find? c.toNat).map (·.2)

end CodeTable

abbrev CodeSet := CodeTable Unit

namespace CodeSet

def ofRows (rows : List String) : CodeSet := CodeTable.ofRows (fun _ => ()) rows

def has (set : CodeSet) (c : Char) : Bool := (set.find? c.toNat).isSome

end CodeSet

end TokenIndexer
