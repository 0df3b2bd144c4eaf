import TokenIndexer.Bytes

/-! Texts: their blanks, the pieces between separators, and their bytes. -/

namespace TokenIndexer

/-- The characters of the `White_Space` property. -/
def isBlank (c : Char) : Bool :=
  ('\t' ≤ c && c ≤ '\r') || c == ' ' || c == '\u0085' || c == '\u00a0' || c == '\u1680' ||
    ('\u2000' ≤ c && c ≤ '\u200a') || c == '\u2028' || c == '\u2029' || c == '\u202f' ||
    c == '\u205f' || c == '\u3000'

namespace Blank

def trimLeft (cs : List Char) : List Char := cs.dropWhile isBlank

def trim (cs : List Char) : List Char := (trimLeft (trimLeft cs).reverse).reverse

end Blank

end TokenIndexer

/-! ### Pieces -/

namespace TokenIndexer.Split

variable {α : Type} [DecidableEq α]

def atFirst? (separator : α) : List α → Option (List α × List α)
  | [] => none
  | c :: cs =>
    if c = separator then some ([], cs)
    else (atFirst? separator cs).map fun (front, back) => (c :: front, back)

/-- The pieces between separators, one more than there are separators. -/
def pieces (separator : α) : List α → List (List α)
  | [] => [[]]
  | c :: cs =>
    if c = separator then [] :: pieces separator cs
    else
      match pieces separator cs with
      | [] => [[c]]
      | piece :: rest => (c :: piece) :: rest

def after? (beginning : List α) (cs : List α) : Option (List α) :=
  if beginning <+: cs then some (cs.drop beginning.length) else none

end TokenIndexer.Split

/-! ### UTF-8 -/

namespace TokenIndexer.Utf8

def encode (text : String) : Bytes := text.toByteArray.data.toList

def decode? (bytes : Bytes) : Option String := String.fromUTF8? ⟨bytes.toArray⟩

theorem decode?_encode (text : String) : decode? (encode text) = some text := by
  simp [decode?, encode, String.fromUTF8?, String.fromUTF8, text.isValidUTF8]

theorem encode_of_decode? {bytes : Bytes} {text : String} (read : decode? bytes = some text) :
    encode text = bytes := by
  unfold decode? String.fromUTF8? at read
  split at read
  · cases read
    simp [encode, String.fromUTF8]
  · cases read

end TokenIndexer.Utf8
