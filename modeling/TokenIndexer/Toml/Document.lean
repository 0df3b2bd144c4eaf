import TokenIndexer.Toml.Scalar
import TokenIndexer.Toml.Section

/-!
TOML documents. Arrays and inline tables that are still open stand on an explicit stack, so that nesting costs
no recursion.
-/

namespace TokenIndexer.Toml

namespace Token

def isFiller : Token → Bool
  | .newline => true
  | .blank _ => true
  | .comment => true
  | _ => false

def skipFiller (tokens : List Token) : List Token := tokens.dropWhile isFiller

def skipBlank : List Token → List Token
  | .blank _ :: rest => rest
  | rest => rest

theorem skipFiller_length (tokens : List Token) : (skipFiller tokens).length ≤ tokens.length :=
  (List.dropWhile_suffix _).length_le

theorem skipBlank_length (tokens : List Token) : (skipBlank tokens).length ≤ tokens.length := by
  unfold skipBlank
  split
  · exact Nat.le_succ _
  · exact Nat.le_refl _

end Token

open Toml.Token

/-! ### Keys -/

def key? : List Token → Option (String × List Token)
  | .word cs :: rest => some (String.ofList cs, rest)
  | .string text false :: rest => some (text, rest)
  | _ => none

theorem key?_length {tokens rest : List Token} {key : String}
    (found : key? tokens = some (key, rest)) : rest.length < tokens.length := by
  unfold key? at found
  split at found <;> cases found <;> exact Nat.lt_succ_self _

def path? (read : List String) (tokens : List Token) : Option (List String × List Token) :=
  match more : skipBlank tokens with
  | .period :: rest =>
    match found : key? (skipBlank rest) with
    | none => none
    | some (key, rest') =>
      have : rest'.length < tokens.length := by
        have := skipBlank_length tokens
        have := skipBlank_length rest
        have := key?_length found
        rw [more, List.length_cons] at *
        omega
      path? (key :: read) rest'
  | rest => some (read.reverse, rest)
  termination_by tokens.length

theorem path?_length {read path : List String} {tokens rest : List Token}
    (found : path? read tokens = some (path, rest)) : rest.length ≤ tokens.length := by
  fun_induction path? read tokens with
  | case1 => cases found
  | case2 _ _ _ _ _ _ _ shorter ih => exact Nat.le_of_lt (Nat.lt_of_le_of_lt (ih found) shorter)
  | case3 _ tokens =>
    cases found
    exact skipBlank_length tokens

def target? (tokens : List Token) : Option (String × List String × List Token) := do
  let (key, rest) ← key? tokens
  let (path, rest) ← path? [] rest
  match rest with
  | .equals :: rest => some (key, path, skipBlank rest)
  | _ => none

theorem target?_length {key : String} {path : List String} {tokens rest : List Token}
    (found : target? tokens = some (key, path, rest)) : rest.length < tokens.length := by
  simp only [target?, Option.bind_eq_bind, Option.bind_eq_some_iff, Prod.exists] at found
  obtain ⟨_, _, first, _, _, further, found⟩ := found
  split at found
  · next after =>
    cases found
    have := key?_length first
    have := path?_length further
    have := skipBlank_length after
    simp only [List.length_cons] at *
    omega
  · cases found

/-! ### Values -/

/-- An open container: an array with its finished items, last first, or an inline table with the
keys of the member that is being read. -/
inductive Frame where
  | array (items : List Entry)
  | table (entries : List (String × Entry)) (key : String) (path : List String)

/-- A reader of a value. A finished value stands in `finished` until its container takes it. -/
structure Reading where
  finished : Option Entry
  frames : List Frame
  rest : List Token

namespace Reading

def beginValue (frames : List Frame) : List Token → Option Reading
  | [] => none
  | .openBracket :: rest =>
    match skipFiller rest with
    | .closeBracket :: rest => some ⟨some (.array []), frames, rest⟩
    | rest => some ⟨none, .array [] :: frames, rest⟩
  | .openBrace :: rest =>
    match skipBlank rest with
    | .closeBrace :: rest => some ⟨some (.table false []), frames, rest⟩
    | rest =>
      (target? rest).map fun (key, path, rest) => ⟨none, .table [] key path :: frames, rest⟩
  | token :: rest =>
    (Scalar.read? token rest).map fun (value, rest) => ⟨some value, frames, rest⟩

def complete (value : Entry) : List Frame → List Token → Option Reading
  | [], _ => none
  | .array items :: outer, tokens =>
    match skipFiller tokens with
    | .closeBracket :: rest => some ⟨some (.array (value :: items).reverse), outer, rest⟩
    | .comma :: rest =>
      match skipFiller rest with
      | .closeBracket :: rest => some ⟨some (.array (value :: items).reverse), outer, rest⟩
      | rest => some ⟨none, .array (value :: items) :: outer, rest⟩
    | _ => none
  | .table entries key path :: outer, tokens =>
    (Entry.add value key path entries).bind fun entries =>
      match skipBlank tokens with
      | .closeBrace :: rest =>
        some ⟨some (.table false entries), outer, rest⟩
      | .comma :: rest =>
        (target? (skipBlank rest)).map fun (key, path, rest) =>
          ⟨none, .table entries key path :: outer, rest⟩
      | _ => none

def step (reading : Reading) : Option Reading :=
  match reading.finished with
  | none => beginValue reading.frames reading.rest
  | some value => complete value reading.frames reading.rest

theorem beginValue_length {frames : List Frame} {tokens : List Token} {next : Reading}
    (found : beginValue frames tokens = some next) : next.rest.length < tokens.length := by
  unfold beginValue at found
  split at found
  · cases found
  · next rest =>
    have shorter := skipFiller_length rest
    split at found
    all_goals
      next more =>
        cases found
        simp only [more, List.length_cons] at shorter ⊢
        omega
  · next rest =>
    have shorter := skipBlank_length rest
    split at found
    · next more =>
      cases found
      simp only [more, List.length_cons] at shorter ⊢
      omega
    · simp only [Option.map_eq_some_iff, Prod.exists] at found
      obtain ⟨_, _, _, target, rfl⟩ := found
      have := target?_length target
      simp only [List.length_cons]
      omega
  · simp only [Option.map_eq_some_iff, Prod.exists] at found
    obtain ⟨_, _, scalar, rfl⟩ := found
    have := Scalar.read?_length scalar
    simp only [List.length_cons]
    omega

theorem complete_length {value : Entry} {frames : List Frame} {tokens : List Token} {next : Reading}
    (found : complete value frames tokens = some next) : next.rest.length < tokens.length := by
  unfold complete at found
  split at found
  · cases found
  · have shorter := skipFiller_length tokens
    split at found
    · next more =>
      cases found
      simp only [more, List.length_cons] at shorter ⊢
      omega
    · next rest more =>
      have further := skipFiller_length rest
      split at found
      all_goals
        next last =>
          cases found
          simp only [more, last, List.length_cons] at shorter further ⊢
          omega
    · cases found
  · have shorter := skipBlank_length tokens
    simp only [Option.bind_eq_some_iff] at found
    obtain ⟨_, -, found⟩ := found
    split at found
    · next more =>
      cases found
      simp only [more, List.length_cons] at shorter ⊢
      omega
    · next rest more =>
      simp only [Option.map_eq_some_iff, Prod.exists] at found
      obtain ⟨_, _, _, target, rfl⟩ := found
      have := target?_length target
      have := skipBlank_length rest
      simp only [more, List.length_cons] at shorter ⊢
      omega
    · cases found

theorem step_length {reading next : Reading} (found : reading.step = some next) :
    next.rest.length < reading.rest.length := by
  unfold step at found
  split at found
  · exact beginValue_length found
  · exact complete_length found

def run (reading : Reading) : Option (Entry × List Token) :=
  match reading.finished, reading.frames with
  | some value, [] => some (value, reading.rest)
  | _, _ =>
    match found : reading.step with
    | none => none
    | some next =>
      have := step_length found
      run next
  termination_by reading.rest.length

theorem run_length {reading : Reading} {value : Entry} {rest : List Token}
    (found : reading.run = some (value, rest)) : rest.length ≤ reading.rest.length := by
  fun_induction run reading with
  | case1 => cases found; exact Nat.le_refl _
  | case2 => cases found
  | case3 reading next stepped _ _ ih =>
    exact Nat.le_of_lt (Nat.lt_of_le_of_lt (ih found) (step_length stepped))

end Reading

def value? (tokens : List Token) : Option (Entry × List Token) := Reading.run ⟨none, [], tokens⟩

theorem value?_length {tokens rest : List Token} {value : Entry}
    (found : value? tokens = some (value, rest)) : rest.length ≤ tokens.length :=
  Reading.run_length found

/-! ### Lines -/

/-- The end of a line, perhaps after blanks and a comment, or the end of the document. -/
def lineEnd? (tokens : List Token) : Option (List Token) :=
  match skipBlank tokens with
  | [] => some []
  | .newline :: rest => some rest
  | [.comment] => some []
  | .comment :: .newline :: rest => some rest
  | _ => none

theorem lineEnd?_length {tokens rest : List Token} (found : lineEnd? tokens = some rest) :
    rest.length ≤ tokens.length := by
  have := skipBlank_length tokens
  unfold lineEnd? at found
  split at found
  all_goals
    first
    | contradiction
    | (next more =>
        cases found
        simp only [more, List.length_cons, List.length_nil] at this ⊢
        first | done | omega)

def headerEnd? (array : Bool) : List Token → Option (List Token)
  | .closeBracket :: rest =>
    if array then
      match rest with
      | .closeBracket :: rest => some rest
      | _ => none
    else some rest
  | _ => none

theorem headerEnd?_length {array : Bool} {tokens rest : List Token}
    (found : headerEnd? array tokens = some rest) : rest.length < tokens.length := by
  unfold headerEnd? at found
  repeat' split at found
  all_goals
    first
    | contradiction
    | (cases found
       simp only [List.length_cons]
       omega)

def header? (array : Bool) (tokens : List Token) : Option (Line × List Token) := do
  let (key, rest) ← key? (skipBlank tokens)
  let (path, rest) ← path? [] rest
  let rest ← headerEnd? array rest
  let rest ← lineEnd? rest
  some (.header ⟨array, key, path⟩, rest)

def assignment? (tokens : List Token) : Option (Line × List Token) := do
  let (key, path, rest) ← target? tokens
  let (value, rest) ← value? rest
  let rest ← lineEnd? rest
  some (.assignment ⟨key, path, value⟩, rest)

def line? (tokens : List Token) : Option (Line × List Token) :=
  match tokens with
  | .openBracket :: .openBracket :: rest => header? true rest
  | .openBracket :: rest => header? false rest
  | tokens => assignment? tokens

theorem header?_length {array : Bool} {tokens rest : List Token} {line : Line}
    (found : header? array tokens = some (line, rest)) : rest.length < tokens.length := by
  simp only [header?, Option.bind_eq_bind, Option.bind_eq_some_iff, Prod.exists, Option.some.injEq,
    Prod.mk.injEq] at found
  obtain ⟨_, _, key, _, _, path, _, brackets, _, ended, -, rfl⟩ := found
  have := skipBlank_length tokens
  have := key?_length key
  have := path?_length path
  have := headerEnd?_length brackets
  have := lineEnd?_length ended
  omega

theorem assignment?_length {tokens rest : List Token} {line : Line}
    (found : assignment? tokens = some (line, rest)) : rest.length < tokens.length := by
  simp only [assignment?, Option.bind_eq_bind, Option.bind_eq_some_iff, Prod.exists,
    Option.some.injEq, Prod.mk.injEq] at found
  obtain ⟨_, _, _, target, _, _, value, _, ended, -, rfl⟩ := found
  have := target?_length target
  have := value?_length value
  have := lineEnd?_length ended
  omega

theorem line?_length {tokens rest : List Token} {line : Line}
    (found : line? tokens = some (line, rest)) : rest.length < tokens.length := by
  unfold line? at found
  split at found
  · have := header?_length found
    simp only [List.length_cons]
    omega
  · have := header?_length found
    simp only [List.length_cons]
    omega
  · exact assignment?_length found

def lines? (tokens : List Token) : Option (List Line) :=
  match skipFiller tokens with
  | [] => some []
  | _ :: _ =>
    match found : line? (skipFiller tokens) with
    | none => none
    | some (line, rest) =>
      have := Nat.lt_of_lt_of_le (line?_length found) (skipFiller_length tokens)
      (lines? rest).map (line :: ·)
  termination_by tokens.length

def sections? (text : String) : Option (List Section) := do
  let tokens ← Token.ofText? text
  let lines ← lines? tokens
  Section.ofLines? .root lines

/-- The members of the document; a key may be given more than once. -/
def members? (text : String) : Option (List (String × Toml)) :=
  (sections? text).bind Sections.allMembers?

/-- The document as a value: a table, or the date for which it stands. -/
def parse? (text : String) : Option Toml := (sections? text).bind Sections.value?

end TokenIndexer.Toml
