import TokenIndexer.Text

/-!
The tokens of a TOML document. A bare word keeps its characters, because what it means depends on where it
stands: a key, a number, a part of a date.
-/

namespace TokenIndexer.Toml

inductive Token where
  | newline
  /-- A run of spaces and tabs. -/
  | blank (run : List Char)
  | comment
  | equals
  | period
  | comma
  | colon
  | plus
  | openBrace
  | closeBrace
  | openBracket
  | closeBracket
  | word (chars : List Char)
  | string (text : String) (multiline : Bool)
  deriving DecidableEq

namespace Token

def isBlankChar (c : Char) : Bool := c == ' ' || c == '\t'

def isWordChar (c : Char) : Bool :=
  ('A' ≤ c && c ≤ 'Z') || ('a' ≤ c && c ≤ 'z') || ('0' ≤ c && c ≤ '9') || c == '-' || c == '_'

/-- What a comment may hold: no control character but the tab. -/
def isCommentChar (c : Char) : Bool := c == '\t' || ' ' ≤ c

def isTextChar (c : Char) : Bool := c == '\t' || (' ' ≤ c && c != '\x7f')

def foldLineEnds : List Char → List Char
  | '\r' :: '\n' :: rest => '\n' :: foldLineEnds rest
  | c :: rest => c :: foldLineEnds rest
  | [] => []

/-! ### Strings -/

/-- Up to two quotation marks that follow the three closing ones belong to the text. -/
def closing (quote : Char) (read : List Char) : List Char → List Char × List Char
  | c :: d :: rest =>
    if c = quote then
      if d = quote then ((d :: c :: read).reverse, rest) else ((c :: read).reverse, d :: rest)
    else (read.reverse, c :: d :: rest)
  | [c] => if c = quote then ((c :: read).reverse, []) else (read.reverse, [c])
  | [] => (read.reverse, [])

/-- The end of a string at a quotation mark, given what follows it; none when the mark is part of
the text. -/
def ending? (quote : Char) (multiline : Bool) (read rest : List Char) :
    Option (List Char × List Char) :=
  if multiline then
    match rest with
    | c :: d :: rest => if c = quote ∧ d = quote then some (closing quote read rest) else none
    | _ => none
  else some (read.reverse, rest)

def literalFrom (multiline : Bool) (read : List Char) : List Char → Option (List Char × List Char)
  | [] => none
  | c :: rest =>
    if c = '\'' then
      match ending? '\'' multiline read rest with
      | some done => some done
      | none => literalFrom multiline (c :: read) rest
    else if isTextChar c ∨ (multiline ∧ c = '\n') then literalFrom multiline (c :: read) rest
    else none

inductive Place where
  | text
  | escape
  /-- In the digits of a character's code; so many more digits are due after the next. -/
  | code (left value : Nat)
  /-- After a backslash at the end of a line, before the line end. -/
  | lineRest
  /-- In the blanks and line ends after such a line. -/
  | nextLine
  deriving DecidableEq

def hexValue? (c : Char) : Option Nat :=
  if '0' ≤ c ∧ c ≤ '9' then some (c.toNat - 48)
  else if 'a' ≤ c ∧ c ≤ 'f' then some (c.toNat - 87)
  else if 'A' ≤ c ∧ c ≤ 'F' then some (c.toNat - 55)
  else none

def charOf? (code : Nat) : Option Char :=
  if code.isValidChar then some (Char.ofNat code) else none

def escape? (multiline : Bool) (c : Char) : Option (List Char × Place) :=
  match c with
  | '"' => some (['"'], .text)
  | '\\' => some (['\\'], .text)
  | 'b' => some (['\x08'], .text)
  | 'f' => some (['\x0c'], .text)
  | 'n' => some (['\n'], .text)
  | 'r' => some (['\r'], .text)
  | 't' => some (['\t'], .text)
  | 'u' => some ([], .code 3 0)
  | 'U' => some ([], .code 7 0)
  | '\n' => if multiline then some ([], .nextLine) else none
  | c => if multiline ∧ isBlankChar c then some ([], .lineRest) else none

def basicFrom (multiline : Bool) (place : Place) (read : List Char) :
    List Char → Option (List Char × List Char)
  | [] => none
  | c :: rest =>
    match place with
    | .escape =>
      match escape? multiline c with
      | some (added, place) => basicFrom multiline place (added ++ read) rest
      | none => none
    | .code left value =>
      match hexValue? c with
      | none => none
      | some digit =>
        match left with
        | left + 1 => basicFrom multiline (.code left (16 * value + digit)) read rest
        | 0 =>
          match charOf? (16 * value + digit) with
          | some char => basicFrom multiline .text (char :: read) rest
          | none => none
    | .lineRest =>
      if isBlankChar c then basicFrom multiline .lineRest read rest
      else if c = '\n' then basicFrom multiline .nextLine read rest
      else none
    | place =>
      if place = .nextLine ∧ (isBlankChar c ∨ c = '\n') then basicFrom multiline .nextLine read rest
      else if c = '"' then
        match ending? '"' multiline read rest with
        | some done => some done
        | none => basicFrom multiline .text (c :: read) rest
      else if c = '\\' then basicFrom multiline .escape read rest
      else if isTextChar c ∨ (multiline ∧ c = '\n') then basicFrom multiline .text (c :: read) rest
      else none

def stringBody (quote : Char) (multiline : Bool) (cs : List Char) :
    Option (List Char × List Char) :=
  if quote = '"' then basicFrom multiline .text [] cs else literalFrom multiline [] cs

/-- A line end right after the opening marks is not part of the text. -/
def withoutFirstLineEnd : List Char → List Char
  | '\n' :: cs => cs
  | cs => cs

def stringOf (multiline : Bool) (body : Option (List Char × List Char)) :
    Option (Token × List Char) :=
  body.map fun (text, rest) => (.string (String.ofList text) multiline, rest)

def string? (quote : Char) (cs : List Char) : Option (Token × List Char) :=
  match cs with
  | c :: d :: rest =>
    if c = quote then
      if d = quote then stringOf true (stringBody quote true (withoutFirstLineEnd rest))
      else some (.string "" false, d :: rest)
    else stringOf false (stringBody quote false (c :: d :: rest))
  | [c] => if c = quote then some (.string "" false, []) else none
  | [] => none

/-! ### The token at the front -/

def next? (c : Char) (rest : List Char) : Option (Token × List Char) :=
  match c with
  | '\n' => some (.newline, rest)
  | '#' => some (.comment, rest.dropWhile isCommentChar)
  | '=' => some (.equals, rest)
  | '.' => some (.period, rest)
  | ',' => some (.comma, rest)
  | ':' => some (.colon, rest)
  | '+' => some (.plus, rest)
  | '{' => some (.openBrace, rest)
  | '}' => some (.closeBrace, rest)
  | '[' => some (.openBracket, rest)
  | ']' => some (.closeBracket, rest)
  | '\'' => string? '\'' rest
  | '"' => string? '"' rest
  | c =>
    if isBlankChar c then
      some (.blank (c :: rest.takeWhile isBlankChar), rest.dropWhile isBlankChar)
    else if isWordChar c then
      some (.word (c :: rest.takeWhile isWordChar), rest.dropWhile isWordChar)
    else none

theorem closing_length (quote : Char) (read cs : List Char) :
    (closing quote read cs).2.length ≤ cs.length := by
  unfold closing
  repeat' split
  all_goals simp <;> omega

theorem ending?_length {quote : Char} {multiline : Bool} {read rest text rest' : List Char}
    (found : ending? quote multiline read rest = some (text, rest')) :
    rest'.length ≤ rest.length := by
  unfold ending? at found
  repeat' split at found
  · next c d rest _ =>
    have shorter := closing_length quote read rest
    have := congrArg (fun done => done.2.length) (Option.some.inj found)
    simp only [List.length_cons] at this shorter ⊢
    omega
  · cases found
  · cases found
  · cases found
    exact Nat.le_refl _

theorem literalFrom_length {multiline : Bool} {read cs text rest : List Char}
    (found : literalFrom multiline read cs = some (text, rest)) : rest.length ≤ cs.length := by
  fun_induction literalFrom multiline read cs with
  | case1 => cases found
  | case2 _ _ _ ended =>
    cases found
    exact Nat.le_succ_of_le (ending?_length ended)
  | case3 _ _ _ ih => exact Nat.le_succ_of_le (ih found)
  | case4 _ _ _ _ _ ih => exact Nat.le_succ_of_le (ih found)
  | case5 => cases found

theorem basicFrom_length {multiline : Bool} {place : Place} {read cs text rest : List Char}
    (found : basicFrom multiline place read cs = some (text, rest)) : rest.length ≤ cs.length := by
  fun_induction basicFrom multiline place read cs <;> grind [→ ending?_length]

theorem dropWhile_length (p : Char → Bool) (cs : List Char) :
    (cs.dropWhile p).length ≤ cs.length :=
  (List.dropWhile_suffix p).length_le

theorem stringBody_length {quote : Char} {multiline : Bool} {cs text rest : List Char}
    (found : stringBody quote multiline cs = some (text, rest)) : rest.length ≤ cs.length := by
  unfold stringBody at found
  split at found
  · exact basicFrom_length found
  · exact literalFrom_length found

theorem withoutFirstLineEnd_length (cs : List Char) :
    (withoutFirstLineEnd cs).length ≤ cs.length := by
  unfold withoutFirstLineEnd
  split
  · exact Nat.le_succ _
  · exact Nat.le_refl _

theorem string?_length {quote : Char} {cs rest : List Char} {token : Token}
    (found : string? quote cs = some (token, rest)) : rest.length ≤ cs.length := by
  unfold string? at found
  repeat' split at found
  · next rest' _ _ =>
    simp only [stringOf, Option.map_eq_some_iff, Prod.mk.injEq, Prod.exists] at found
    obtain ⟨_, _, read, -, rfl⟩ := found
    have := stringBody_length read
    have := withoutFirstLineEnd_length rest'
    simp only [List.length_cons]
    omega
  · cases found
    simp
  · simp only [stringOf, Option.map_eq_some_iff, Prod.mk.injEq, Prod.exists] at found
    obtain ⟨_, _, read, -, rfl⟩ := found
    exact stringBody_length read
  · cases found
    simp
  · cases found
  · cases found

theorem next?_length {c : Char} {rest rest' : List Char} {token : Token}
    (found : next? c rest = some (token, rest')) : rest'.length ≤ rest.length := by
  unfold next? at found
  repeat' split at found
  all_goals
    first
    | exact string?_length found
    | (cases found
       first
       | exact Nat.le_refl _
       | exact dropWhile_length _ _)
    | cases found

def ofCharsFrom (read : List Token) : List Char → Option (List Token)
  | [] => some read.reverse
  | c :: rest =>
    match found : next? c rest with
    | none => none
    | some (token, rest') =>
      have := next?_length found
      ofCharsFrom (token :: read) rest'
  termination_by cs => cs.length

def withoutMark : List Char → List Char
  | '\ufeff' :: cs => cs
  | cs => cs

def ofText? (text : String) : Option (List Token) :=
  ofCharsFrom [] (foldLineEnds (withoutMark text.toList))

end Token

end TokenIndexer.Toml
