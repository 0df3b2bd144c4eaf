import Mathlib.Data.List.Forall2
import TokenIndexer.Proofs.Toml.Literal

/-!
Quoted strings, said without a reader: between the marks a text stands in parts, each a character that stands
for itself, an escape, or a line end.
-/

namespace TokenIndexer.Toml

open TokenIndexer.Toml.Token

/-! ### Spellings -/

def marks (multiline : Bool) : Nat := if multiline then 3 else 1

def Coded (digits : List Char) (c : Char) : Prop :=
  ∃ values, List.Forall₂ (fun digit value => hexValue? digit = some value) digits values ∧
    values.foldl (fun n d => 16 * n + d) 0 = c.toNat

def letters : List (Char × Char) :=
  [('"', '"'), ('\\', '\\'), ('b', '\x08'), ('f', '\x0c'), ('n', '\n'), ('r', '\r'), ('t', '\t')]

inductive Escape : List Char → Char → Prop where
  | letter {e c : Char} (known : (e, c) ∈ letters) : Escape [e] c
  | short {digits : List Char} {c : Char} (four : digits.length = 4) (coded : Coded digits c) :
    Escape ('u' :: digits) c
  | long {digits : List Char} {c : Char} (eight : digits.length = 8) (coded : Coded digits c) :
    Escape ('U' :: digits) c

/-- A part of a string with escapes: its spelling, the text that it adds, and what follows it. A backslash at
the end of a line takes the line end and all blanks and line ends after it. -/
inductive BasicPart (multiline : Bool) : List Char → List Char → List Char → Prop where
  | plain {c : Char} {following : List Char} (allowed : isTextChar c = true) (noMark : c ≠ '"')
    (noBackslash : c ≠ '\\') : BasicPart multiline [c] [c] following
  | escape {spelled following : List Char} {c : Char} (escape : Escape spelled c) :
    BasicPart multiline ('\\' :: spelled) [c] following
  | lineEnd {following : List Char} (lines : multiline = true) : BasicPart multiline ['\n'] ['\n'] following
  | continued {blanks gap following : List Char} (lines : multiline = true)
    (blank : ∀ c ∈ blanks, isBlankChar c = true) (empty : ∀ c ∈ gap, isBlankChar c = true ∨ c = '\n')
    (stops : ∀ c ∈ following.head?, isBlankChar c = false ∧ c ≠ '\n') :
    BasicPart multiline ('\\' :: (blanks ++ '\n' :: gap)) [] following

inductive LiteralPart (multiline : Bool) : List Char → List Char → List Char → Prop where
  | plain {c : Char} {following : List Char} (allowed : isTextChar c = true) (noMark : c ≠ '\'') :
    LiteralPart multiline [c] [c] following
  | lineEnd {following : List Char} (lines : multiline = true) : LiteralPart multiline ['\n'] ['\n'] following

/-- A text in parts. Fewer marks than end the string may stand before each part and after the last. -/
inductive Body (mark : Char) (multiline : Bool) (part : List Char → List Char → List Char → Prop) :
    List Char → List Char → Prop where
  | ending {n : Nat} (few : n < marks multiline) :
    Body mark multiline part (List.replicate n mark) (List.replicate n mark)
  | cons {n : Nat} {spelled added rest text : List Char} (few : n < marks multiline)
    (first : part spelled added rest) (others : Body mark multiline part rest text) :
    Body mark multiline part (List.replicate n mark ++ (spelled ++ rest))
      (List.replicate n mark ++ (added ++ text))

/-- What stands between the marks and the text: a line end right after three marks is not part of it. -/
def Opening (multiline : Bool) (first spelled : List Char) : Prop :=
  (first = [] ∧ (multiline = true → spelled.head? ≠ some '\n')) ∨ (multiline = true ∧ first = ['\n'])

inductive Quoted : List Char → List Char → Prop where
  | basic {multiline : Bool} {first spelled text : List Char} (opening : Opening multiline first spelled)
    (body : Body '"' multiline (BasicPart multiline) spelled text) :
    Quoted (List.replicate (marks multiline) '"' ++ (first ++ (spelled ++
      List.replicate (marks multiline) '"'))) text
  | literal {multiline : Bool} {first spelled text : List Char} (opening : Opening multiline first spelled)
    (body : Body '\'' multiline (LiteralPart multiline) spelled text) :
    Quoted (List.replicate (marks multiline) '\'' ++ (first ++ (spelled ++
      List.replicate (marks multiline) '\''))) text

/-! ### Reading a body -/

/-- What the reader of a string does at a mark, and at a part of the text that is spelled before the rest. -/
structure Reads (mark : Char) (multiline : Bool) (part : List Char → List Char → List Char → Prop)
    (reader : List Char → List Char → Option (List Char × List Char)) : Prop where
  atMark : ∀ read rest,
    reader read (mark :: rest) = (ending? mark multiline read rest).or (reader (mark :: read) rest)
  apart : ∀ spelled added following, part spelled added following → ∃ c cs, spelled = c :: cs ∧ c ≠ mark
  atPart : ∀ spelled added following, part spelled added following → ∀ read after,
    reader read (spelled ++ (following ++ (List.replicate (marks multiline) mark ++ after))) =
      reader (added.reverse ++ read) (following ++ (List.replicate (marks multiline) mark ++ after))

theorem ending?_other {mark c : Char} (other : c ≠ mark) (read rest : List Char) :
    ending? mark true read (c :: rest) = none := by
  cases rest with
  | nil => rfl
  | cons d rest => simp [ending?, other]

theorem ending?_markOther {mark c : Char} (other : c ≠ mark) (read rest : List Char) :
    ending? mark true read (mark :: c :: rest) = none := by
  simp [ending?, other]

namespace Reads

variable {mark : Char} {multiline : Bool} {part : List Char → List Char → List Char → Prop}
  {reader : List Char → List Char → Option (List Char × List Char)}

/-- Marks too few to end the string are text, before any other character. -/
theorem inside (reads : Reads mark multiline part reader) {n : Nat} (few : n < marks multiline) {c : Char}
    (other : c ≠ mark) (read rest : List Char) :
    reader read (List.replicate n mark ++ c :: rest) = reader (List.replicate n mark ++ read) (c :: rest) := by
  cases multiline with
  | false =>
    obtain rfl : n = 0 := Nat.lt_one_iff.1 few
    rfl
  | true =>
    match n, few with
    | 0, _ => rfl
    | 1, _ =>
      change reader read (mark :: c :: rest) = _
      rw [reads.atMark, ending?_other other]
      rfl
    | 2, _ =>
      change reader read (mark :: mark :: c :: rest) = _
      rw [reads.atMark, ending?_markOther other]
      change reader (mark :: read) (mark :: c :: rest) = _
      rw [reads.atMark, ending?_other other]
      rfl

theorem ends (reads : Reads mark multiline part reader) {n : Nat} (few : n < marks multiline)
    (read : List Char) {after : List Char} (noMark : ∀ c ∈ after.head?, c ≠ mark) :
    reader read (List.replicate n mark ++ (List.replicate (marks multiline) mark ++ after)) =
      some (read.reverse ++ List.replicate n mark, after) := by
  cases multiline with
  | false =>
    obtain rfl : n = 0 := Nat.lt_one_iff.1 few
    change reader read (mark :: after) = _
    rw [reads.atMark]
    simp [ending?]
  | true =>
    have whole : List.replicate n mark ++ (List.replicate (marks true) mark ++ after) =
        mark :: mark :: mark :: (List.replicate n mark ++ after) := by
      rw [← List.append_assoc, ← List.replicate_add, Nat.add_comm, List.replicate_add, List.append_assoc]
      rfl
    have closes : closing mark read (List.replicate n mark ++ after) =
        (read.reverse ++ List.replicate n mark, after) := by
      have which : n = 0 ∨ n = 1 ∨ n = 2 := by
        have : n < 3 := few
        omega
      cases after with
      | nil => obtain rfl | rfl | rfl := which <;> simp [closing, List.replicate]
      | cons c after =>
        have other := noMark c rfl
        obtain rfl | rfl | rfl := which <;> cases after <;> simp [closing, List.replicate, other]
    rw [whole, reads.atMark]
    simp [ending?, closes]

theorem body (reads : Reads mark multiline part reader) {spelled text : List Char}
    (body : Body mark multiline part spelled text) (read : List Char) {after : List Char}
    (noMark : ∀ c ∈ after.head?, c ≠ mark) :
    reader read (spelled ++ (List.replicate (marks multiline) mark ++ after)) =
      some (read.reverse ++ text, after) := by
  induction body generalizing read with
  | ending few => exact reads.ends few read noMark
  | @cons n spelled added rest text few first others ih =>
    obtain ⟨c, cs, rfl, other⟩ := reads.apart _ _ _ first
    have spell := reads.atPart _ _ _ first (List.replicate n mark ++ read) after
    rw [List.append_assoc, List.append_assoc, List.cons_append, reads.inside few other,
      ← List.cons_append, spell, ih]
    simp

end Reads

/-! ### The two readers -/

variable {multiline : Bool}

theorem literalFrom_char {c : Char} (noMark : c ≠ '\'')
    (allowed : isTextChar c = true ∨ (multiline = true ∧ c = '\n')) (read rest : List Char) :
    literalFrom multiline read (c :: rest) = literalFrom multiline (c :: read) rest := by
  rw [literalFrom, if_neg noMark, if_pos allowed]

theorem reads_literal : Reads '\'' multiline (LiteralPart multiline) (literalFrom multiline) where
  atMark read rest := by
    rw [literalFrom, if_pos rfl]
    cases ending? '\'' multiline read rest <;> rfl
  apart spelled added following part := by
    cases part with
    | plain allowed noMark => exact ⟨_, [], rfl, noMark⟩
    | lineEnd lines => exact ⟨'\n', [], rfl, by decide⟩
  atPart spelled added following part read after := by
    cases part with
    | plain allowed noMark => exact literalFrom_char noMark (.inl allowed) read _
    | lineEnd lines => exact literalFrom_char (by decide) (.inr ⟨lines, rfl⟩) read _

theorem basicFrom_text (c : Char) (read rest : List Char) :
    basicFrom multiline .text read (c :: rest) =
      if c = '"' then (ending? '"' multiline read rest).or (basicFrom multiline .text (c :: read) rest)
      else if c = '\\' then basicFrom multiline .escape read rest
      else if isTextChar c = true ∨ (multiline = true ∧ c = '\n') then
        basicFrom multiline .text (c :: read) rest
      else none := by
  rw [basicFrom]
  · cases ending? '"' multiline read rest <;> simp
  all_goals simp only [reduceCtorEq, false_implies, implies_true]

theorem basicFrom_char {c : Char} (noMark : c ≠ '"') (noBackslash : c ≠ '\\')
    (allowed : isTextChar c = true ∨ (multiline = true ∧ c = '\n')) (read rest : List Char) :
    basicFrom multiline .text read (c :: rest) = basicFrom multiline .text (c :: read) rest := by
  rw [basicFrom_text, if_neg noMark, if_neg noBackslash, if_pos allowed]

theorem basicFrom_backslash (read rest : List Char) :
    basicFrom multiline .text read ('\\' :: rest) = basicFrom multiline .escape read rest := by
  rw [basicFrom_text, if_neg (by decide), if_pos rfl]

theorem basicFrom_escape {e : Char} {added : List Char} {place : Place}
    (found : escape? multiline e = some (added, place)) (read rest : List Char) :
    basicFrom multiline .escape read (e :: rest) = basicFrom multiline place (added ++ read) rest := by
  rw [basicFrom]
  simp [found]

theorem escape?_letter {e c : Char} (known : (e, c) ∈ letters) :
    escape? multiline e = some ([c], .text) := by
  have table : ∀ pair ∈ letters, ∀ multiline, escape? multiline pair.1 = some ([pair.2], .text) := by decide
  exact table _ known multiline

theorem charOf?_toNat (c : Char) : charOf? c.toNat = some c := by
  have valid : c.toNat.isValidChar := c.valid
  rw [charOf?, if_pos valid, Char.ofNat_toNat]

/-- The digits of a code, after those that make up `value`. -/
theorem basicFrom_code {digits : List Char} {values : List Nat} {left value : Nat} {c : Char}
    (spelled : List.Forall₂ (fun digit value => hexValue? digit = some value) digits values)
    (count : digits.length = left + 1)
    (code : values.foldl (fun n d => 16 * n + d) value = c.toNat) (read rest : List Char) :
    basicFrom multiline (.code left value) read (digits ++ rest) =
      basicFrom multiline .text (c :: read) rest := by
  induction spelled generalizing left value with
  | nil => cases count
  | @cons digit d digits values first others ih =>
    rw [List.foldl_cons] at code
    rw [List.cons_append, basicFrom]
    simp only [first]
    cases left with
    | zero =>
      obtain rfl : digits = [] := List.length_eq_zero_iff.1 (Nat.succ.inj count)
      cases others
      rw [List.foldl_nil] at code
      simp only [code, charOf?_toNat]
      rfl
    | succ left => exact ih (Nat.succ.inj count) code

theorem basicFrom_escaped {spelled : List Char} {c : Char} (escape : Escape spelled c)
    (read rest : List Char) :
    basicFrom multiline .text read ('\\' :: (spelled ++ rest)) = basicFrom multiline .text (c :: read) rest := by
  rw [basicFrom_backslash]
  cases escape with
  | short four coded =>
    obtain ⟨values, spelled, code⟩ := coded
    exact (basicFrom_escape rfl read _).trans (basicFrom_code spelled four code read rest)
  | long eight coded =>
    obtain ⟨values, spelled, code⟩ := coded
    exact (basicFrom_escape rfl read _).trans (basicFrom_code spelled eight code read rest)
  | letter known => exact basicFrom_escape (escape?_letter known) read rest

theorem basicFrom_nextLine (c : Char) (read rest : List Char) :
    basicFrom multiline .nextLine read (c :: rest) =
      if isBlankChar c = true ∨ c = '\n' then basicFrom multiline .nextLine read rest
      else basicFrom multiline .text read (c :: rest) := by
  by_cases empty : isBlankChar c = true ∨ c = '\n'
  · rw [if_pos empty, basicFrom, if_pos ⟨rfl, empty⟩]
    all_goals simp only [reduceCtorEq, false_implies, implies_true]
  · rw [if_neg empty, basicFrom_text, basicFrom, if_neg fun both => empty both.2]
    · cases ending? '"' multiline read rest <;> rfl
    all_goals simp only [reduceCtorEq, false_implies, implies_true]

theorem basicFrom_gap {gap cs : List Char} (empty : ∀ c ∈ gap, isBlankChar c = true ∨ c = '\n')
    (stops : ∀ c ∈ cs.head?, isBlankChar c = false ∧ c ≠ '\n') (read : List Char) :
    basicFrom multiline .nextLine read (gap ++ cs) = basicFrom multiline .text read cs := by
  induction gap with
  | nil =>
    cases cs with
    | nil => rfl
    | cons c cs =>
      obtain ⟨blank, lineEnd⟩ := stops c rfl
      rw [List.nil_append, basicFrom_nextLine, if_neg (by simp [blank, lineEnd])]
  | cons c gap ih =>
    rw [List.cons_append, basicFrom_nextLine, if_pos (empty c List.mem_cons_self)]
    exact ih fun d member => empty d (List.mem_cons_of_mem _ member)

theorem basicFrom_lineRest {blanks : List Char} (blank : ∀ c ∈ blanks, isBlankChar c = true)
    (read rest : List Char) :
    basicFrom multiline .lineRest read (blanks ++ '\n' :: rest) = basicFrom multiline .nextLine read rest := by
  induction blanks with
  | nil => rw [List.nil_append, basicFrom, if_neg (by decide), if_pos rfl]
  | cons c blanks ih =>
    rw [List.cons_append, basicFrom, if_pos (blank c List.mem_cons_self)]
    exact ih fun d member => blank d (List.mem_cons_of_mem _ member)

theorem basicFrom_continued (lines : multiline = true) {blanks gap cs : List Char}
    (blank : ∀ c ∈ blanks, isBlankChar c = true) (empty : ∀ c ∈ gap, isBlankChar c = true ∨ c = '\n')
    (stops : ∀ c ∈ cs.head?, isBlankChar c = false ∧ c ≠ '\n') (read : List Char) :
    basicFrom multiline .text read ('\\' :: (blanks ++ '\n' :: (gap ++ cs))) =
      basicFrom multiline .text read cs := by
  subst lines
  have later : basicFrom true .nextLine read (gap ++ cs) = basicFrom true .text read cs :=
    basicFrom_gap empty stops read
  rw [basicFrom_backslash]
  cases blanks with
  | nil => exact (basicFrom_escape rfl read _).trans later
  | cons b blanks =>
    have space : escape? true b = some ([], .lineRest) := by
      obtain same | same := Bool.or_eq_true_iff.1 (blank b List.mem_cons_self)
      all_goals
        obtain rfl := eq_of_beq same
        rfl
    rw [List.cons_append, basicFrom_escape space, List.nil_append,
      basicFrom_lineRest fun c member => blank c (List.mem_cons_of_mem _ member)]
    exact later

theorem reads_basic : Reads '"' multiline (BasicPart multiline) (basicFrom multiline .text) where
  atMark read rest := by rw [basicFrom_text, if_pos rfl]
  apart spelled added following part := by
    cases part with
    | plain allowed noMark noBackslash => exact ⟨_, [], rfl, noMark⟩
    | escape escape => exact ⟨'\\', _, rfl, by decide⟩
    | lineEnd lines => exact ⟨'\n', [], rfl, by decide⟩
    | continued lines blank empty stops => exact ⟨'\\', _, rfl, by decide⟩
  atPart spelled added following part read after := by
    cases part with
    | plain allowed noMark noBackslash => exact basicFrom_char noMark noBackslash (.inl allowed) read _
    | escape escape => exact basicFrom_escaped escape read _
    | lineEnd lines => exact basicFrom_char (by decide) (by decide) (.inr ⟨lines, rfl⟩) read _
    | @continued blanks gap _ lines blank empty stops =>
      rw [List.cons_append, List.append_assoc, List.cons_append]
      apply basicFrom_continued lines blank empty
      intro c first
      cases following with
      | nil =>
        -- The closing marks follow.
        subst lines
        cases first
        decide
      | cons d following => exact stops c first

/-! ### Strings as tokens, and as literals -/

variable {mark : Char} {part : List Char → List Char → List Char → Prop} {first spelled text : List Char}

theorem withoutFirstLineEnd_opening (opening : Opening true first spelled) {rest : List Char}
    (other : rest.head? ≠ some '\n') : withoutFirstLineEnd (first ++ (spelled ++ rest)) = spelled ++ rest := by
  rcases opening with ⟨rfl, starts⟩ | ⟨-, rfl⟩
  · have differs : ∀ cs, spelled ++ rest ≠ '\n' :: cs := by
      rintro cs same
      cases spelled with
      | nil => exact other (congrArg List.head? same)
      | cons c spelled => exact starts rfl (congrArg some (List.cons.inj same).1)
    rw [List.nil_append]
    unfold withoutFirstLineEnd
    split
    · next same => exact absurd same (differs _)
    · rfl
  · rfl

/-- Between single marks the text is empty, or starts with no mark. -/
theorem Body.starts (apart : ∀ spelled added following, part spelled added following →
      ∃ c cs, spelled = c :: cs ∧ c ≠ mark) (body : Body mark false part spelled text) :
    (spelled = [] ∧ text = []) ∨ ∃ c cs, spelled = c :: cs ∧ c ≠ mark := by
  cases body with
  | ending few =>
    obtain rfl := Nat.lt_one_iff.1 few
    exact .inl ⟨rfl, rfl⟩
  | cons few first others =>
    obtain rfl := Nat.lt_one_iff.1 few
    obtain ⟨c, cs, rfl, other⟩ := apart _ _ _ first
    exact .inr ⟨c, _, rfl, other⟩

theorem string?_body (reads : Reads mark multiline part fun read cs =>
      if mark = '"' then basicFrom multiline .text read cs else literalFrom multiline read cs)
    (noLineEnd : mark ≠ '\n') (opening : Opening multiline first spelled)
    (body : Body mark multiline part spelled text) {after : List Char}
    (noMark : ∀ c ∈ after.head?, c ≠ mark) :
    string? mark (List.replicate (marks multiline - 1) mark ++ (first ++ (spelled ++
      (List.replicate (marks multiline) mark ++ after)))) =
        some (.string (String.ofList text) multiline, after) := by
  have read : stringOf multiline
      (stringBody mark multiline (spelled ++ (List.replicate (marks multiline) mark ++ after))) =
        some (.string (String.ofList text) multiline, after) :=
    congrArg (stringOf multiline) (reads.body body [] noMark)
  cases multiline with
  | true =>
    have whole : withoutFirstLineEnd (first ++ (spelled ++ (List.replicate (marks true) mark ++ after))) =
        spelled ++ (List.replicate (marks true) mark ++ after) :=
      withoutFirstLineEnd_opening opening (by simpa [marks, List.replicate] using noLineEnd)
    change string? mark (mark :: mark :: (first ++ (spelled ++ (List.replicate (marks true) mark ++ after)))) = _
    rw [string?, if_pos rfl, if_pos rfl, whole, read]
  | false =>
    obtain rfl : first = [] := by
      rcases opening with ⟨empty, -⟩ | ⟨lines, -⟩
      · exact empty
      · cases lines
    obtain ⟨rfl, rfl⟩ | ⟨c, cs, rfl, other⟩ := body.starts reads.apart
    · change string? mark (mark :: after) = _
      cases after with
      | nil => rw [string?, if_pos rfl]
      | cons c after => rw [string?, if_pos rfl, if_neg (noMark c rfl)]
    · obtain ⟨d, rest, more⟩ : ∃ d rest, cs ++ mark :: after = d :: rest := by
        cases cs <;> exact ⟨_, _, rfl⟩
      change string? mark (c :: (cs ++ mark :: after)) = _
      rw [more, string?, if_neg other, ← more]
      exact read

theorem next?_quoted {spelled text : List Char} (quoted : Quoted spelled text) :
    ∃ c cs multiline, spelled = c :: cs ∧ ∀ after, (∀ d ∈ after.head?, d = '\n') →
      next? c (cs ++ after) = some (.string (String.ofList text) multiline, after) := by
  cases quoted with
  | @basic multiline first spelled text opening body =>
    refine ⟨'"', List.replicate (marks multiline - 1) '"' ++ (first ++ (spelled ++
      List.replicate (marks multiline) '"')), multiline, ?_, fun after lineEnd => ?_⟩
    · cases multiline <;> rfl
    · have noMark : ∀ d ∈ after.head?, d ≠ '"' := by
        rintro d first rfl
        cases lineEnd _ first
      simp only [List.append_assoc]
      exact string?_body (by simpa using reads_basic) (by decide) opening body noMark
  | @literal multiline first spelled text opening body =>
    refine ⟨'\'', List.replicate (marks multiline - 1) '\'' ++ (first ++ (spelled ++
      List.replicate (marks multiline) '\'')), multiline, ?_, fun after lineEnd => ?_⟩
    · cases multiline <;> rfl
    · have noMark : ∀ d ∈ after.head?, d ≠ '\'' := by
        rintro d first rfl
        cases lineEnd _ first
      simp only [List.append_assoc]
      exact string?_body (by simpa using reads_literal) (by decide) opening body noMark

theorem single_quoted {spelled text : List Char} (quoted : Quoted spelled text) :
    ∃ token, Single spelled token (.string (String.ofList text)) := by
  obtain ⟨c, cs, multiline, rfl, found⟩ := next?_quoted quoted
  exact ⟨.string (String.ofList text) multiline,
    ⟨fun after lineEnd => ofChars?_cons (found after lineEnd), fun _ _ => rfl⟩⟩

/-! ### Every text has a spelling -/

def hexDigit (n : Nat) : Char := Char.ofNat (if n < 10 then 48 + n else 87 + n)

/-- A character between marks: itself, with a backslash, or by its code. -/
def escaped (c : Char) : List Char :=
  if c = '"' ∨ c = '\\' then ['\\', c]
  else if isTextChar c then [c]
  else ['\\', 'u', '0', '0', hexDigit (c.toNat / 16), hexDigit (c.toNat % 16)]

def quote (text : List Char) : List Char := '"' :: (text.flatMap escaped ++ ['"'])

theorem toNat_lt_of_not_isTextChar {c : Char} (hidden : isTextChar c = false) : c.toNat < 128 := by
  by_contra large
  have above : ' ' ≤ c := by
    refine UInt32.le_iff_toNat_le.2 ?_
    change 32 ≤ c.toNat
    omega
  have noDelete : c ≠ '\x7f' := by
    rintro rfl
    exact large (by decide)
  simp [isTextChar, above, noDelete] at hidden

theorem coded_hexDigits {c : Char} (small : c.toNat < 128) :
    Coded ['0', '0', hexDigit (c.toNat / 16), hexDigit (c.toNat % 16)] c := by
  have table : ∀ k : Fin 128, hexValue? (hexDigit (k / 16)) = some (k / 16) ∧
      hexValue? (hexDigit (k % 16)) = some (k % 16) := by decide
  obtain ⟨high, low⟩ := table ⟨c.toNat, small⟩
  refine ⟨[0, 0, c.toNat / 16, c.toNat % 16], .cons rfl (.cons rfl (.cons high (.cons low .nil))), ?_⟩
  simp only [List.foldl_cons, List.foldl_nil]
  omega

theorem basicPart_escaped (c : Char) (following : List Char) : BasicPart false (escaped c) [c] following := by
  unfold escaped
  split
  · next mark =>
    refine .escape (.letter ?_)
    rcases mark with rfl | rfl <;> decide
  · next noMark =>
    rw [not_or] at noMark
    split
    · next allowed => exact .plain allowed noMark.1 noMark.2
    · next hidden =>
      have small := toNat_lt_of_not_isTextChar (Bool.eq_false_iff.2 hidden)
      exact .escape (.short rfl (coded_hexDigits small))

theorem body_escaped (text : List Char) :
    Body '"' false (BasicPart false) (text.flatMap escaped) text := by
  induction text with
  | nil => exact .ending (n := 0) (by decide)
  | cons c text ih => exact .cons (n := 0) (by decide) (basicPart_escaped c _) ih

theorem quoted_quote (text : List Char) : Quoted (quote text) text := by
  have opening : Opening false [] (text.flatMap escaped) := .inl ⟨rfl, nofun⟩
  exact .basic opening (body_escaped text)

theorem return_not_mem_escaped (c : Char) : '\r' ∉ escaped c := by
  unfold escaped
  split
  · next mark => rcases mark with rfl | rfl <;> decide
  · split
    · next allowed =>
      rw [List.mem_singleton]
      rintro rfl
      cases allowed
    · next hidden =>
      have small := toNat_lt_of_not_isTextChar (Bool.eq_false_iff.2 hidden)
      have table : ∀ k : Fin 128, hexDigit (k / 16) ≠ '\r' ∧ hexDigit (k % 16) ≠ '\r' := by decide
      obtain ⟨high, low⟩ := table ⟨c.toNat, small⟩
      simp [high.symm, low.symm]

theorem foldLineEnds_quote (text : List Char) : foldLineEnds (quote text) = quote text := by
  apply foldLineEnds_of_not_mem
  simp [quote, return_not_mem_escaped]

end TokenIndexer.Toml
