import TokenIndexer.Proofs.Toml.Section
import TokenIndexer.Proofs.Toml.Value

/-!
Documents line by line. A document of one member is as good as the literal that it assigns, and what follows a
literal has to start on the rest of its line.
-/

namespace TokenIndexer.Toml

open Toml.Token

variable {tokens rest : List Token}

/-! ### Lines -/

theorem lineEnd?_suffix (found : lineEnd? tokens = some rest) : rest <:+ tokens := by
  obtain ⟨_, skipped⟩ := skipBlank_skips tokens
  refine List.IsSuffix.trans ?_ skipped.suffix
  unfold lineEnd? at found
  split at found
  all_goals
    cases found
  · exact List.nil_suffix
  · next ended =>
    rw [ended]
    exact List.suffix_cons _ _
  · exact List.nil_suffix
  · next ended =>
    rw [ended]
    exact (List.suffix_cons _ _).trans (List.suffix_cons _ _)

theorem headerEnd?_suffix {array : Bool} (found : headerEnd? array tokens = some rest) : rest <:+ tokens := by
  unfold headerEnd? at found
  repeat' split at found
  all_goals cases found
  · exact (List.suffix_cons _ _).trans (List.suffix_cons _ _)
  · exact List.suffix_cons _ _

/-- What a line leaves behind, and which strings it can assign: those that are among its tokens. -/
structure LineOf (tokens : List Token) (line : Line) (rest : List Token) : Prop where
  suffix : rest <:+ tokens
  strings : ∀ a text, line = .assignment a → a.value = .scalar (.string text) →
    ∃ multiline, .string text multiline ∈ tokens

theorem lineOf_header? {array : Bool} {line : Line} (found : header? array tokens = some (line, rest)) :
    LineOf tokens line rest := by
  simp only [header?, Option.bind_eq_bind, Option.bind_eq_some_iff, Prod.exists, Option.some.injEq,
    Prod.mk.injEq] at found
  obtain ⟨_, _, named, _, _, further, _, brackets, _, ended, rfl, rfl⟩ := found
  obtain ⟨_, skipped⟩ := skipBlank_skips tokens
  obtain ⟨_, first⟩ := key?_taken named
  obtain ⟨_, more⟩ := path?_taken further
  refine ⟨?_, fun _ _ same => by cases same⟩
  exact (lineEnd?_suffix ended).trans ((headerEnd?_suffix brackets).trans
    (more.suffix.trans (first.suffix.trans skipped.suffix)))

theorem lineOf_assignment? {line : Line} (found : assignment? tokens = some (line, rest)) :
    LineOf tokens line rest := by
  simp only [assignment?, Option.bind_eq_bind, Option.bind_eq_some_iff, Prod.exists, Option.some.injEq,
    Prod.mk.injEq] at found
  obtain ⟨key, path, after, target, value, _, read, _, ended, rfl, rfl⟩ := found
  obtain ⟨_, front, -⟩ := target?_taken target
  obtain ⟨_, taken⟩ := value?_taken read
  have target_suffix : after <:+ tokens := ⟨_, front.symm⟩
  refine ⟨(lineEnd?_suffix ended).trans (taken.suffix.trans target_suffix), ?_⟩
  rintro a text same string
  cases same
  obtain ⟨first, more, rfl, shape⟩ := shape_value? read
  obtain (⟨_, shape⟩ | ⟨_, shape, quoted⟩) | ⟨_, shape⟩ | ⟨_, shape⟩ := shape
  all_goals
    rw [shape] at string
    cases string
  obtain ⟨multiline, rfl⟩ := quoted text rfl
  exact ⟨multiline, target_suffix.subset List.mem_cons_self⟩

theorem LineOf.of_suffix {whole : List Token} {line : Line} (suffix : tokens <:+ whole)
    (lineOf : LineOf tokens line rest) : LineOf whole line rest where
  suffix := lineOf.suffix.trans suffix
  strings a text same string :=
    have ⟨multiline, mem⟩ := lineOf.strings a text same string
    ⟨multiline, suffix.subset mem⟩

theorem lineOf_line? {line : Line} (found : line? tokens = some (line, rest)) : LineOf tokens line rest := by
  unfold line? at found
  split at found
  · exact (lineOf_header? found).of_suffix ((List.suffix_cons _ _).trans (List.suffix_cons _ _))
  · exact (lineOf_header? found).of_suffix (List.suffix_cons _ _)
  · exact lineOf_assignment? found

theorem lines?_string {lines : List Line} {a : Assignment} {text : String} (read : lines? tokens = some lines)
    (mem : .assignment a ∈ lines) (string : a.value = .scalar (.string text)) :
    ∃ multiline, .string text multiline ∈ tokens := by
  fun_induction lines? tokens generalizing lines with
  | case1 =>
    cases read
    cases mem
  | case2 => cases read
  | case3 tokens first more some_left line rest found _ ih =>
    obtain ⟨later, laterRead, rfl⟩ := Option.map_eq_some_iff.1 read
    have lineOf := (lineOf_line? found).of_suffix (List.dropWhile_suffix _)
    obtain rfl | mem := List.mem_cons.1 mem
    · exact lineOf.strings a text rfl string
    · obtain ⟨multiline, mem⟩ := ih laterRead mem
      exact ⟨multiline, lineOf.suffix.subset mem⟩

theorem lines?_nil : lines? [] = some [] := by
  rw [lines?]
  rfl

theorem lines?_eq_bind (more : skipFiller tokens ≠ []) :
    lines? tokens = (line? (skipFiller tokens)).bind fun (line, rest) => (lines? rest).map (line :: ·) := by
  rw [lines?]
  split
  · next ended => exact (more ended).elim
  · split
    · next stuck => rw [stuck, Option.bind_none]
    · next found => simp only [found, Option.bind_some]

/-! ### Literals -/

def literal? (text : List Char) : Option Toml := do
  let tokens ← ofChars? (foldLineEnds text)
  match ← value? tokens with
  | (value, []) => value.toToml?
  | _ => none

theorem literal?_eq_some {text : List Char} {v : Toml} :
    literal? text = some v ↔
      ∃ tokens value, ofChars? (foldLineEnds text) = some tokens ∧ value? tokens = some (value, []) ∧
        value.toToml? = some v := by
  simp only [literal?, Option.bind_eq_bind, Option.bind_eq_some_iff, Prod.exists]
  constructor
  · rintro ⟨tokens, lexed, value, rest, read, found⟩
    split at found
    · next same =>
      cases same
      exact ⟨tokens, _, lexed, read, found⟩
    · cases found
  · rintro ⟨tokens, value, lexed, read, found⟩
    exact ⟨tokens, lexed, value, [], read, found⟩

/-! ### Documents that start with one member -/

def opening : List Token := [.word ['v'], .blank [' '], .equals, .blank [' ']]

def assigning (text : List Char) : String := String.ofList ("v = ".toList ++ text)

theorem target?_assigning (name : List Char) (tokens : List Token) :
    target? (.word name :: .blank [' '] :: .equals :: .blank [' '] :: tokens) =
      some (String.ofList name, [], tokens) := by
  have ended : path? [] (.blank [' '] :: .equals :: .blank [' '] :: tokens) =
      some ([], .equals :: .blank [' '] :: tokens) := path?_ended nofun
  simp [target?, key?, ended, skipBlank]

theorem lines?_assigning (name : List Char) (tokens : List Token) :
    lines? (.word name :: .blank [' '] :: .equals :: .blank [' '] :: tokens) =
      (value? tokens).bind fun (value, rest) =>
        (lineEnd? rest).bind fun rest =>
          (lines? rest).map (.assignment ⟨String.ofList name, [], value⟩ :: ·) := by
  have line : line? (.word name :: .blank [' '] :: .equals :: .blank [' '] :: tokens) =
      (value? tokens).bind fun (value, rest) =>
        (lineEnd? rest).bind fun rest => some (.assignment ⟨String.ofList name, [], value⟩, rest) := by
    show assignment? _ = _
    rw [assignment?, target?_assigning]
    rfl
  have plain : skipFiller (.word name :: .blank [' '] :: .equals :: .blank [' '] :: tokens) =
      .word name :: .blank [' '] :: .equals :: .blank [' '] :: tokens := rfl
  rw [lines?_eq_bind (by rw [plain]; exact List.cons_ne_nil _ _), plain, line]
  simp only [Option.bind_assoc, Option.bind_some]

theorem lines?_opening (tokens : List Token) :
    lines? (opening ++ tokens) =
      (value? tokens).bind fun (value, rest) =>
        (lineEnd? rest).bind fun rest => (lines? rest).map (.assignment ⟨"v", [], value⟩ :: ·) :=
  lines?_assigning ['v'] tokens

theorem takeWhile_of_dropWhile {cs : List Char} {p : Char → Bool} (kept : cs.dropWhile p = cs) :
    cs.takeWhile p = [] := by
  have whole : cs.takeWhile p ++ cs.dropWhile p = [] ++ cs := List.takeWhile_append_dropWhile
  rw [kept] at whole
  exact List.append_cancel_right whole

theorem next?_space {cs : List Char} (kept : cs.dropWhile isBlankChar = cs) :
    next? ' ' cs = some (.blank [' '], cs) := by
  simp [next?, isBlankChar, kept, takeWhile_of_dropWhile kept]

theorem ofText?_assigning {text : List Char} (plain : text.dropWhile isBlankChar = text) :
    ofText? (assigning text) = (ofChars? (foldLineEnds text)).map (opening ++ ·) := by
  have kept : (foldLineEnds text).dropWhile isBlankChar = foldLineEnds text := by
    rw [dropWhile_foldLineEnds, plain]
  have chars : (assigning text).toList = 'v' :: ' ' :: '=' :: ' ' :: text := String.toList_ofList
  have folded : foldLineEnds (withoutMark (assigning text).toList) =
      'v' :: ' ' :: '=' :: ' ' :: foldLineEnds text := by
    rw [chars]
    rfl
  have word : next? 'v' (' ' :: '=' :: ' ' :: foldLineEnds text) =
      some (.word ['v'], ' ' :: '=' :: ' ' :: foldLineEnds text) := rfl
  have space : next? ' ' ('=' :: ' ' :: foldLineEnds text) = some (.blank [' '], '=' :: ' ' :: foldLineEnds text) :=
    rfl
  have equals : next? '=' (' ' :: foldLineEnds text) = some (.equals, ' ' :: foldLineEnds text) := rfl
  rw [ofText?, folded, ← ofChars?, ofChars?_cons word, ofChars?_cons space, ofChars?_cons equals,
    ofChars?_cons (next?_space kept)]
  simp only [Option.map_map]
  rfl

variable {text : List Char} {members : List (String × Toml)}

/-- A text that is a literal as a whole is the only member of its document. -/
theorem members?_of_literal {v : Toml} (plain : text.dropWhile isBlankChar = text) (whole : literal? text = some v) :
    members? (assigning text) = some [("v", v)] := by
  obtain ⟨tokens, value, lexed, read, found⟩ := literal?_eq_some.1 whole
  have lines : lines? (opening ++ tokens) = some [.assignment ⟨"v", [], value⟩] := by
    rw [lines?_opening, read]
    simp [lineEnd?, skipBlank, lines?_nil]
  have sections : sections? (assigning text) = some [⟨false, [], [("v", value)]⟩] := by
    simp [sections?, ofText?_assigning plain, lexed, lines, Section.ofLines?, Section.root, Entry.add]
  have none_under : Sections.keys [⟨false, [], [("v", value)]⟩] = [] := rfl
  rw [members?, sections, Option.bind_some]
  simp [Sections.allMembers?, Sections.leading, Section.isOwn, Entry.members?, found, none_under]

/-- The parts of a document that starts with one member: the tokens of its literal, which is the first of the
members, and those that follow on the rest of its line. -/
structure Parts (text : List Char) (members : List (String × Toml)) (used rest : List Token) : Prop where
  lexed : ofChars? (foldLineEnds text) = some (used ++ rest)
  ended : (lineEnd? rest).isSome
  literal : ∃ value v more, value? used = some (value, []) ∧ value.toToml? = some v ∧ members = ("v", v) :: more
  strings : ∀ key s, (key, .string s) ∈ members → ∃ multiline, .string s multiline ∈ used ++ rest

theorem exists_parts (plain : text.dropWhile isBlankChar = text) (read : members? (assigning text) = some members) :
    ∃ used rest, Parts text members used rest := by
  obtain ⟨sections, sectionsRead, membersRead⟩ := Option.bind_eq_some_iff.1 read
  simp only [sections?, ofText?_assigning plain, Option.bind_eq_bind, Option.bind_eq_some_iff,
    Option.map_eq_some_iff] at sectionsRead
  obtain ⟨_, ⟨tokens, lexed, rfl⟩, lines, linesRead, grouped⟩ := sectionsRead
  have assigned {a : Assignment} {s : String} (mem : .assignment a ∈ lines)
      (string : a.value = .scalar (.string s)) : ∃ multiline, .string s multiline ∈ tokens := by
    obtain ⟨multiline, mem⟩ := lines?_string linesRead mem string
    exact ⟨multiline, by simpa [opening] using mem⟩
  simp only [lines?_opening, Option.bind_eq_some_iff, Option.map_eq_some_iff, Prod.exists] at linesRead
  obtain ⟨value, rest, valueRead, after, ended, later, -, rfl⟩ := linesRead
  have opened : Section.ofLines? ⟨false, [], [("v", value)]⟩ later = some sections := grouped
  obtain ⟨s, others, rfl, grown⟩ := Section.grown_ofLines? opened
  have own : Sections.leading (s :: others) = s.entries := by
    simp [Sections.leading, Section.isOwn, grown.path]
  obtain ⟨first, _, -, shape⟩ := shape_value? valueRead
  obtain ⟨more, entries⟩ := grown.head "v" value [] shape.undotted rfl
  obtain ⟨used, taken⟩ := value?_taken valueRead
  obtain rfl := taken.split
  refine ⟨used, rest, lexed, by rw [ended]; rfl, ?_, fun key s mem => ?_⟩
  · obtain ⟨v, more, found, rfl⟩ := Sections.allMembers?_leading membersRead (own.trans entries)
    refine ⟨value, v, more, ?_, found, rfl⟩
    simpa using taken.same [] rest rfl
  · have mem := Sections.allMembers?_string membersRead mem
    rw [own] at mem
    obtain mem | ⟨a, mem, string⟩ := grown.scalars _ _ mem
    · cases List.mem_singleton.1 mem
      exact assigned List.mem_cons_self rfl
    · exact assigned (List.mem_cons_of_mem _ mem) string

/-! ### The rest of a line -/

theorem string?_token {quote : Char} {cs rest : List Char} {token : Token}
    (found : string? quote cs = some (token, rest)) : ∃ s multiline, token = .string s multiline := by
  unfold string? stringOf at found
  repeat' split at found
  all_goals
    first
    | contradiction
    | (cases found; exact ⟨_, _, rfl⟩)
    | (simp only [Option.map_eq_some_iff, Prod.mk.injEq, Prod.exists] at found
       obtain ⟨_, _, -, rfl, -⟩ := found
       exact ⟨_, _, rfl⟩)

theorem next?_start {c : Char} {cs rest : List Char} {token : Token} (found : next? c cs = some (token, rest)) :
    (token = .newline → c = '\n') ∧ (token = .comment → c = '#') ∧
      ∀ run, token = .blank run → isBlankChar c := by
  unfold next? at found
  split at found
  case h_12 | h_13 =>
    obtain ⟨_, _, rfl⟩ := string?_token found
    exact ⟨nofun, nofun, nofun⟩
  case h_14 =>
    split at found
    · next blank =>
      cases found
      exact ⟨nofun, nofun, fun _ _ => blank⟩
    · split at found
      · cases found
        exact ⟨nofun, nofun, nofun⟩
      · cases found
  all_goals
    cases found
    simp

theorem next?_blank {c : Char} (blank : isBlankChar c) (cs : List Char) :
    next? c cs = some (.blank (c :: cs.takeWhile isBlankChar), cs.dropWhile isBlankChar) := by
  obtain same | same := Bool.or_eq_true_iff.1 blank
  all_goals
    obtain rfl := eq_of_beq same
    rfl

theorem ofChars?_skipBlank {cs : List Char} (lexed : ofChars? cs = some tokens) :
    ofChars? (cs.dropWhile isBlankChar) = some (skipBlank tokens) := by
  obtain _ | ⟨token, more⟩ := tokens
  · rw [eq_nil_of_ofChars? lexed, List.dropWhile_nil, ofChars?_nil]
    rfl
  · obtain ⟨c, cs, rest, rfl, found, later⟩ := exists_next? lexed
    by_cases blank : isBlankChar c
    · rw [next?_blank blank] at found
      cases found
      rw [List.dropWhile_cons_of_pos blank, later]
      rfl
    · rw [List.dropWhile_cons_of_neg blank, lexed, skipBlank.eq_def]
      split
      · next same =>
        cases same
        exact (blank ((next?_start found).2.2 _ rfl)).elim
      · rfl

theorem rest_of_lineEnd? {cs : List Char} (lexed : ofChars? cs = some tokens) (ended : (lineEnd? tokens).isSome) :
    cs.dropWhile isBlankChar = [] ∨
      ∃ c more, cs.dropWhile isBlankChar = c :: more ∧ (c = '\n' ∨ c = '#') := by
  have later := ofChars?_skipBlank lexed
  match start : skipBlank tokens with
  | [] =>
    rw [start] at later
    exact .inl (eq_nil_of_ofChars? later)
  | token :: more =>
    rw [start] at later
    obtain ⟨c, cs', _, same, found, -⟩ := exists_next? later
    refine .inr ⟨c, cs', same, ?_⟩
    rw [lineEnd?, start] at ended
    have starts := next?_start found
    cases token with
    | newline => exact .inl (starts.1 rfl)
    | comment => exact .inr (starts.2.1 rfl)
    | _ => cases ended

end TokenIndexer.Toml
