import Mathlib.Data.List.TakeWhile
import TokenIndexer.Proofs.Toml.Document
import TokenIndexer.Settings.Load

/-!
What becomes of the text after an override's equals sign. It is read as the end of a document, which may go on
after a literal with a comment or further lines that are passed over.
-/

namespace TokenIndexer

/-! ### Trimmed texts -/

namespace Blank

theorem head?_dropWhile_isBlank (cs : List Char) : ∀ c ∈ (cs.dropWhile isBlank).head?, isBlank c = false := by
  intro c first
  have := List.head?_dropWhile_not isBlank cs
  rw [Option.mem_def.1 first] at this
  simpa using this

theorem trim_prefix (cs : List Char) : trim cs <+: trimLeft cs := by
  have suffix : trimLeft (trimLeft cs).reverse <:+ (trimLeft cs).reverse := List.dropWhile_suffix _
  simpa [trim] using List.reverse_prefix.2 suffix

theorem head?_trim (cs : List Char) : ∀ c ∈ (trim cs).head?, isBlank c = false := by
  intro c first
  obtain ⟨more, whole⟩ := trim_prefix cs
  refine head?_dropWhile_isBlank cs c ?_
  rw [← trimLeft, ← whole, List.head?_append, Option.mem_def.1 first]
  rfl

theorem getLast?_trim (cs : List Char) : ∀ c ∈ (trim cs).getLast?, isBlank c = false := by
  intro c last
  refine head?_dropWhile_isBlank (trimLeft cs).reverse c ?_
  rwa [trim, List.getLast?_reverse] at last

end Blank

namespace Override

open Toml Toml.Token

/-- What a document may go on with after a value: blanks, and then a comment or the end of the line. -/
def GoesOn (rest : List Char) : Prop :=
  ['#'] <+: rest.dropWhile isBlankChar ∨ ['\n'] <+: rest.dropWhile isBlankChar ∨
    ['\r', '\n'] <+: rest.dropWhile isBlankChar

/-- A text of which only the front is a literal, although it can be read as the end of a document. -/
structure Swallowed (text literal rest : List Char) : Prop where
  split : text = literal ++ rest
  literal : (literal? literal).isSome
  goesOn : GoesOn rest
  document : (members? (assigning text)).isSome

/-- What a value owes to the text that it was read from. -/
structure ValueText (text : List Char) (value : Toml) : Prop where
  literal : ∀ v, literal? text = some v → value = v
  plain : literal? text = none →
    (value = .string (String.ofList text) ↔ ¬ ∃ literal rest, Swallowed text literal rest)

structure Trimmed (text : List Char) : Prop where
  head : ∀ c ∈ text.head?, isBlank c = false
  last : ∀ c ∈ text.getLast?, isBlank c = false

variable {text : List Char} {members : List (String × Toml)}

theorem isBlank_of_isBlankChar {c : Char} (blank : isBlankChar c = true) : isBlank c = true := by
  obtain same | same := Bool.or_eq_true_iff.1 blank
  all_goals
    obtain rfl := eq_of_beq same
    decide

theorem Trimmed.plain (trimmed : Trimmed text) : text.dropWhile isBlankChar = text := by
  obtain _ | ⟨c, text⟩ := text
  · rfl
  · refine List.dropWhile_cons_of_neg fun blank => ?_
    have := trimmed.head c rfl
    rw [isBlank_of_isBlankChar blank] at this
    cases this

theorem Trimmed.rest {literal rest : List Char} (trimmed : Trimmed (literal ++ rest))
    (blank : rest.dropWhile isBlankChar = []) : rest = [] := by
  by_contra more
  have each := List.dropWhile_eq_nil_iff.1 blank _ (List.getLast_mem more)
  have last := trimmed.last (rest.getLast more) (by simp [List.getLast?_eq_some_getLast more])
  rw [isBlank_of_isBlankChar each] at last
  cases last

theorem trimmed_trim (cs : List Char) : Trimmed (Blank.trim cs) where
  head := Blank.head?_trim cs
  last := Blank.getLast?_trim cs

theorem goesOn_of_folded {rest : List Char} {c : Char} {more : List Char}
    (folded : foldLineEnds (rest.dropWhile isBlankChar) = c :: more) (starts : c = '\n' ∨ c = '#') :
    GoesOn rest := by
  unfold GoesOn
  generalize rest.dropWhile isBlankChar = later at folded ⊢
  unfold foldLineEnds at folded
  split at folded
  · exact .inr (.inr ⟨_, rfl⟩)
  · obtain ⟨rfl, -⟩ := List.cons.inj folded
    obtain rfl | rfl := starts
    · exact .inr (.inl ⟨_, rfl⟩)
    · exact .inl ⟨_, rfl⟩
  · cases folded

theorem valueOf_eq (text : List Char) :
    valueOf text =
      ((members? (assigning text)).bind fun members => members.reverse.lookup "v").getD
        (.string (String.ofList text)) := rfl

/-- A document that is read although its text is no literal goes on after one. -/
theorem swallowed_of_members? (trimmed : Trimmed text) (read : members? (assigning text) = some members)
    (other : literal? text = none) : ∃ literal rest, Swallowed text literal rest := by
  obtain ⟨used, rest, parts⟩ := exists_parts trimmed.plain read
  obtain ⟨a, b, folded, usedRead, restRead⟩ := ofChars?_split parts.lexed
  obtain ⟨literal, later, rfl, rfl, rfl⟩ := foldLineEnds_split folded
  obtain ⟨value, v, _, whole, found, -⟩ := parts.literal
  have front : literal? literal = some v := literal?_eq_some.2 ⟨used, value, usedRead, whole, found⟩
  refine ⟨literal, later, rfl, by rw [front]; rfl, ?_, by rw [read]; rfl⟩
  obtain blank | ⟨c, more, start, starts⟩ := rest_of_lineEnd? restRead parts.ended
  · -- Nothing but blanks would be nothing at all, and the text a literal.
    rw [dropWhile_foldLineEnds] at blank
    have nothing := trimmed.rest (eq_nil_of_foldLineEnds blank)
    subst nothing
    rw [List.append_nil, front] at other
    cases other
  · rw [dropWhile_foldLineEnds] at start
    exact goesOn_of_folded start starts

/-- A string that a document holds is shorter than the text that holds its marks too. -/
theorem valueOf_ne_string (trimmed : Trimmed text) (read : members? (assigning text) = some members) :
    valueOf text ≠ .string (String.ofList text) := by
  obtain ⟨used, rest, parts⟩ := exists_parts trimmed.plain read
  obtain ⟨_, v, more, -, -, rfl⟩ := parts.literal
  intro same
  rw [valueOf_eq, read, Option.bind_some] at same
  have held : ((("v", v) :: more).reverse.lookup "v").isSome := by
    rw [List.lookup_isSome_iff]
    exact ⟨("v", v), by simp, by simp⟩
  obtain ⟨last, found⟩ := Option.isSome_iff_exists.1 held
  rw [found, Option.getD_some] at same
  subst same
  obtain ⟨_, _, split, -⟩ := List.lookup_eq_some_iff.1 found
  have mem : ("v", .string (String.ofList text)) ∈ ("v", v) :: more := by
    rw [← List.mem_reverse, split]
    simp
  obtain ⟨multiline, token⟩ := parts.strings _ _ mem
  have shorter := length_string parts.lexed token
  have := length_foldLineEnds text
  rw [String.length_ofList] at shorter
  omega

theorem valueText_valueOf (trimmed : Trimmed text) : ValueText text (valueOf text) where
  literal v whole := by
    rw [valueOf_eq, members?_of_literal trimmed.plain whole]
    rfl
  plain other := by
    match read : members? (assigning text) with
    | none =>
      have unread : ¬ ∃ literal rest, Swallowed text literal rest := by
        rintro ⟨_, _, swallowed⟩
        have := swallowed.document
        rw [read] at this
        cases this
      have same : valueOf text = .string (String.ofList text) := by
        rw [valueOf_eq, read]
        rfl
      exact ⟨fun _ => unread, fun _ => same⟩
    | some members =>
      exact ⟨fun same => (valueOf_ne_string trimmed read same).elim,
        fun unread => (unread (swallowed_of_members? trimmed read other)).elim⟩

/-- What an accepted override makes of the text after its first equals sign. -/
theorem valueText_of_parse {raw : String} {o : Override} (accepted : parse raw = .ok o) :
    ∃ key text, Split.atFirst? '=' raw.toList = some (key, text) ∧ ValueText (Blank.trim text) o.value := by
  unfold parse at accepted
  split at accepted
  · cases accepted
  · next key text split_at =>
    refine ⟨key, text, split_at, ?_⟩
    dsimp only at accepted
    split at accepted
    · cases accepted
    · cases accepted
      exact valueText_valueOf (trimmed_trim text)

/-- A comment behind a number is passed over, and the text does not stand for itself. -/
theorem comment_swallowed :
    ∃ o, parse "a=1 # b" = .ok o ∧ literal? "1 # b".toList = none ∧
      Swallowed "1 # b".toList "1".toList " # b".toList ∧ o.value ≠ .string "1 # b" := by
  have swallowed : Swallowed "1 # b".toList "1".toList " # b".toList := by
    refine ⟨by decide, ?_, ?_, ?_⟩
    · decide +kernel
    · exact .inl (by decide)
    · decide +kernel
  have other : literal? "1 # b".toList = none := Option.isNone_iff_eq_none.1 (by decide +kernel)
  match accepted : parse "a=1 # b" with
  | .error e =>
    have fine : (parse "a=1 # b").isOk = true := by decide +kernel
    rw [accepted] at fine
    cases fine
  | .ok o =>
    refine ⟨o, rfl, other, swallowed, fun same => ?_⟩
    obtain ⟨key, text, found, valueText⟩ := valueText_of_parse accepted
    have split_at : Split.atFirst? '=' "a=1 # b".toList = some ("a".toList, "1 # b".toList) := by decide
    rw [split_at] at found
    cases found
    have trimmed : Blank.trim "1 # b".toList = "1 # b".toList := by decide
    rw [trimmed] at valueText
    exact (valueText.plain other).1 same ⟨_, _, swallowed⟩

end Override

end TokenIndexer
