import TokenIndexer.Proofs.Ordered
import TokenIndexer.Proofs.Toml.Literal

/-! Documents that are written line by line: tables under their headers, and in each of them a line for a member. -/

namespace TokenIndexer

theorem eraseDups_of_nodup {α : Type} [BEq α] [LawfulBEq α] {xs : List α} (distinct : xs.Nodup) :
    xs.eraseDups = xs := by
  induction xs with
  | nil => rfl
  | cons x xs ih =>
    obtain ⟨fresh, distinct⟩ := List.nodup_cons.1 distinct
    have kept : xs.filter (fun y => !y == x) = xs := by
      rw [List.filter_eq_self]
      intro y inside
      have other : y ≠ x := fun same => fresh (same ▸ inside)
      simpa using other
    rw [List.eraseDups_cons, kept, ih distinct]

namespace Toml

open Toml.Token

/-! ### Lines -/

/-- A text of whole lines and what they say, whatever follows them. -/
def Spells (text : List Char) (lines : List Line) : Prop :=
  ∃ tokens,
    (∀ after, ofChars? (foldLineEnds (text ++ after)) = (ofChars? (foldLineEnds after)).map (tokens ++ ·)) ∧
    ∀ rest, lines? (tokens ++ rest) = (lines? rest).map (lines ++ ·)

theorem spells_nil : Spells [] [] :=
  ⟨[], fun after => by simp, fun rest => by simp⟩

theorem Spells.append {text more : List Char} {lines others : List Line} (spells : Spells text lines)
    (further : Spells more others) : Spells (text ++ more) (lines ++ others) := by
  obtain ⟨tokens, lexed, read⟩ := spells
  obtain ⟨later, laterLexed, laterRead⟩ := further
  refine ⟨tokens ++ later, fun after => ?_, fun rest => ?_⟩
  · rw [List.append_assoc, lexed, laterLexed, Option.map_map]
    simp [Function.comp_def]
  · rw [List.append_assoc, read, laterRead, Option.map_map]
    simp [Function.comp_def]

theorem spells_flatMap {α : Type} {text : α → List Char} {lines : α → List Line} {xs : List α}
    (each : ∀ x ∈ xs, Spells (text x) (lines x)) : Spells (xs.flatMap text) (xs.flatMap lines) := by
  induction xs with
  | nil => exact spells_nil
  | cons x xs ih =>
    obtain ⟨first, others⟩ := List.forall_mem_cons.1 each
    exact first.append (ih others)

theorem sections?_of_spells {text : List Char} {lines : List Line} (spells : Spells text lines)
    (unmarked : withoutMark text = text) : sections? (String.ofList text) = Section.ofLines? .root lines := by
  obtain ⟨tokens, lexed, read⟩ := spells
  have lexed : ofText? (String.ofList text) = some tokens := by
    have whole := lexed []
    rw [foldLineEnds, ofChars?_nil, List.append_nil, Option.map_some, List.append_nil] at whole
    rw [ofText?, String.toList_ofList, unmarked]
    exact whole
  have read : lines? tokens = some lines := by
    have whole := read []
    rwa [lines?_nil, List.append_nil, Option.map_some, List.append_nil] at whole
  rw [sections?, lexed, Option.bind_eq_bind, Option.bind_some, read]
  rfl

theorem next?_space_before {cs : List Char} (kept : cs.dropWhile isBlankChar = cs) (after : List Char) :
    next? ' ' (cs ++ '\n' :: after) = some (.blank [' '], cs ++ '\n' :: after) := by
  apply next?_space
  rw [List.dropWhile_append, kept]
  split
  · next missing =>
    rw [List.isEmpty_iff.1 missing]
    rfl
  · rfl

/-- A key that needs no marks. -/
structure IsWord (name : String) : Prop where
  filled : name ≠ ""
  letters : ∀ c ∈ name.toList, isWordChar c = true

theorem isWord_iff {name : String} : IsWord name ↔ name ≠ "" ∧ name.toList.all isWordChar = true := by
  rw [List.all_eq_true]
  exact ⟨fun word => ⟨word.filled, word.letters⟩, fun word => ⟨word.1, word.2⟩⟩

instance : DecidablePred IsWord := fun _ => decidable_of_iff _ isWord_iff.symm

namespace IsWord

variable {name : String} (word : IsWord name)

include word

theorem folded (after : List Char) : foldLineEnds (name.toList ++ after) = name.toList ++ foldLineEnds after := by
  rw [foldLineEnds_append, foldLineEnds_word word.letters]
  rintro c last rfl
  cases word.letters _ (List.mem_of_getLast? last)

theorem lexed {mark : Char} (noLetter : isWordChar mark = false) (after : List Char) :
    ofChars? (name.toList ++ mark :: after) = (ofChars? (mark :: after)).map (.word name.toList :: ·) := by
  have letters := word.letters
  cases chars : name.toList with
  | nil => exact absurd (String.toList_eq_nil_iff.1 chars) word.filled
  | cons c cs =>
    rw [chars] at letters
    refine ofChars?_cons (next?_word letters ?_)
    rintro d ⟨⟩
    exact noLetter

theorem spells_header : Spells ('[' :: (name.toList ++ [']', '\n'])) [.header ⟨false, name, []⟩] := by
  refine ⟨[.openBracket, .word name.toList, .closeBracket, .newline], fun after => ?_, fun rest => ?_⟩
  · have folded : foldLineEnds ('[' :: (name.toList ++ [']', '\n']) ++ after) =
        '[' :: (name.toList ++ ']' :: '\n' :: foldLineEnds after) := by
      change '[' :: foldLineEnds ((name.toList ++ [']', '\n']) ++ after) = _
      rw [List.append_assoc, word.folded]
      rfl
    rw [folded, ofChars?_cons (rfl : next? '[' _ = some (.openBracket, _)), word.lexed rfl,
      ofChars?_cons (rfl : next? ']' _ = some (.closeBracket, _)),
      ofChars?_cons (rfl : next? '\n' _ = some (.newline, _))]
    simp [Function.comp_def]
  · have ended : path? [] (.closeBracket :: .newline :: rest) = some ([], .closeBracket :: .newline :: rest) :=
      path?_ended nofun
    have line : line? (.openBracket :: .word name.toList :: .closeBracket :: .newline :: rest) =
        some (.header ⟨false, name, []⟩, rest) := by
      simp [line?, header?, skipBlank, key?, ended, headerEnd?, lineEnd?]
    change lines? (.openBracket :: .word name.toList :: .closeBracket :: .newline :: rest) = _
    have plain : skipFiller (.openBracket :: .word name.toList :: .closeBracket :: .newline :: rest) =
        .openBracket :: .word name.toList :: .closeBracket :: .newline :: rest := rfl
    rw [lines?_eq_bind (by rw [plain]; exact List.cons_ne_nil _ _), plain, line]
    rfl

theorem spells_assignment {text : List Char} {token : Token} {value : Toml}
    (plain : text.dropWhile isBlankChar = text) (ends : ∀ c ∈ text.getLast?, c ≠ '\r')
    (single : Single (foldLineEnds text) token value) :
    Spells (name.toList ++ ' ' :: '=' :: ' ' :: (text ++ ['\n'])) [.assignment ⟨name, [], .scalar value⟩] := by
  refine ⟨[.word name.toList, .blank [' '], .equals, .blank [' '], token, .newline],
    fun after => ?_, fun rest => ?_⟩
  · have folded : foldLineEnds ((name.toList ++ ' ' :: '=' :: ' ' :: (text ++ ['\n'])) ++ after) =
        name.toList ++ ' ' :: '=' :: ' ' :: (foldLineEnds text ++ '\n' :: foldLineEnds after) := by
      rw [List.append_assoc, word.folded]
      change name.toList ++ ' ' :: '=' :: ' ' :: foldLineEnds ((text ++ ['\n']) ++ after) = _
      rw [List.append_assoc, foldLineEnds_append ends]
      rfl
    have equals : next? ' ' ('=' :: ' ' :: (foldLineEnds text ++ '\n' :: foldLineEnds after)) =
        some (.blank [' '], '=' :: ' ' :: (foldLineEnds text ++ '\n' :: foldLineEnds after)) := rfl
    have kept : (foldLineEnds text).dropWhile isBlankChar = foldLineEnds text := by
      rw [dropWhile_foldLineEnds, plain]
    have lexed := single.lexed ('\n' :: foldLineEnds after) (by rintro c ⟨⟩; rfl)
    rw [folded, word.lexed rfl, ofChars?_cons equals, ofChars?_cons (rfl : next? '=' _ = some (.equals, _)),
      ofChars?_cons (next?_space_before kept _), lexed, ofChars?_cons (rfl : next? '\n' _ = some (.newline, _))]
    simp [Function.comp_def]
  · change lines? (.word name.toList :: .blank [' '] :: .equals :: .blank [' '] :: token :: .newline :: rest) = _
    have read := value?_scalar (single.read (.newline :: rest) (by rintro next ⟨⟩; rfl))
    rw [lines?_assigning, read, String.ofList_toList]
    rfl

end IsWord

/-! ### Tables of scalars -/

/-- Entries under words, no word twice. -/
structure Plain {α : Type} (entries : List (String × α)) : Prop where
  words : ∀ entry ∈ entries, IsWord entry.1
  nodup : (entries.map (·.1)).Nodup

theorem Plain.map {α β : Type} {entries : List (String × α)} (plain : Plain entries) (f : α → β) :
    Plain (entries.map fun entry => (entry.1, f entry.2)) where
  words := List.forall_mem_map.2 plain.words
  nodup := by
    rw [List.map_map]
    exact plain.nodup

theorem plain_iff {α : Type} {entries : List (String × α)} :
    Plain entries ↔ (∀ entry ∈ entries, IsWord entry.1) ∧ (entries.map (·.1)).Nodup :=
  ⟨fun plain => ⟨plain.words, plain.nodup⟩, fun plain => ⟨plain.1, plain.2⟩⟩

instance {α : Type} {entries : List (String × α)} : Decidable (Plain entries) := decidable_of_iff _ plain_iff.symm

theorem IsWord.ne_dateKey {name : String} (word : IsWord name) : name ≠ dateKey := by
  rintro rfl
  have letter := word.letters '$' (by decide)
  cases letter

def scalars (members : List (String × Toml)) : List (String × Entry) :=
  members.map fun member => (member.1, .scalar member.2)

theorem members?_scalars (members : List (String × Toml)) : Entry.members? (scalars members) = some members := by
  induction members with
  | nil => rw [scalars, List.map_nil, Entry.members?]
  | cons member members ih =>
    rw [scalars] at ih ⊢
    rw [List.map_cons, Entry.members?, ih, Entry.toToml?]
    rfl

theorem leadsDate_scalars {members : List (String × Toml)} (plain : Plain members) :
    Entry.leadsDate (scalars members) = false := by
  cases members with
  | nil => rfl
  | cons member members => exact decide_eq_false (plain.words member List.mem_cons_self).ne_dateKey

/-! ### Sections -/

/-- The lines of a part: its header, and an assignment for each of its members. -/
def linesOf (part : String × List (String × Toml)) : List Line :=
  .header ⟨false, part.1, []⟩ :: part.2.map fun member => .assignment ⟨member.1, [], .scalar member.2⟩

def sectionOf (part : String × List (String × Toml)) : Section := ⟨false, [part.1], scalars part.2⟩

theorem ofLines?_assignments (opened : Section) (members : List (String × Toml)) (rest : List Line) :
    Section.ofLines? opened
        ((members.map fun member => .assignment ⟨member.1, [], .scalar member.2⟩) ++ rest) =
      Section.ofLines? { opened with entries := opened.entries ++ scalars members } rest := by
  induction members generalizing opened with
  | nil => simp [scalars]
  | cons member members ih =>
    simp only [List.map_cons, List.cons_append, Section.ofLines?, Entry.add, Option.bind_eq_bind, Option.bind_some,
      ih, List.append_assoc, List.nil_append, scalars]

theorem ofLines?_linesOf (opened : Section) (parts : List (String × List (String × Toml))) :
    Section.ofLines? opened (parts.flatMap linesOf) = some (opened :: parts.map sectionOf) := by
  induction parts generalizing opened with
  | nil => rfl
  | cons part parts ih =>
    rw [List.flatMap_cons, linesOf, List.cons_append, Section.ofLines?, ofLines?_assignments, ih]
    rfl

namespace Sections

variable {parts : List (String × List (String × Toml))}

theorem keys_sectionOf (distinct : (parts.map (·.1)).Nodup) :
    keys (Section.root :: parts.map sectionOf) = parts.map (·.1) := by
  have named : (Section.root :: parts.map sectionOf).filterMap (fun s => s.path.head?) = parts.map (·.1) := by
    rw [List.filterMap_cons_none rfl, List.filterMap_map, ← List.filterMap_eq_map]
    rfl
  rw [keys, named, eraseDups_of_nodup distinct]

theorem under_apart {key : String} (apart : ∀ part ∈ parts, part.1 ≠ key) :
    under key (parts.map sectionOf) = [] := by
  rw [under, List.filterMap_map, List.filterMap_eq_nil_iff]
  intro part inside
  exact if_neg (apart part inside)

theorem under_sectionOf (distinct : (parts.map (·.1)).Nodup) {part : String × List (String × Toml)}
    (inside : part ∈ parts) :
    under part.1 (Section.root :: parts.map sectionOf) = [⟨false, [], scalars part.2⟩] := by
  obtain ⟨before, after, rfl⟩ := List.append_of_mem inside
  rw [List.map_append, List.map_cons, List.nodup_append] at distinct
  obtain ⟨-, afterDistinct, beforeApart⟩ := distinct
  have noneBefore : under part.1 (before.map sectionOf) = [] :=
    under_apart fun other earlier => beforeApart _ (List.mem_map_of_mem earlier) _ List.mem_cons_self
  have noneAfter : under part.1 (after.map sectionOf) = [] := by
    apply under_apart
    rintro other later same
    exact (List.nodup_cons.1 afterDistinct).1 (same ▸ List.mem_map_of_mem later)
  have own : Section.under? part.1 (sectionOf part) = some ⟨false, [], scalars part.2⟩ := if_pos rfl
  rw [under] at noneBefore noneAfter ⊢
  rw [List.filterMap_cons_none rfl, List.map_append, List.map_cons, List.filterMap_append, noneBefore,
    List.filterMap_cons_some own, noneAfter]
  rfl

theorem table?_of_own {sections : List Section} {own : Section} {entries inner : List (String × Toml)} {depth : Nat}
    (owned : sections.filter Section.isOwn = [own]) (single : own.array = false)
    (leads : leading sections = own.entries) (undated : Entry.leadsDate own.entries = false)
    (noDate : (keys sections).head? ≠ some dateKey) (ownRead : Entry.members? own.entries = some entries)
    (innerRead : members? (table? depth) sections (keys sections) = some inner)
    (distinct : ((entries ++ inner).map (·.1)).Nodup) :
    table? (depth + 1) sections = some (.table (Ordered.ofList (entries ++ inner)), []) := by
  have entriesRead : Entry.members? ([own].flatMap Section.entries) = some entries := by
    rw [List.flatMap_singleton, ownRead]
  simp only [table?, owned, leads, undated, List.any_cons, List.any_nil, single, entriesRead, innerRead, tableOf?,
    if_pos distinct, Option.bind_eq_bind, Option.bind_some, Option.map_some]
  simp [noDate]

theorem table?_scalars (depth : Nat) {members : List (String × Toml)} (plain : Plain members) :
    table? (depth + 1) [⟨false, [], scalars members⟩] = some (.table (Ordered.ofList members), []) := by
  have owned : [(⟨false, [], scalars members⟩ : Section)].filter Section.isOwn =
      [⟨false, [], scalars members⟩] := rfl
  have read := table?_of_own owned rfl rfl (leadsDate_scalars plain) nofun (members?_scalars members)
    (rfl : Sections.members? (table? depth) _ [] = some []) (by simpa using plain.nodup)
  rwa [List.append_nil] at read

theorem depth_sectionOf (part : String × List (String × Toml)) (others : List (String × List (String × Toml))) :
    depth (Section.root :: (part :: others).map sectionOf) = 2 := by
  have fixed : others.foldl (fun deepest part => max deepest (sectionOf part).path.length) 1 = 1 :=
    List.foldl_fixed' (fun _ => rfl) others
  rw [depth, List.foldl_cons, List.map_cons, List.foldl_cons, List.foldl_map]
  exact congrArg (· + 1) fixed

/-- The table that parts make, each of them a table of scalars. -/
def tableOf (parts : List (String × List (String × Toml))) : Table :=
  Ordered.ofList (parts.map fun part => (part.1, .table (Ordered.ofList part.2)))

theorem members?_sectionOf (plain : Plain parts) (members : ∀ part ∈ parts, Plain part.2) (depth : Nat)
    {asked : List (String × List (String × Toml))} (within : asked ⊆ parts) :
    Sections.members? (table? (depth + 1)) (Section.root :: parts.map sectionOf) (asked.map (·.1)) =
      some (asked.map fun part => (part.1, .table (Ordered.ofList part.2))) := by
  induction asked with
  | nil => rfl
  | cons part asked ih =>
    obtain ⟨inside, others⟩ := List.cons_subset.1 within
    have child : child? (table? (depth + 1)) (under part.1 (Section.root :: parts.map sectionOf)) =
        some (.table (Ordered.ofList part.2), []) := by
      rw [under_sectionOf plain.nodup inside, child?, if_neg (by simp [Section.opensElement])]
      exact table?_scalars depth (members part inside)
    rw [List.map_cons, Sections.members?, child, ih others]
    rfl

theorem table?_sectionOf (plain : Plain parts) {depth : Nat}
    (inner : Sections.members? (table? depth) (Section.root :: parts.map sectionOf) (parts.map (·.1)) =
      some (parts.map fun part => (part.1, .table (Ordered.ofList part.2)))) :
    table? (depth + 1) (Section.root :: parts.map sectionOf) = some (.table (tableOf parts), []) := by
  have keyed := keys_sectionOf plain.nodup
  have noOwn : (parts.map sectionOf).filter Section.isOwn = [] := by
    rw [List.filter_eq_nil_iff]
    intro s inside
    obtain ⟨part, -, rfl⟩ := List.mem_map.1 inside
    nofun
  have owned : (Section.root :: parts.map sectionOf).filter Section.isOwn = [Section.root] := by
    rw [List.filter_cons_of_pos rfl, noOwn]
  have noDate : (keys (Section.root :: parts.map sectionOf)).head? ≠ some dateKey := by
    rw [keyed]
    intro first
    obtain ⟨part, inside, name⟩ := List.mem_map.1 (List.mem_of_mem_head? first)
    exact (plain.words part inside).ne_dateKey name
  rw [← keyed] at inner
  exact table?_of_own owned rfl rfl rfl noDate (members?_scalars []) inner
    (by simpa [Function.comp_def] using plain.nodup)

theorem value?_sectionOf (plain : Plain parts) (members : ∀ part ∈ parts, Plain part.2) :
    value? (Section.root :: parts.map sectionOf) = some (.table (tableOf parts)) := by
  rw [value?]
  cases parts with
  | nil =>
    have alone : depth (Section.root :: [].map sectionOf) = 1 := rfl
    rw [alone, table?_sectionOf plain rfl]
    rfl
  | cons part others =>
    rw [depth_sectionOf, table?_sectionOf plain (members?_sectionOf plain members 0 (List.Subset.refl _))]
    rfl

end Sections

end Toml

end TokenIndexer
