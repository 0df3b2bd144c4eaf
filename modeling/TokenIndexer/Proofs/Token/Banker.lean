import Mathlib.Data.List.TakeDrop
import TokenIndexer.Proofs.Text
import TokenIndexer.Token.Banker

/-!
Which call's metadata is found. A call with metadata is missed in one case alone: when it starts inside a call
that is passed over, at the end of one of that one's literals.
-/

namespace TokenIndexer.Token.Banker

/-! ### Calls as they are spelled -/

/-- The constructor up to its first argument. -/
def callee : List Char := "grc20.NewBanker(".toList

/-- A call of the constructor as a file spells it: two literals without quotation marks in them and the digits
of a number, with blanks in front of the second and the third argument. -/
structure Spelling where
  name : List Char
  symbol : List Char
  decimals : List Char
  beforeSymbol : List Char
  beforeDecimals : List Char
  named : name ≠ [] ∧ '"' ∉ name
  abbreviated : symbol ≠ [] ∧ '"' ∉ symbol
  numbered : decimals ≠ [] ∧ ∀ c ∈ decimals, isDecimalDigit c = true
  spaced : (∀ c ∈ beforeSymbol, isBlank c = true) ∧ ∀ c ∈ beforeDecimals, isBlank c = true

namespace Spelling

def text (s : Spelling) : List Char :=
  callee ++ '"' :: (s.name ++ '"' :: ',' :: (s.beforeSymbol ++ '"' :: (s.symbol ++ '"' :: ',' ::
    (s.beforeDecimals ++ (s.decimals ++ [')'])))))

theorem text_append (s : Spelling) (rest : List Char) :
    s.text ++ rest = opening ++ (s.name ++ '"' :: ',' :: (s.beforeSymbol ++ '"' :: (s.symbol ++ '"' :: ',' ::
      (s.beforeDecimals ++ (s.decimals ++ ')' :: rest))))) := by
  have opens : opening = callee ++ ['"'] := by decide
  simp only [text, opens, List.append_assoc, List.cons_append, List.nil_append]

def call (s : Spelling) : Call := ⟨s.name, s.symbol, s.decimals, s.text.length⟩

/-- The metadata that the call hands over: its number is in ASCII digits, and a word of 64 bits. -/
structure Gives (s : Spelling) (b : Banker) : Prop where
  name : b.name = String.ofList s.name
  symbol : b.symbol = String.ofList s.symbol
  ascii : ∀ c ∈ s.decimals, '0' ≤ c ∧ c ≤ '9'
  decimals : b.decimals.toNat = Decimal.value s.decimals

end Spelling

section Reading

variable {cs rest front : List Char} {c : Char} {p : Char → Bool}

theorem span_eq_iff :
    cs.span p = (front, c :: rest) ↔
      cs = front ++ c :: rest ∧ (∀ x ∈ front, p x = true) ∧ p c = false := by
  rw [List.span_eq_takeWhile_dropWhile, Prod.mk.injEq]
  constructor
  · rintro ⟨rfl, left⟩
    refine ⟨?_, List.all_eq_true.1 List.all_takeWhile, ?_⟩
    · rw [← left, List.takeWhile_append_dropWhile]
    · have stops := List.head?_dropWhile_not p cs
      simpa [left] using stops
  · rintro ⟨rfl, each, stops⟩
    rw [List.takeWhile_append_of_pos each, List.dropWhile_append_of_pos each]
    simp [stops]

theorem dropWhile_eq_cons_iff :
    cs.dropWhile p = c :: rest ↔
      ∃ front, cs = front ++ c :: rest ∧ (∀ x ∈ front, p x = true) ∧ p c = false := by
  constructor
  · intro left
    exact ⟨cs.takeWhile p, span_eq_iff.1 (by rw [List.span_eq_takeWhile_dropWhile, left])⟩
  · rintro ⟨front, spelled⟩
    have spanned := span_eq_iff.2 spelled
    rw [List.span_eq_takeWhile_dropWhile] at spanned
    exact congrArg Prod.snd spanned

theorem literal?_eq_some {text : List Char} :
    literal? cs = some (text, rest) ↔ cs = text ++ '"' :: ',' :: rest ∧ text ≠ [] ∧ '"' ∉ text := by
  have plain : (∀ x ∈ text, decide (x ≠ '"') = true) ↔ '"' ∉ text := by
    simp only [decide_eq_true_eq]
    exact ⟨fun each mark => each _ mark rfl, fun free x inside same => free (same ▸ inside)⟩
  constructor
  · intro found
    unfold literal? at found
    split at found
    · next spanned =>
      split at found
      · cases found
      · next filled =>
        cases found
        have ⟨split_at, each, _⟩ := span_eq_iff.1 spanned
        exact ⟨split_at, filled, plain.1 each⟩
    · cases found
  · rintro ⟨split_at, filled, free⟩
    have spanned := span_eq_iff.2 ⟨split_at, plain.2 free, by decide⟩
    rw [literal?, spanned]
    simp [filled]

/-- No digit is a blank, so that the blanks in front of a number end where its digits start. -/
theorem isBlank_of_isDecimalDigit (digit : isDecimalDigit c = true) : isBlank c = false := by
  have table : ∀ start ∈ DecimalDigit.zeros, ∀ k : Fin 10, isBlank (Char.ofNat (start + k)) = false := by
    decide +kernel
  obtain ⟨start, inside, range⟩ := List.any_eq_true.1 digit
  have ⟨least, most⟩ : start ≤ c.toNat ∧ c.toNat < start + 10 := by simpa using range
  have seen := table start inside ⟨c.toNat - start, by omega⟩
  rwa [show start + (c.toNat - start) = c.toNat by omega, Char.ofNat_toNat] at seen

theorem exists_of_call? {found : Call} (read : call? cs = some found) :
    ∃ s : Spelling, s.text <+: cs ∧ found = s.call := by
  simp only [call?, Option.bind_eq_bind, Option.bind_eq_some_iff, Prod.exists] at read
  obtain ⟨first, start, name, second, nameRead, read⟩ := read
  have opens := Split.after?_eq_some.1 start
  have ⟨nameAt, named⟩ := literal?_eq_some.1 nameRead
  split at read
  · next third quoted =>
    have ⟨gap, symbolFrom, blank, _⟩ := dropWhile_eq_cons_iff.1 quoted
    obtain ⟨⟨symbol, fourth⟩, symbolRead, read⟩ := Option.bind_eq_some_iff.1 read
    have ⟨symbolAt, abbreviated⟩ := literal?_eq_some.1 symbolRead
    split at read
    · next decimals rest spanned =>
      have ⟨decimalsAt, digits, _⟩ := span_eq_iff.1 spanned
      split at read
      · cases read
      · next filled =>
        let s : Spelling := ⟨name, symbol, decimals, gap, fourth.takeWhile isBlank, named, abbreviated,
          ⟨filled, digits⟩, blank, List.all_eq_true.1 List.all_takeWhile⟩
        have whole : cs = s.text ++ rest := by
          rw [Spelling.text_append]
          show cs = opening ++ (name ++ '"' :: ',' :: (gap ++ '"' :: (symbol ++ '"' :: ',' ::
            (fourth.takeWhile isBlank ++ (decimals ++ ')' :: rest)))))
          rw [← decimalsAt, List.takeWhile_append_dropWhile, ← symbolAt, ← symbolFrom, ← nameAt, opens]
        refine ⟨s, ⟨rest, whole.symm⟩, ?_⟩
        rw [← Option.some.inj read, Spelling.call, whole, List.length_append, Nat.add_sub_cancel]
    · cases read
  · cases read

theorem call?_text_append (s : Spelling) (rest : List Char) : call? (s.text ++ rest) = some s.call := by
  let fourth := s.beforeDecimals ++ (s.decimals ++ ')' :: rest)
  let third := s.symbol ++ '"' :: ',' :: fourth
  let second := s.beforeSymbol ++ '"' :: third
  have opens : Split.after? opening (s.text ++ rest) = some (s.name ++ '"' :: ',' :: second) :=
    Split.after?_eq_some.2 (s.text_append rest)
  have name : literal? (s.name ++ '"' :: ',' :: second) = some (s.name, second) :=
    literal?_eq_some.2 ⟨rfl, s.named⟩
  have quoted : second.dropWhile isBlank = '"' :: third :=
    dropWhile_eq_cons_iff.2 ⟨_, rfl, s.spaced.1, by decide⟩
  have symbol : literal? third = some (s.symbol, fourth) := literal?_eq_some.2 ⟨rfl, s.abbreviated⟩
  have number : fourth.dropWhile isBlank = s.decimals ++ ')' :: rest := by
    obtain ⟨d, ds, shape⟩ := List.exists_cons_of_ne_nil s.numbered.1
    have digit := s.numbered.2 d (by rw [shape]; exact List.mem_cons_self)
    rw [shape, List.cons_append, dropWhile_eq_cons_iff]
    refine ⟨s.beforeDecimals, ?_, s.spaced.2, isBlank_of_isDecimalDigit digit⟩
    simp only [fourth, shape, List.cons_append]
  have digits : (s.decimals ++ ')' :: rest).span isDecimalDigit = (s.decimals, ')' :: rest) :=
    span_eq_iff.2 ⟨rfl, s.numbered.2, by decide⟩
  simp only [call?, Option.bind_eq_bind, opens, Option.bind_some, name, quoted, symbol, number, digits,
    if_neg s.numbered.1, List.length_append, Nat.add_sub_cancel, Spelling.call]

theorem call?_eq_some {found : Call} :
    call? cs = some found ↔ ∃ s : Spelling, s.text <+: cs ∧ found = s.call := by
  constructor
  · exact exists_of_call?
  · rintro ⟨s, ⟨rest, rfl⟩, rfl⟩
    exact call?_text_append s rest

end Reading

/-! ### Metadata -/

/-- A call that hands over no metadata. -/
def Spelling.Void (s : Spelling) : Prop := ∀ b, ¬ s.Gives b

theorem ofCall?_eq_some {s : Spelling} {b : Banker} : ofCall? s.call = some b ↔ s.Gives b := by
  have read : Decimal.ofDigits? s.decimals =
      if ∀ c ∈ s.decimals, '0' ≤ c ∧ c ≤ '9' then some (Decimal.value s.decimals) else none := by
    simp only [Decimal.ofDigits?, s.numbered.1, ne_eq, not_false_eq_true, true_and, List.all_eq_true,
      Decimal.isDigit_iff]
  rw [ofCall?, Spelling.call, read]
  constructor
  · intro found
    split at found
    · next ascii =>
      simp only [Option.bind_some] at found
      split at found
      · next word =>
        cases found
        exact ⟨rfl, rfl, ascii, UInt64.toNat_ofNat_of_lt word⟩
      · cases found
    · cases found
  · intro gives
    have word : Decimal.value s.decimals < UInt64.size := by
      rw [← gives.decimals]
      exact b.decimals.toNat_lt
    rw [if_pos gives.ascii, Option.bind_some, if_pos word, ← gives.name, ← gives.symbol, ← gives.decimals,
      UInt64.ofNat_toNat]

/-! ### The search -/

def At (body : List Char) (i : Nat) (s : Spelling) : Prop := s.text <+: body.drop i

/-- The positions at which the search looks for a call: behind a character at which none is spelled, and behind
a call that hands over no metadata. -/
inductive Reaches (body : List Char) : Nat → Prop where
  | start : Reaches body 0
  | next {i : Nat} : Reaches body i → i < body.length → (∀ s, ¬ At body i s) → Reaches body (i + 1)
  | past {i : Nat} {s : Spelling} : Reaches body i → At body i s → s.Void → Reaches body (i + s.text.length)

/-- Positions inside a call that the search passes over. -/
def Hidden (body : List Char) (i : Nat) : Prop :=
  ∃ j s, Reaches body j ∧ At body j s ∧ s.Void ∧ j < i ∧ i < j + s.text.length

section Search

variable {body cs : List Char} {i j : Nat} {s s' : Spelling} {b b' : Banker}

theorem scan_drop (skip : Nat) (cs : List Char) : scan skip cs = scan 0 (cs.drop skip) := by
  induction skip generalizing cs with
  | zero => rfl
  | succ skip ih =>
    cases cs with
    | nil => rfl
    | cons c cs => exact ih cs

theorem one_lt_length (s : Spelling) : 1 < s.text.length := by
  have callee_length : callee.length = 16 := by decide
  simp only [Spelling.text, List.length_append, callee_length]
  omega

theorem scan_of_prefix (spelled : s.text <+: cs) :
    scan 0 cs = (ofCall? s.call).or (scan 0 (cs.drop s.text.length)) := by
  have long := one_lt_length s
  have read := call?_eq_some.2 ⟨s, spelled, rfl⟩
  cases cs with
  | nil =>
    have := spelled.length_le
    rw [List.length_nil] at this
    omega
  | cons c cs =>
    rw [scan, read]
    cases metadata : ofCall? s.call with
    | some banker => simp only [metadata, Option.some_or]
    | none =>
      obtain ⟨n, size⟩ : ∃ n, s.text.length = n + 1 := ⟨s.text.length - 1, by omega⟩
      simp only [metadata, Option.none_or, size, List.drop_succ_cons]
      rw [show s.call.length - 1 = n by rw [Spelling.call, size, Nat.add_sub_cancel], scan_drop]

theorem scan_of_none {c : Char} (plain : ∀ s : Spelling, ¬ s.text <+: c :: cs) :
    scan 0 (c :: cs) = scan 0 cs := by
  have unread : call? (c :: cs) = none := by
    match read : call? (c :: cs) with
    | none => rfl
    | some found =>
      obtain ⟨s, spelled, _⟩ := call?_eq_some.1 read
      exact (plain s spelled).elim
  rw [scan, unread]

theorem scan_of_reaches (reached : Reaches body i) : scan 0 body = scan 0 (body.drop i) := by
  induction reached with
  | start => rfl
  | @next i _ inside plain ih =>
    rw [ih, List.drop_eq_getElem_cons inside]
    apply scan_of_none
    rw [← List.drop_eq_getElem_cons inside]
    exact plain
  | @past i s _ spelled void ih =>
    have nothing : ofCall? s.call = none := by
      match read : ofCall? s.call with
      | none => rfl
      | some b => exact (void b (ofCall?_eq_some.1 read)).elim
    rw [ih, scan_of_prefix spelled, nothing, Option.none_or, List.drop_drop]

theorem scan_of_gives (reached : Reaches body i) (spelled : At body i s) (gives : s.Gives b) :
    scan 0 body = some b := by
  rw [scan_of_reaches reached, scan_of_prefix spelled, ofCall?_eq_some.2 gives, Option.some_or]

theorem call_eq (spelled : At body i s) (spelled' : At body i s') : s.call = s'.call := by
  have read := call?_eq_some.2 ⟨s, spelled, rfl⟩
  have read' := call?_eq_some.2 ⟨s', spelled', rfl⟩
  exact Option.some.inj (read.symm.trans read')

theorem gives_congr (same : s.call = s'.call) : s.Gives b ↔ s'.Gives b := by
  rw [← ofCall?_eq_some, ← ofCall?_eq_some, same]

theorem length_congr (same : s.call = s'.call) : s.text.length = s'.text.length := congrArg Call.length same

/-- The search never comes to a position inside a call that it came to before, nor behind a call that ended it. -/
theorem Reaches.apart (reached : Reaches body i) (before : Reaches body j) (lt : j < i) (spelled : At body j s) :
    s.Void ∧ j + s.text.length ≤ i := by
  induction i using Nat.strongRecOn generalizing j s with
  | ind i ih =>
    cases reached with
    | start => omega
    | @next i reached _ plain =>
      have earlier : j < i := by
        by_contra late
        have same : j = i := by omega
        subst same
        exact plain s spelled
      have ⟨void, fits⟩ := ih i (by omega) reached before earlier spelled
      exact ⟨void, by omega⟩
    | @past i s' reached spelled' void =>
      rcases Nat.lt_trichotomy j i with earlier | same | later
      · have ⟨void', fits⟩ := ih i (by have := one_lt_length s'; omega) reached before earlier spelled
        exact ⟨void', by omega⟩
      · subst same
        have same := call_eq spelled spelled'
        exact ⟨fun b gives => void b ((gives_congr same).1 gives), Nat.le_of_eq (by rw [length_congr same])⟩
      · have ⟨_, fits⟩ := ih j lt before reached later spelled'
        omega

theorem Reaches.not_hidden (reached : Reaches body i) : ¬ Hidden body i := by
  rintro ⟨j, s, before, spelled, _, lt, inside⟩
  have ⟨_, fits⟩ := reached.apart before lt spelled
  omega

theorem At.fits (spelled : At body i s) : i + s.text.length ≤ body.length := by
  have long := one_lt_length s
  have within := List.IsPrefix.length_le spelled
  rw [List.length_drop] at within
  omega

theorem not_hidden_length : ¬ Hidden body body.length := by
  rintro ⟨j, s, _, spelled, _, _, inside⟩
  have := spelled.fits
  omega

/-- Up to any position the search has come to it, has passed it over, or has ended. -/
theorem reaches_or (le : i ≤ body.length) :
    Reaches body i ∨ Hidden body i ∨ ∃ j < i, ∃ s b, Reaches body j ∧ At body j s ∧ s.Gives b := by
  induction i with
  | zero => exact .inl .start
  | succ i ih =>
    rcases ih (by omega) with reached | ⟨j, s, before, spelled, void, lt, inside⟩ | ⟨j, lt, ended⟩
    · by_cases plain : ∀ s, ¬ At body i s
      · exact .inl (.next reached le plain)
      · obtain ⟨s, spelled⟩ := not_forall_not.1 plain
        by_cases void : s.Void
        · exact .inr (.inl ⟨i, s, reached, spelled, void, Nat.lt_succ_self i, by
            have := one_lt_length s
            omega⟩)
        · obtain ⟨b, gives⟩ := not_forall_not.1 void
          exact .inr (.inr ⟨i, Nat.lt_succ_self i, s, b, reached, spelled, gives⟩)
    · rcases Nat.lt_or_ge (i + 1) (j + s.text.length) with more | ends
      · exact .inr (.inl ⟨j, s, before, spelled, void, by omega, more⟩)
      · have same : i + 1 = j + s.text.length := by omega
        rw [same]
        exact .inl (.past before spelled void)
    · exact .inr (.inr ⟨j, by omega, ended⟩)

end Search

/-! ### What a call can be hidden by -/

section Overlap

variable {a b : List Char} {k : Nat}

theorem opening_behind (other : ∀ c ∈ a, c ≠ 'g') (opens : opening <+: (a ++ b).drop k) :
    ∃ m, k = a.length + m ∧ opening <+: b.drop m := by
  rcases Nat.lt_or_ge k a.length with inside | behind
  · have first : ((a ++ b).drop k).head? = some a[k] := by
      rw [List.drop_append_of_le_length (Nat.le_of_lt inside), List.drop_eq_getElem_cons inside]
      rfl
    have letter : ((a ++ b).drop k).head? = some 'g' := by
      obtain ⟨more, spelled⟩ := opens
      rw [← spelled]
      rfl
    rw [first] at letter
    exact (other _ (List.getElem_mem inside) (Option.some.inj letter)).elim
  · refine ⟨k - a.length, by omega, ?_⟩
    rwa [List.drop_append, List.drop_eq_nil_of_le behind, List.nil_append] at opens

theorem free_between {inner : List Char} {c d : Char} (free : ∀ x ∈ inner, x ≠ 'g')
    (ends : c ≠ 'g' ∧ d ≠ 'g') : ∀ x ∈ c :: inner ++ [d], x ≠ 'g' := by
  simp only [List.cons_append, List.mem_cons, List.mem_append, List.not_mem_nil, or_false]
  rintro x (rfl | inside | rfl)
  · exact ends.1
  · exact free x inside
  · exact ends.2

/-- The quotation mark that opens the first argument can be the one that closes a literal. -/
theorem opening_in_literal (free : '"' ∉ a) (opens : opening <+: (a ++ '"' :: b).drop k) :
    callee <:+ a ∨ ∃ m, k = a.length + 1 + m ∧ opening <+: b.drop m := by
  rcases Nat.lt_or_ge a.length k with behind | inside
  · refine .inr ⟨k - (a.length + 1), by omega, ?_⟩
    have shape : a ++ '"' :: b = (a ++ ['"']) ++ b := by simp
    have whole : (a ++ ['"']).length ≤ k := by
      rw [List.length_append]
      exact behind
    rw [shape, List.drop_append, List.drop_eq_nil_of_le whole, List.nil_append] at opens
    simpa using opens
  · refine .inl ?_
    obtain ⟨more, spelled⟩ := opens
    rw [List.drop_append_of_le_length inside] at spelled
    have plain {l : List Char} (free : '"' ∉ l) : ∀ c ∈ l, decide (c ≠ '"') = true := by
      intro c member
      exact decide_eq_true fun same => free (same ▸ member)
    have outer : (callee ++ '"' :: more).span (· ≠ '"') = (callee, '"' :: more) :=
      span_eq_iff.2 ⟨rfl, plain (by decide), by decide⟩
    have inner : (a.drop k ++ '"' :: b).span (· ≠ '"') = (a.drop k, '"' :: b) :=
      span_eq_iff.2 ⟨rfl, plain fun member => free (List.mem_of_mem_drop member), by decide⟩
    have opened : callee ++ '"' :: more = opening ++ more := by
      rw [show opening = callee ++ ['"'] by decide, List.append_assoc, List.singleton_append]
    rw [opened, spelled, inner] at outer
    have same : a.drop k = callee := congrArg Prod.fst outer
    rw [← same]
    exact List.drop_suffix k a

/-- A call that starts inside another one starts in one of its literals, which ends where the constructor's
own first argument would begin. -/
theorem ends_of_inside {s : Spelling} {rest : List Char} (pos : 0 < k) (inside : k < s.text.length)
    (opens : opening <+: (s.text ++ rest).drop k) : callee <:+ s.name ∨ callee <:+ s.symbol := by
  have blank {l : List Char} (each : ∀ c ∈ l, isBlank c = true) : ∀ c ∈ l, c ≠ 'g' := by
    rintro c member rfl
    exact absurd (each 'g' member) (by decide)
  have digit {l : List Char} (each : ∀ c ∈ l, isDecimalDigit c = true) : ∀ c ∈ l, c ≠ 'g' := by
    rintro c member rfl
    exact absurd (each 'g' member) (by decide)
  have gap := free_between (blank s.spaced.1) (by decide : ',' ≠ 'g' ∧ '"' ≠ 'g')
  have number := free_between (List.forall_mem_append.2 ⟨blank s.spaced.2, digit s.numbered.2⟩)
    (by decide : ',' ≠ 'g' ∧ ')' ≠ 'g')
  let third := (',' :: (s.beforeDecimals ++ s.decimals) ++ [')']) ++ rest
  let second := (',' :: s.beforeSymbol ++ ['"']) ++ (s.symbol ++ '"' :: third)
  have shape : s.text ++ rest = ['g'] ++ (opening.tail ++ (s.name ++ '"' :: second)) := by
    rw [Spelling.text_append]
    simp only [second, third, List.cons_append, List.append_assoc, List.nil_append]
    rfl
  have size : s.text.length = 1 + (opening.tail.length + (s.name.length + 1 + ((',' :: s.beforeSymbol ++
      ['"']).length + (s.symbol.length + 1 + (',' :: (s.beforeDecimals ++ s.decimals) ++ [')']).length)))) := by
    have whole := congrArg List.length shape
    simp only [second, third, List.length_append, List.length_cons, List.length_nil] at whole ⊢
    omega
  rw [shape, List.drop_append, List.drop_eq_nil_of_le pos, List.nil_append] at opens
  obtain ⟨k₁, at₁, opens⟩ := opening_behind (fun c member => ne_of_mem_of_not_mem member (by decide)) opens
  rcases opening_in_literal s.named.2 opens with named | ⟨k₂, at₂, opens⟩
  · exact .inl named
  obtain ⟨k₃, at₃, opens⟩ := opening_behind gap opens
  rcases opening_in_literal s.abbreviated.2 opens with abbreviated | ⟨k₄, at₄, opens⟩
  · exact .inr abbreviated
  obtain ⟨k₅, at₅, -⟩ := opening_behind number opens
  simp only [List.length_singleton] at at₁
  omega

end Overlap

/-! ### What is found -/

/-- No call in the text gives metadata, those at `hidden` positions apart. -/
def NoneIn (hidden : List Char → Nat → Prop) (body : List Char) : Prop :=
  ∀ i s b, At body i s → s.Gives b → hidden body i

/-- The first call in the text that gives metadata gives these; calls at `hidden` positions do not count. -/
def FirstIn (hidden : List Char → Nat → Prop) (body : List Char) (b : Banker) : Prop :=
  ∃ i s, At body i s ∧ s.Gives b ∧ ¬ hidden body i ∧
    ∀ j < i, ∀ s' b', At body j s' → s'.Gives b' → hidden body j

/-- What a search owes: the metadata of the first call that gives any, in the first file with such a call, and
nothing when there is none. -/
structure Answers (hidden : List Char → Nat → Prop) (files : List MemFile) (found : Option Banker) : Prop where
  missing : found = none ↔ ∀ file ∈ files, NoneIn hidden file.body.toList
  given : ∀ b, found = some b ↔
    ∃ front file back, files = front ++ file :: back ∧ FirstIn hidden file.body.toList b ∧
      ∀ earlier ∈ front, NoneIn hidden earlier.body.toList

theorem scan_eq_none_iff {body : List Char} : scan 0 body = none ↔ NoneIn Hidden body := by
  constructor
  · intro nothing i s b spelled gives
    have inside := spelled.fits
    rcases reaches_or (show i ≤ body.length by omega) with reached | hidden | ⟨j, _, s', b', reached, ended⟩
    · rw [scan_of_gives reached spelled gives] at nothing
      cases nothing
    · exact hidden
    · rw [scan_of_gives reached ended.1 ended.2] at nothing
      cases nothing
  · intro all
    rcases reaches_or (Nat.le_refl body.length) with reached | hidden | ⟨j, _, s, b, reached, spelled, gives⟩
    · rw [scan_of_reaches reached, List.drop_length, scan]
    · exact (not_hidden_length hidden).elim
    · exact (reached.not_hidden (all j s b spelled gives)).elim

theorem scan_eq_some_iff {body : List Char} {b : Banker} : scan 0 body = some b ↔ FirstIn Hidden body b := by
  constructor
  · intro found
    rcases reaches_or (Nat.le_refl body.length) with reached | hidden | ⟨i, _, s, b', reached, spelled, gives⟩
    · rw [scan_of_reaches reached, List.drop_length, scan] at found
      cases found
    · exact (not_hidden_length hidden).elim
    · rw [scan_of_gives reached spelled gives] at found
      cases found
      refine ⟨i, s, spelled, gives, reached.not_hidden, ?_⟩
      intro j lt s' b' spelled' gives'
      have inside := spelled'.fits
      rcases reaches_or (show j ≤ body.length by omega) with before | hidden | ⟨k, lt', s'', b'', before, ended⟩
      · exact ((reached.apart before lt spelled').1 b' gives').elim
      · exact hidden
      · exact ((reached.apart before (Nat.lt_trans lt' lt) ended.1).1 b'' ended.2).elim
  · rintro ⟨i, s, spelled, gives, seen, first⟩
    have inside := spelled.fits
    rcases reaches_or (show i ≤ body.length by omega) with reached | hidden | ⟨j, lt, s', b', reached, ended⟩
    · exact scan_of_gives reached spelled gives
    · exact (seen hidden).elim
    · exact (reached.not_hidden (first j lt s' b' ended.1 ended.2)).elim

def Clear (body : List Char) : Prop := ∀ i s b, At body i s → s.Gives b → ¬ Hidden body i

theorem Clear.noneIn_iff {body : List Char} (clear : Clear body) :
    NoneIn Hidden body ↔ NoneIn (fun _ _ => False) body := by
  constructor
  · intro all i s b spelled gives
    exact clear i s b spelled gives (all i s b spelled gives)
  · intro all i s b spelled gives
    exact (all i s b spelled gives).elim

theorem Clear.firstIn_iff {body : List Char} {b : Banker} (clear : Clear body) :
    FirstIn Hidden body b ↔ FirstIn (fun _ _ => False) body b := by
  constructor
  · rintro ⟨i, s, spelled, gives, _, first⟩
    refine ⟨i, s, spelled, gives, id, ?_⟩
    intro j lt s' b' spelled' gives'
    exact clear j s' b' spelled' gives' (first j lt s' b' spelled' gives')
  · rintro ⟨i, s, spelled, gives, _, first⟩
    refine ⟨i, s, spelled, gives, clear i s b spelled gives, ?_⟩
    intro j lt s' b' spelled' gives'
    exact (first j lt s' b' spelled' gives').elim

theorem answers_of_scan {hidden : List Char → Nat → Prop} {files : List MemFile}
    (none : ∀ file ∈ files, (scan 0 file.body.toList = none ↔ NoneIn hidden file.body.toList))
    (some : ∀ file ∈ files, ∀ b, (scan 0 file.body.toList = some b ↔ FirstIn hidden file.body.toList b)) :
    Answers hidden files (find? files) where
  missing := by
    rw [find?, List.findSome?_eq_none_iff]
    exact forall₂_congr none
  given b := by
    rw [find?, List.findSome?_eq_some_iff]
    constructor
    · rintro ⟨front, file, back, rfl, found, earlier⟩
      refine ⟨front, file, back, rfl, (some file (by simp) b).1 found, ?_⟩
      intro other before
      exact (none other (by simp [before])).1 (earlier other before)
    · rintro ⟨front, file, back, rfl, found, earlier⟩
      refine ⟨front, file, back, rfl, (some file (by simp) b).2 found, ?_⟩
      intro other before
      exact (none other (by simp [before])).2 (earlier other before)

/-- A hidden call starts in a literal of a call without metadata, one that ends in the constructor's name. -/
theorem Hidden.literal {body : List Char} {i : Nat} {s : Spelling} (hidden : Hidden body i)
    (spelled : At body i s) :
    ∃ j s', At body j s' ∧ s'.Void ∧ j < i ∧ (callee <:+ s'.name ∨ callee <:+ s'.symbol) := by
  obtain ⟨j, s', _, spelled', void, lt, inside⟩ := hidden
  refine ⟨j, s', spelled', void, lt, ?_⟩
  obtain ⟨rest, whole⟩ := spelled'
  have starts : opening <+: s.text := by
    have shape := s.text_append []
    rw [List.append_nil] at shape
    exact ⟨_, shape.symm⟩
  have later : opening <+: (s'.text ++ rest).drop (i - j) := by
    rw [whole, List.drop_drop, show j + (i - j) = i by omega]
    exact starts.trans spelled
  exact ends_of_inside (by omega) (by omega) later

/-- The metadata found are those of the first call that gives any, unless that call is hidden: then it starts in
a literal of a call without metadata, one that ends in the constructor's name. Where no call is hidden, the
answer is that of the first call. -/
theorem answers_find? (files : List MemFile) :
    Answers Hidden files (find? files) ∧
    (∀ file ∈ files, ∀ i s, At file.body.toList i s → Hidden file.body.toList i →
      ∃ j s', At file.body.toList j s' ∧ s'.Void ∧ j < i ∧ (callee <:+ s'.name ∨ callee <:+ s'.symbol)) ∧
    ((∀ file ∈ files, Clear file.body.toList) → Answers (fun _ _ => False) files (find? files)) := by
  refine ⟨answers_of_scan (fun _ _ => scan_eq_none_iff) fun _ _ _ => scan_eq_some_iff, ?_, ?_⟩
  · intro file _ i s spelled hidden
    exact hidden.literal spelled
  · intro clear
    apply answers_of_scan
    · intro file inside
      exact scan_eq_none_iff.trans (clear file inside).noneIn_iff
    · intro file inside b
      exact scan_eq_some_iff.trans (clear file inside).firstIn_iff

/-- A program text with one call in it, which is not found: a string in front of it ends in the constructor's
name, so that another call seems to start there, which runs into the real one and has too large a number. -/
theorem hidden_call :
    let body := "s := \"grc20.NewBanker(\" + x + grc20.NewBanker(\", \", \", 99999999999999999999)\", 5)"
    ∃ s : Spelling, At body.toList 30 s ∧ s.Gives ⟨", ", ", 99999999999999999999)", 5⟩ ∧
      find? [⟨"token.gno", body⟩] = none ∧ Hidden body.toList 30 := by
  intro body
  let s : Spelling := ⟨", ".toList, ", 99999999999999999999)".toList, ['5'], [' '], [' '], by decide, by decide,
    ⟨by decide, List.forall_mem_singleton.2 (by decide)⟩,
    ⟨List.forall_mem_singleton.2 rfl, List.forall_mem_singleton.2 rfl⟩⟩
  have spelled : At body.toList 30 s := by
    rw [At]
    decide +kernel
  have gives : s.Gives ⟨", ", ", 99999999999999999999)", 5⟩ := ⟨rfl, rfl, List.forall_mem_singleton.2 (by decide), by decide⟩
  have missed : find? [⟨"token.gno", body⟩] = none := by decide +kernel
  have owed := (answers_find? [⟨"token.gno", body⟩]).1.missing.1 missed
  exact ⟨s, spelled, gives, missed, owed _ (List.mem_singleton_self _) 30 s _ spelled gives⟩

end TokenIndexer.Token.Banker
