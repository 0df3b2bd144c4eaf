import TokenIndexer.Toml.Token

/-!
The tokens of a text come from one stretch of it each. A token ends where it ends whatever follows, so that it
stays the same when what follows it is cut short.
-/

namespace TokenIndexer.Toml

/-! ### Readers that take from the front -/

/-- What a reader took off the front of its input. It would have read the same if what it left had been cut
short anywhere. -/
structure Takes {α β : Type} (reader : List α → Option (β × List α)) (input : List α) (found : β)
    (rest used : List α) : Prop where
  split : input = used ++ rest
  same : ∀ left cut, rest = left ++ cut → reader (used ++ left) = some (found, left)

namespace Takes

variable {α β : Type} {reader : List α → Option (β × List α)} {input rest used : List α} {found : β}

theorem after (front : List α) {onwards : List α → Option (β × List α)}
    (taken : Takes reader input found rest used) (goesOn : ∀ more, onwards (front ++ more) = reader more) :
    Takes onwards (front ++ input) found rest (front ++ used) where
  split := by rw [taken.split, List.append_assoc]
  same left cut cutAt := by rw [List.append_assoc, goesOn, taken.same left cut cutAt]

theorem cut (taken : Takes reader input found rest used) {left cut : List α} (cutAt : rest = left ++ cut) :
    input = (used ++ left) ++ cut := by
  rw [taken.split, cutAt, List.append_assoc]

theorem suffix (taken : Takes reader input found rest used) : rest <:+ input := ⟨used, taken.split.symm⟩

end Takes

/-- What a reader passed over at the front of its input. It would have passed over the same if the input had been
cut short anywhere behind it. -/
structure Skips {α : Type} (skip : List α → List α) (input used : List α) : Prop where
  split : input = used ++ skip input
  same : ∀ left cut, skip input = left ++ cut → skip (used ++ left) = left

structure Marks {α : Type} (skip : List α → List α) (input : List α) (mark : α) (rest used : List α) :
    Prop where
  split : input = used ++ rest
  same : ∀ left cut, rest = left ++ cut → skip (used ++ left) = mark :: left

section

variable {α : Type} {skip : List α → List α} {input used rest : List α} {mark : α}

theorem Skips.cut (skipped : Skips skip input used) {left cut : List α} (cutAt : skip input = left ++ cut) :
    input = (used ++ left) ++ cut := by
  rw [skipped.split, cutAt, List.append_assoc]

theorem Skips.suffix (skipped : Skips skip input used) : skip input <:+ input := ⟨used, skipped.split.symm⟩

theorem Skips.marks (skipped : Skips skip input used) (found : skip input = mark :: rest) :
    Marks skip input mark rest (used ++ [mark]) where
  split := by rw [List.append_assoc, List.singleton_append, ← found, ← skipped.split]
  same left cut cutAt := by
    rw [List.append_assoc, List.singleton_append]
    exact skipped.same (mark :: left) cut (by rw [found, cutAt, List.cons_append])

theorem Marks.cut (marked : Marks skip input mark rest used) {left cut : List α} (cutAt : rest = left ++ cut) :
    input = (used ++ left) ++ cut := by
  rw [marked.split, cutAt, List.append_assoc]

end

theorem skips_first {α : Type} {skip : List α → List α} (passes : α → Prop)
    (first : ∀ a rest, passes a → skip (a :: rest) = rest)
    (other : ∀ input, (∀ a ∈ input.head?, ¬ passes a) → skip input = input) (input : List α) :
    ∃ used, Skips skip input used := by
  by_cases stays : ∀ a ∈ input.head?, ¬ passes a
  · refine ⟨[], by rw [other input stays, List.nil_append], fun left cut cutAt => ?_⟩
    rw [other input stays] at cutAt
    rw [List.nil_append]
    apply other
    intro a front
    apply stays
    rw [cutAt, List.head?_append, Option.mem_def.1 front]
    rfl
  · obtain _ | ⟨a, rest⟩ := input
    · exact absurd nofun stays
    · have passed : passes a := Classical.byContradiction fun stay =>
        stays fun b front => Option.some.inj front ▸ stay
      exact ⟨[a], by rw [first a rest passed, List.singleton_append], fun left cut _ => first a left passed⟩

theorem skips_dropWhile {α : Type} (p : α → Bool) (input : List α) :
    Skips (List.dropWhile p) input (input.takeWhile p) where
  split := List.takeWhile_append_dropWhile.symm
  same left cut cutAt := by
    rw [List.dropWhile_append_of_pos (List.all_eq_true.1 List.all_takeWhile)]
    obtain _ | ⟨first, left⟩ := left
    · rfl
    · have differs : p first = false := by
        have := List.head?_dropWhile_not p input
        simpa [cutAt] using this
      rw [List.dropWhile_cons_of_neg (by simp [differs])]

theorem takeWhile_append_left {α : Type} (p : α → Bool) {input left cut : List α}
    (cutAt : input.dropWhile p = left ++ cut) : (input.takeWhile p ++ left).takeWhile p = input.takeWhile p := by
  have whole : (input.takeWhile p ++ left).takeWhile p ++ (input.takeWhile p ++ left).dropWhile p = _ :=
    List.takeWhile_append_dropWhile
  rw [(skips_dropWhile p input).same left cut cutAt] at whole
  exact List.append_cancel_right whole

end TokenIndexer.Toml

namespace TokenIndexer.Toml.Token

variable {quote c : Char} {multiline : Bool} {read cs rest text used : List Char}

/-! ### The end of a string -/

theorem closing_taken (found : closing quote read cs = (text, rest)) :
    ∃ used, cs = used ++ rest ∧ text.length ≤ read.length + used.length ∧
      ∀ left cut, rest = left ++ cut → closing quote read (used ++ left) = (text, left) := by
  unfold closing at found
  repeat' split at found
  all_goals cases found
  · next first second =>
    exact ⟨[_, _], rfl, by simp, fun left cut _ => by simp [closing, first, second]⟩
  · next c d rest first second =>
    refine ⟨[c], rfl, by simp, fun left cut same => ?_⟩
    rcases left with _ | ⟨e, left⟩
    · simp [closing, first]
    · obtain ⟨rfl, -⟩ := List.cons.inj same
      simp [closing, first, second]
  · next c d rest first =>
    refine ⟨[], rfl, by simp, fun left cut same => ?_⟩
    rcases left with _ | ⟨e, _ | ⟨f, left⟩⟩
    · rfl
    · obtain ⟨rfl, -⟩ := List.cons.inj same
      simp [closing, first]
    · obtain ⟨rfl, -⟩ := List.cons.inj same
      simp [closing, first]
  · next c first =>
    refine ⟨[c], rfl, by simp, fun left cut same => ?_⟩
    obtain ⟨rfl, rfl⟩ := List.append_eq_nil_iff.1 same.symm
    simp [closing, first]
  · next c first =>
    refine ⟨[], rfl, by simp, fun left cut same => ?_⟩
    rcases left with _ | ⟨e, left⟩
    · rfl
    · obtain ⟨rfl, ended⟩ := List.cons.inj same
      obtain ⟨rfl, rfl⟩ := List.append_eq_nil_iff.1 ended.symm
      simp [closing, first]
  · refine ⟨[], rfl, by simp, fun left cut same => ?_⟩
    obtain ⟨rfl, rfl⟩ := List.append_eq_nil_iff.1 same.symm
    rfl

theorem ending?_taken (found : ending? quote multiline read cs = some (text, rest)) :
    ∃ used, Takes (ending? quote multiline read) cs text rest used ∧ (multiline = true → 2 ≤ used.length) ∧
      text.length ≤ read.length + used.length := by
  cases multiline with
  | false =>
    cases found
    exact ⟨[], ⟨rfl, fun left cut _ => rfl⟩, nofun, by simp⟩
  | true =>
    simp only [ending?, if_true] at found
    split at found
    · next c d cs =>
      split at found
      · next marks =>
        obtain ⟨used, rfl, size, same⟩ := closing_taken (Option.some.inj found)
        refine ⟨c :: d :: used, ⟨rfl, fun left cut cutAt => ?_⟩, fun _ => by simp, ?_⟩
        · simp [ending?, marks, same left cut cutAt]
        · simp only [List.length_cons]
          omega
      · cases found
    · cases found

/-- Whether a mark ends a string shows in the two characters after it. -/
theorem ending?_none_of_two {left cut : List Char} (two : 2 ≤ used.length)
    (found : ending? quote multiline read (used ++ (left ++ cut)) = none) :
    ending? quote multiline read (used ++ left) = none := by
  rcases used with _ | ⟨c, _ | ⟨d, used⟩⟩
  · simp at two
  · simp at two
  · cases multiline with
    | false => cases found
    | true =>
      simp only [ending?, if_true, List.cons_append] at found ⊢
      split at found
      · cases found
      · next differ => rw [if_neg differ]

/-! ### Strings -/

/-- What the reader of a string took after the characters `read`: the closing mark is in it, and all three when
there are three. The text has no more characters than were taken for it. -/
structure Taken (quote : Char) (multiline : Bool) (read : List Char)
    (body : List Char → Option (List Char × List Char)) (cs text rest used : List Char) : Prop
    extends Takes body cs text rest used where
  marked : quote ∈ used
  marks : multiline = true → 3 ≤ used.length
  size : text.length < read.length + used.length

variable {read' : List Char} {body body' : List Char → Option (List Char × List Char)}

namespace Taken

theorem of_ending? (ended : ending? quote multiline read cs = some (text, rest))
    (stops : ∀ more done, ending? quote multiline read more = some done → body (quote :: more) = some done) :
    ∃ used, Taken quote multiline read body (quote :: cs) text rest used := by
  obtain ⟨used, ⟨rfl, same⟩, marks, size⟩ := ending?_taken ended
  exact ⟨quote :: used, {
    split := rfl
    marked := List.mem_cons_self
    marks := fun three => Nat.succ_le_succ (marks three)
    size := by
      simp only [List.length_cons]
      omega
    same := fun left cut cutAt => stops _ _ (same left cut cutAt) }⟩

theorem cons (taken : Taken quote multiline read' body' cs text rest used)
    (added : read'.length ≤ read.length + 1)
    (onwards : ∀ left cut, rest = left ++ cut → body (c :: (used ++ left)) = body' (used ++ left)) :
    Taken quote multiline read body (c :: cs) text rest (c :: used) where
  split := by rw [taken.split, List.cons_append]
  marked := List.mem_cons_of_mem _ taken.marked
  marks three := Nat.le_succ_of_le (taken.marks three)
  size := by
    have := taken.size
    simp only [List.length_cons]
    omega
  same left cut cutAt := by rw [List.cons_append, onwards left cut cutAt, taken.same left cut cutAt]

/-- A mark that is part of the text stays so, because the string goes on to its end. -/
theorem going (taken : Taken quote multiline read' body' cs text rest used)
    (going : ending? quote multiline read cs = none) {left cut : List Char} (cutAt : rest = left ++ cut) :
    ending? quote multiline read (used ++ left) = none := by
  cases multiline with
  | false => cases going
  | true =>
    have three := taken.marks rfl
    rw [taken.split, cutAt] at going
    exact ending?_none_of_two (by omega) going

end Taken

theorem literalFrom_taken (found : literalFrom multiline read cs = some (text, rest)) :
    ∃ used, Taken '\'' multiline read (literalFrom multiline read) cs text rest used := by
  fun_induction literalFrom multiline read cs with
  | case1 => cases found
  | case2 read cs done ended =>
    cases found
    exact Taken.of_ending? ended fun more done stops => by rw [literalFrom, if_pos rfl, stops]
  | case3 read cs going ih =>
    obtain ⟨used, taken⟩ := ih found
    exact ⟨_, taken.cons (by simp) fun left cut cutAt => by
      rw [literalFrom, if_pos rfl, taken.going going cutAt]⟩
  | case4 read c cs other plain ih =>
    obtain ⟨used, taken⟩ := ih found
    exact ⟨_, taken.cons (by simp) fun left cut _ => by rw [literalFrom, if_neg other, if_pos plain]⟩
  | case5 => cases found

theorem escape?_size {added : List Char} {place : Place} (found : escape? multiline c = some (added, place)) :
    added.length ≤ 1 := by
  unfold escape? at found
  split at found
  all_goals
    first
    | (cases found; simp)
    | (split at found
       · cases found
         simp
       · cases found)

theorem basicFrom_taken {place : Place} (found : basicFrom multiline place read cs = some (text, rest)) :
    ∃ used, Taken '"' multiline read (basicFrom multiline place read) cs text rest used := by
  fun_induction basicFrom multiline place read cs with
  | case1 => cases found
  | case2 _ _ _ _ _ escaped ih =>
    obtain ⟨used, taken⟩ := ih found
    have size := escape?_size escaped
    exact ⟨_, taken.cons (by simp; omega) fun left cut _ => by simp only [basicFrom, escaped]⟩
  | case5 _ _ _ _ _ digit _ ih =>
    obtain ⟨used, taken⟩ := ih found
    exact ⟨_, taken.cons (by simp) fun left cut _ => by simp only [basicFrom, digit]⟩
  | case6 _ _ _ _ _ digit _ char ih =>
    obtain ⟨used, taken⟩ := ih found
    exact ⟨_, taken.cons (by simp) fun left cut _ => by simp only [basicFrom, digit, char]⟩
  | case8 _ _ _ blank ih =>
    obtain ⟨used, taken⟩ := ih found
    exact ⟨_, taken.cons (by simp) fun left cut _ => by simp [basicFrom, blank]⟩
  | case9 _ _ other ih =>
    obtain ⟨used, taken⟩ := ih found
    exact ⟨_, taken.cons (by simp) fun left cut _ => by simp [basicFrom, other]⟩
  | case11 _ _ _ place _ _ _ skipped ih =>
    obtain ⟨used, taken⟩ := ih found
    exact ⟨_, taken.cons (by simp) fun left cut _ => by simp [basicFrom, skipped]⟩
  -- From here on the place is one where a mark may end the string: in the text, or at the start of a line.
  | case12 read rest place _ _ _ done ended plain =>
    cases found
    exact Taken.of_ending? ended fun more done stops => by
      cases place <;> simp_all [basicFrom]
  | case13 read rest place _ _ _ ended plain ih =>
    obtain ⟨used, taken⟩ := ih found
    exact ⟨_, taken.cons (by simp) fun left cut cutAt => by
      have := taken.going ended cutAt
      cases place <;> simp_all [basicFrom]⟩
  | case14 _ _ place _ _ _ plain _ ih =>
    obtain ⟨used, taken⟩ := ih found
    exact ⟨_, taken.cons (by simp) fun left cut _ => by
      cases place <;> simp_all [basicFrom]⟩
  | case15 _ _ _ place _ _ _ _ _ _ plain ih =>
    obtain ⟨used, taken⟩ := ih found
    exact ⟨_, taken.cons (by simp) fun left cut _ => by
      cases place <;> simp_all [basicFrom]⟩
  | _ => cases found

theorem stringBody_taken (marks : quote = '"' ∨ quote = '\'')
    (found : stringBody quote multiline cs = some (text, rest)) :
    ∃ used, Taken quote multiline [] (stringBody quote multiline) cs text rest used := by
  obtain rfl | rfl := marks
  · exact basicFrom_taken found
  · exact literalFrom_taken found

theorem withoutFirstLineEnd_taken {front : List Char}
    (taken : Taken quote true [] body (withoutFirstLineEnd front) text rest used) :
    ∃ used', front = used' ++ rest ∧ used.length ≤ used'.length ∧
      ∀ left, withoutFirstLineEnd (used' ++ left) = used ++ left := by
  have three := taken.marks rfl
  have split := taken.split
  unfold withoutFirstLineEnd at split
  split at split
  · exact ⟨'\n' :: used, by rw [split, List.cons_append], Nat.le_succ _, fun left => rfl⟩
  · next other =>
    refine ⟨used, split, Nat.le_refl _, fun left => ?_⟩
    obtain _ | ⟨d, used⟩ := used
    · simp at three
    · unfold withoutFirstLineEnd
      split
      · next same =>
        obtain ⟨rfl, -⟩ := List.cons.inj same
        exact absurd split (other _)
      · rfl

theorem string?_taken {token : Token} (marks : quote = '"' ∨ quote = '\'')
    (found : string? quote cs = some (token, rest)) :
    ∃ used, Takes (string? quote) cs token rest used ∧
      ∀ s m, token = .string s m → s.length < used.length := by
  unfold string? at found
  split at found
  · next c d front =>
    split at found
    · next first =>
      split at found
      · next second =>
        -- Three marks.
        simp only [stringOf, Option.map_eq_some_iff, Prod.mk.injEq, Prod.exists] at found
        obtain ⟨text, _, read, rfl, rfl⟩ := found
        obtain ⟨used, taken⟩ := stringBody_taken marks read
        obtain ⟨used', rfl, longer, opens⟩ := withoutFirstLineEnd_taken taken
        refine ⟨c :: d :: used', ⟨rfl, fun left cut cutAt => ?_⟩, fun s m same => ?_⟩
        · simp [string?, first, second, opens, taken.same left cut cutAt, stringOf]
        · cases same
          have size := taken.size
          simp only [List.length_nil, String.length_ofList, List.length_cons] at size ⊢
          omega
      · next second =>
        -- Two marks, and the empty text between them.
        cases found
        refine ⟨[c], ⟨rfl, fun left cut cutAt => ?_⟩, fun s m same => by cases same; simp⟩
        obtain _ | ⟨e, left⟩ := left
        · simp [string?, first]
        · obtain ⟨rfl, -⟩ := List.cons.inj cutAt
          simp [string?, first, second]
    · next first =>
      simp only [stringOf, Option.map_eq_some_iff, Prod.mk.injEq, Prod.exists] at found
      obtain ⟨text, _, read, rfl, rfl⟩ := found
      obtain ⟨used, taken⟩ := stringBody_taken marks read
      refine ⟨used, ⟨taken.split, fun left cut cutAt => ?_⟩, fun s m same => ?_⟩
      · have marked := taken.marked
        have split := taken.split
        obtain _ | ⟨c', _ | ⟨e, used⟩⟩ := used
        · cases marked
        · obtain ⟨rfl, -⟩ := List.cons.inj split
          exact absurd (List.mem_singleton.1 marked).symm first
        · obtain ⟨rfl, -⟩ := List.cons.inj split
          have same := taken.same left cut cutAt
          simp only [List.cons_append] at same ⊢
          simp [string?, first, same, stringOf]
      · cases same
        simpa using taken.size
  · next c =>
    split at found
    · next first =>
      cases found
      refine ⟨[c], ⟨rfl, fun left cut cutAt => ?_⟩, fun s m same => by cases same; simp⟩
      obtain ⟨rfl, -⟩ := List.append_eq_nil_iff.1 cutAt.symm
      simp [string?, first]
    · cases found
  · cases found

/-! ### One token -/

theorem next?_taken {token : Token} (found : next? c cs = some (token, rest)) :
    ∃ used, Takes (next? c) cs token rest used ∧ ∀ s m, token = .string s m → s.length < used.length := by
  have whole (p : Char → Bool) : cs = cs.takeWhile p ++ cs.dropWhile p := List.takeWhile_append_dropWhile.symm
  unfold next? at found
  split at found
  case h_2 =>
    cases found
    refine ⟨cs.takeWhile isCommentChar, ⟨whole _, fun left cut cutAt => ?_⟩, nofun⟩
    rw [next?, (skips_dropWhile isCommentChar cs).same left cut cutAt]
  case h_12 => exact string?_taken (.inr rfl) found
  case h_13 => exact string?_taken (.inl rfl) found
  case h_14 =>
    split at found
    · next blank =>
      cases found
      refine ⟨cs.takeWhile isBlankChar, ⟨whole _, fun left cut cutAt => ?_⟩, nofun⟩
      simp [next?, blank, takeWhile_append_left isBlankChar cutAt,
        (skips_dropWhile isBlankChar cs).same left cut cutAt]
    · next blank =>
      split at found
      · next word =>
        cases found
        refine ⟨cs.takeWhile isWordChar, ⟨whole _, fun left cut cutAt => ?_⟩, nofun⟩
        simp [next?, blank, word, takeWhile_append_left isWordChar cutAt,
          (skips_dropWhile isWordChar cs).same left cut cutAt]
      · cases found
  -- All others are one character long.
  all_goals
    cases found
    exact ⟨[], ⟨rfl, fun left cut _ => rfl⟩, nofun⟩

/-! ### All tokens -/

def ofChars? (cs : List Char) : Option (List Token) := ofCharsFrom [] cs

theorem ofCharsFrom_cons {tokens : List Token} {token : Token} (found : next? c cs = some (token, rest)) :
    ofCharsFrom tokens (c :: cs) = ofCharsFrom (token :: tokens) rest := by
  rw [ofCharsFrom]
  split
  · next none_found => simp [found] at none_found
  · next same =>
    rw [found] at same
    cases same
    rfl

theorem ofCharsFrom_stuck {tokens : List Token} (stuck : next? c cs = none) :
    ofCharsFrom tokens (c :: cs) = none := by
  rw [ofCharsFrom]
  split
  · rfl
  · next found => simp [stuck] at found

/-- The tokens read before stand in front of those that follow. -/
theorem ofCharsFrom_append (after before : List Token) (cs : List Char) :
    ofCharsFrom (after ++ before) cs = (ofCharsFrom after cs).map (before.reverse ++ ·) := by
  fun_induction ofCharsFrom after cs with
  | case1 after => simp [ofCharsFrom]
  | case2 after c cs stuck => rw [ofCharsFrom_stuck stuck, Option.map_none]
  | case3 after c cs token rest found _ ih =>
    rw [ofCharsFrom_cons found]
    exact ih

theorem ofChars?_nil : ofChars? [] = some [] := by simp [ofChars?, ofCharsFrom]

theorem ofChars?_cons {token : Token} (found : next? c cs = some (token, rest)) :
    ofChars? (c :: cs) = (ofChars? rest).map (token :: ·) := by
  rw [ofChars?, ofCharsFrom_cons found]
  exact ofCharsFrom_append [] [token] rest

theorem ofChars?_stuck (stuck : next? c cs = none) : ofChars? (c :: cs) = none := ofCharsFrom_stuck stuck

theorem exists_next? {token : Token} {tokens : List Token} (read : ofChars? cs = some (token :: tokens)) :
    ∃ c cs' rest, cs = c :: cs' ∧ next? c cs' = some (token, rest) ∧ ofChars? rest = some tokens := by
  obtain _ | ⟨c, cs'⟩ := cs
  · simp [ofChars?_nil] at read
  · match found : next? c cs' with
    | none => simp [ofChars?_stuck found] at read
    | some (token', rest) =>
      rw [ofChars?_cons found, Option.map_eq_some_iff] at read
      obtain ⟨tokens', read, same⟩ := read
      cases same
      exact ⟨c, cs', rest, rfl, found, read⟩

theorem eq_nil_of_ofChars? (read : ofChars? cs = some []) : cs = [] := by
  obtain _ | ⟨c, cs⟩ := cs
  · rfl
  · match found : next? c cs with
    | none => simp [ofChars?_stuck found] at read
    | some (token, rest) => simp [ofChars?_cons found] at read

/-- Tokens that are cut in two come from a text that is cut in two. -/
theorem ofChars?_split {front back : List Token} (read : ofChars? cs = some (front ++ back)) :
    ∃ a b, cs = a ++ b ∧ ofChars? a = some front ∧ ofChars? b = some back := by
  induction front generalizing cs with
  | nil => exact ⟨[], cs, rfl, ofChars?_nil, read⟩
  | cons token front ih =>
    obtain ⟨c, cs, rest, rfl, found, read⟩ := exists_next? read
    obtain ⟨a, b, rfl, first, second⟩ := ih read
    obtain ⟨used, ⟨rfl, same⟩, -⟩ := next?_taken found
    refine ⟨c :: (used ++ a), b, by simp, ?_, second⟩
    rw [ofChars?_cons (same a b rfl), first]
    rfl

/-- The text of a string is shorter, by its two marks at least, than the text that it was read from. -/
theorem length_string {s : String} {m : Bool} {tokens : List Token} (read : ofChars? cs = some tokens)
    (mem : .string s m ∈ tokens) : s.length + 2 ≤ cs.length := by
  obtain ⟨front, back, rfl⟩ := List.append_of_mem mem
  obtain ⟨a, b, rfl, -, read⟩ := ofChars?_split read
  obtain ⟨c, cs, rest, rfl, found, -⟩ := exists_next? read
  obtain ⟨used, ⟨rfl, -⟩, size⟩ := next?_taken found
  have := size s m rfl
  simp only [List.length_append, List.length_cons]
  omega

/-! ### Line ends -/

theorem foldLineEnds_cons (plain : c = '\r' → ∀ more, cs ≠ '\n' :: more) :
    foldLineEnds (c :: cs) = c :: foldLineEnds cs := by
  rw [foldLineEnds]
  rintro rest rfl rfl
  exact plain rfl rest rfl

theorem foldLineEnds_split {a b : List Char} (folded : foldLineEnds cs = a ++ b) :
    ∃ front back, cs = front ++ back ∧ foldLineEnds front = a ∧ foldLineEnds back = b := by
  fun_induction foldLineEnds cs generalizing a with
  | case1 cs ih =>
    obtain _ | ⟨d, a⟩ := a
    · exact ⟨[], '\r' :: '\n' :: cs, rfl, rfl, folded⟩
    · obtain ⟨rfl, later⟩ := List.cons.inj folded
      obtain ⟨front, back, rfl, rfl, rfl⟩ := ih later
      exact ⟨'\r' :: '\n' :: front, back, rfl, rfl, rfl⟩
  | case2 c cs plain ih =>
    obtain _ | ⟨d, a⟩ := a
    · refine ⟨[], c :: cs, rfl, rfl, ?_⟩
      rw [← List.nil_append b, ← folded, foldLineEnds_cons]
      rintro rfl more rfl
      exact plain more rfl rfl
    · obtain ⟨rfl, later⟩ := List.cons.inj folded
      obtain ⟨front, back, rfl, rfl, rfl⟩ := ih later
      refine ⟨c :: front, back, rfl, foldLineEnds_cons ?_, rfl⟩
      rintro rfl more rfl
      exact plain (more ++ back) rfl rfl
  | case3 =>
    obtain ⟨rfl, rfl⟩ := List.nil_eq_append_iff.1 folded
    exact ⟨[], [], rfl, rfl, rfl⟩

theorem foldLineEnds_append {cs : List Char} (ends : ∀ c ∈ cs.getLast?, c ≠ '\r') (after : List Char) :
    foldLineEnds (cs ++ after) = foldLineEnds cs ++ foldLineEnds after := by
  fun_induction foldLineEnds cs with
  | case1 cs ih =>
    change '\n' :: foldLineEnds (cs ++ after) = '\n' :: (foldLineEnds cs ++ foldLineEnds after)
    rw [ih]
    intro c last
    apply ends c
    rw [List.getLast?_cons, List.getLast?_cons, Option.mem_def.1 last]
    rfl
  | case2 c cs plain ih =>
    have rest : foldLineEnds (cs ++ after) = foldLineEnds cs ++ foldLineEnds after := by
      apply ih
      intro d last
      apply ends d
      rw [List.getLast?_cons, Option.mem_def.1 last]
      rfl
    rw [List.cons_append, List.cons_append, ← rest, foldLineEnds_cons]
    rintro rfl more same
    cases cs with
    | nil => exact ends '\r' rfl rfl
    | cons d cs =>
      cases same
      exact plain cs rfl rfl
  | case3 => rfl

theorem eq_nil_of_foldLineEnds (folded : foldLineEnds cs = []) : cs = [] := by
  unfold foldLineEnds at folded
  split at folded
  · cases folded
  · cases folded
  · rfl

theorem length_foldLineEnds (cs : List Char) : (foldLineEnds cs).length ≤ cs.length := by
  fun_induction foldLineEnds cs with
  | case1 cs ih => exact Nat.le_succ_of_le (Nat.succ_le_succ ih)
  | case2 c cs _ ih => exact Nat.succ_le_succ ih
  | case3 => exact Nat.le_refl _

theorem dropWhile_foldLineEnds (cs : List Char) :
    (foldLineEnds cs).dropWhile isBlankChar = foldLineEnds (cs.dropWhile isBlankChar) := by
  fun_induction foldLineEnds cs with
  | case1 cs ih => rfl
  | case2 c cs plain ih =>
    have plain : c = '\r' → ∀ more, cs ≠ '\n' :: more := fun first more second => plain more first second
    by_cases blank : isBlankChar c
    · rw [List.dropWhile_cons_of_pos blank, List.dropWhile_cons_of_pos blank, ih]
    · rw [List.dropWhile_cons_of_neg blank, List.dropWhile_cons_of_neg blank, foldLineEnds_cons plain]
  | case3 => rfl

end TokenIndexer.Toml.Token
