import TokenIndexer.Proofs.Toml.Token
import TokenIndexer.Toml.Scalar

namespace TokenIndexer.Toml.Scalar

variable {cs : List Char} {tokens rest : List Token} {value : Toml} {entry : Entry}

theorem withoutPlus_skips (tokens : List Token) : ∃ used, Skips withoutPlus tokens used := by
  apply skips_first (· = .plus)
  · rintro _ rest rfl
    rfl
  · intro tokens other
    unfold withoutPlus
    split
    · exact (other _ rfl rfl).elim
    · rfl

theorem exponent?_taken {suffix : List Char} {e : Int} (found : exponent? suffix tokens = some (e, rest)) :
    ∃ used, Takes (exponent? suffix) tokens e rest used := by
  unfold exponent? at found
  repeat' split at found
  · cases found
    exact ⟨[], rfl, fun left cut _ => rfl⟩
  · next mark _ _ _ _ word _ digits read =>
    cases found
    obtain ⟨sign, skipped⟩ := withoutPlus_skips tokens
    have spelled := skipped.marks word
    exact ⟨_, spelled.split, fun left cut cutAt => by
      simp only [exponent?, mark, if_true, spelled.same left cut cutAt, read]⟩
  · cases found
  · cases found
  · next suffix mark _ more _ negative digits read =>
    cases found
    refine ⟨[], rfl, fun left cut _ => ?_⟩
    obtain _ | ⟨d, suffix⟩ := suffix
    · exact absurd rfl more
    · simp [exponent?, mark, read]
  · cases found
  · cases found

theorem float?_taken {after : Option (List Char)} (found : float? cs after tokens = some (value, rest)) :
    ∃ used, Takes (float? cs after) tokens value rest used := by
  simp only [float?, Option.bind_eq_bind, Option.bind_eq_some_iff, Prod.exists] at found
  obtain ⟨negative, integral, suffix, whole, fraction, suffix', part, power, rest', exponent, found⟩ := found
  obtain ⟨used, taken⟩ := exponent?_taken exponent
  split at found
  · next finite =>
    cases found
    refine ⟨used, taken.split, fun left cut cutAt => ?_⟩
    simp [float?, whole, part, taken.same left cut cutAt, finite]
  · cases found

theorem number?_decimal (notHex : ∀ more, cs = '0' :: 'x' :: more → False)
    (notOctal : ∀ more, cs = '0' :: 'o' :: more → False) (notBinary : ∀ more, cs = '0' :: 'b' :: more → False)
    (tokens : List Token) :
    number? cs tokens =
      if 'e' ∈ cs ∨ 'E' ∈ cs then float? cs none tokens
      else
        match tokens with
        | .period :: .word after :: rest => float? cs (some after) rest
        | .period :: _ => none
        | rest => (wholeNumber? cs).map fun value => (value, rest) := by
  unfold number?
  split
  · exact (notHex _ rfl).elim
  · exact (notOctal _ rfl).elim
  · exact (notBinary _ rfl).elim
  · rfl

theorem number?_taken (found : number? cs tokens = some (value, rest)) :
    ∃ used, Takes (number? cs) tokens value rest used := by
  unfold number? at found
  split at found
  case h_4 notHex notOctal notBinary =>
    have decimal := number?_decimal notHex notOctal notBinary
    split at found
    · next power =>
      obtain ⟨used, taken⟩ := float?_taken found
      exact ⟨_, taken.after [] fun more => by rw [List.nil_append, decimal, if_pos power]⟩
    · next whole =>
      split at found
      · next after tokens =>
        obtain ⟨used, taken⟩ := float?_taken found
        exact ⟨_, taken.after [.period, .word after] fun more => by
          rw [decimal, if_neg whole, List.cons_append, List.cons_append, List.nil_append]⟩
      · cases found
      · next pointed other =>
        simp only [Option.map_eq_some_iff, Prod.mk.injEq] at found
        obtain ⟨_, read, rfl, rfl⟩ := found
        refine ⟨[], rfl, fun left cut cutAt => ?_⟩
        rw [decimal, if_neg whole, List.nil_append]
        split
        · exact (pointed _ _ cutAt).elim
        · exact (other _ cutAt).elim
        · rw [read, Option.map_some]
  all_goals
    simp only [Option.map_eq_some_iff, Prod.mk.injEq] at found
    obtain ⟨_, read, rfl, rfl⟩ := found
    exact ⟨[], rfl, fun left cut _ => by simp [number?, read]⟩

/-! ### Dates and times -/

theorem part?_taken {mark : Token} {char : Char} {read read' : List Char}
    (found : part? mark char read tokens = some (read', rest)) :
    ∃ used, Takes (part? mark char read) tokens read' rest used := by
  unfold part? at found
  split at found
  · next token following =>
    split at found
    · next marked =>
      split at found
      · next cs following =>
        cases found
        exact ⟨[token, .word cs], rfl, fun left cut _ => by simp [part?, marked]⟩
      · cases found
    · next other =>
      cases found
      refine ⟨[], rfl, fun left cut cutAt => ?_⟩
      obtain _ | ⟨first, left⟩ := left
      · rfl
      · obtain ⟨rfl, -⟩ := List.cons.inj cutAt
        simp [part?, other]
  · cases found
    refine ⟨[], rfl, fun left cut cutAt => ?_⟩
    obtain ⟨rfl, -⟩ := List.append_eq_nil_iff.1 cutAt.symm
    rfl

theorem afterColon?_taken {read read' : List Char} (found : afterColon? read tokens = some (read', rest)) :
    ∃ used, Takes (afterColon? read) tokens read' rest used := by
  unfold afterColon? at found
  split at found
  · next minutes seconds tokens =>
    simp only [Option.bind_eq_bind, Option.bind_eq_some_iff, Prod.exists] at found
    obtain ⟨_, _, fraction, _, _, plus, colon⟩ := found
    obtain ⟨first, fraction⟩ := part?_taken fraction
    obtain ⟨second, plus⟩ := part?_taken plus
    obtain ⟨third, colon⟩ := part?_taken colon
    refine ⟨.word minutes :: .colon :: .word seconds :: (first ++ (second ++ third)), ?_,
      fun left cut cutAt => ?_⟩
    · rw [fraction.split, plus.split, colon.split]
      simp
    · have fractional := fraction.same _ cut (plus.cut (colon.cut cutAt))
      have signed := plus.same _ cut (colon.cut cutAt)
      simp only [List.cons_append, List.append_assoc first, List.append_assoc second, afterColon?, fractional,
        signed, Option.bind_eq_bind, Option.bind_some, colon.same left cut cutAt]
  · cases found

theorem spacedHour_taken (read : List Char) (tokens : List Token) :
    ∃ used, Takes (fun tokens => some (spacedHour read tokens)) tokens (spacedHour read tokens).1
      (spacedHour read tokens).2 used := by
  rw [spacedHour.eq_def]
  split
  · next hour rest => exact ⟨[.blank [' '], .word hour], rfl, fun _ _ _ => rfl⟩
  · next other =>
    refine ⟨[], rfl, fun left cut cutAt => ?_⟩
    rw [List.nil_append, spacedHour.eq_def]
    split
    · exact (other _ _ cutAt).elim
    · rfl

theorem date?_taken (found : date? cs tokens = some (entry, rest)) :
    ∃ used, Takes (date? cs) tokens entry rest used := by
  obtain ⟨hour, spaced⟩ := spacedHour_taken cs tokens
  simp only [date?] at found
  split at found
  · next following colon =>
    simp only [Option.map_eq_some_iff, Prod.exists] at found
    obtain ⟨_, _, time, same⟩ := found
    cases same
    obtain ⟨minutes, time⟩ := afterColon?_taken time
    rw [colon] at spaced
    refine ⟨hour ++ .colon :: minutes, ?_, fun left cut cutAt => ?_⟩
    · rw [spaced.split, time.split]
      simp
    · have hour := Option.some.inj (spaced.same (.colon :: (minutes ++ left)) cut (by rw [time.cut cutAt]; rfl))
      simp [date?, hour, time.same left cut cutAt, dateOf]
  · next other =>
    cases found
    refine ⟨hour, spaced.split, fun left cut cutAt => ?_⟩
    have hour := Option.some.inj (spaced.same left cut cutAt)
    simp only [date?, hour]
    split
    · exact (other _ cutAt).elim
    · rfl

theorem time?_taken (found : time? cs tokens = some (entry, rest)) :
    ∃ used, Takes (time? cs) tokens entry rest used := by
  obtain ⟨hour, spaced⟩ := spacedHour_taken (cs ++ [':']) tokens
  simp only [time?, Option.map_eq_some_iff, Prod.exists] at found
  obtain ⟨_, _, time, same⟩ := found
  cases same
  obtain ⟨minutes, time⟩ := afterColon?_taken time
  refine ⟨hour ++ minutes, ?_, fun left cut cutAt => ?_⟩
  · rw [spaced.split, time.split, List.append_assoc]
  · have hour := Option.some.inj (spaced.same _ cut (time.cut cutAt))
    rw [List.append_assoc]
    simp [time?, hour, time.same left cut cutAt, dateOf]

theorem written_taken (found : (number? cs tokens).map written = some (entry, rest)) :
    ∃ used, Takes (fun tokens => (number? cs tokens).map written) tokens entry rest used := by
  simp only [Option.map_eq_some_iff, Prod.exists] at found
  obtain ⟨value, _, number, same⟩ := found
  cases same
  obtain ⟨used, taken⟩ := number?_taken number
  exact ⟨used, taken.split, fun left cut cutAt => by rw [taken.same left cut cutAt]; rfl⟩

theorem numberOrDate?_taken (found : numberOrDate? cs tokens = some (entry, rest)) :
    ∃ used, Takes (numberOrDate? cs) tokens entry rest used := by
  unfold numberOrDate? at found
  split at found
  · next date =>
    obtain ⟨_, taken⟩ := date?_taken found
    exact ⟨_, taken.after [] fun more => by simp [numberOrDate?.eq_def, date]⟩
  · next date =>
    split at found
    · obtain ⟨_, taken⟩ := time?_taken found
      exact ⟨_, taken.after [.colon] fun more => by
        rw [List.singleton_append, numberOrDate?, if_neg date]⟩
    · next other =>
      obtain ⟨used, taken⟩ := written_taken found
      refine ⟨used, taken.split, fun left cut cutAt => ?_⟩
      have same := taken.same left cut cutAt
      unfold numberOrDate?
      rw [if_neg date]
      split
      · next colon =>
        rw [taken.cut cutAt, colon, List.cons_append] at other
        exact (other _ rfl).elim
      · exact same

theorem word?_taken (found : word? cs tokens = some (entry, rest)) :
    ∃ used, Takes (word? cs) tokens entry rest used := by
  unfold word? at found
  split at found
  · cases found
    exact ⟨[], rfl, fun left cut _ => rfl⟩
  · cases found
    exact ⟨[], rfl, fun left cut _ => rfl⟩
  · exact numberOrDate?_taken found
  · exact numberOrDate?_taken found
  · next c cs notTrue notFalse notInf notNan =>
    split at found
    · next starts =>
      obtain ⟨_, taken⟩ := numberOrDate?_taken found
      exact ⟨_, taken.after [] fun more => by
        rw [List.nil_append, word?, if_pos starts]
        all_goals assumption⟩
    · cases found
  · cases found

/-! ### All scalars -/

theorem read?_taken {token : Token} (found : read? token tokens = some (entry, rest)) :
    ∃ used, Takes (read? token) tokens entry rest used := by
  unfold read? at found
  split at found
  · cases found
    exact ⟨[], rfl, fun left cut _ => rfl⟩
  · exact word?_taken found
  · split at found
    · obtain ⟨_, taken⟩ := written_taken found
      exact ⟨_, taken.after [.word _] fun more => rfl⟩
    · cases found
  · cases found

/-! ### What is a string -/

variable {text : String}

theorem int?_ne_string (n : Int) : int? n ≠ some (.string text) := by
  unfold int?
  split <;> simp

theorem float?_ne_string {after : Option (List Char)} : float? cs after tokens ≠ some (.string text, rest) := by
  intro found
  simp only [float?, Option.bind_eq_bind, Option.bind_eq_some_iff, Prod.exists] at found
  obtain ⟨_, _, _, -, _, _, -, _, _, -, found⟩ := found
  split at found <;> cases found

theorem radixInt?_ne_string (radix : Nat) : radixInt? radix cs ≠ some (.string text) := by
  unfold radixInt?
  split
  · exact int?_ne_string _
  · nofun

theorem wholeNumber?_ne_string : wholeNumber? cs ≠ some (.string text) := by
  unfold wholeNumber? decimalInt?
  repeat' split
  all_goals
    first
    | exact int?_ne_string _
    | nofun

theorem number?_ne_string : number? cs tokens ≠ some (.string text, rest) := by
  intro found
  unfold number? at found
  repeat' split at found
  all_goals
    first
    | exact float?_ne_string found
    | contradiction
    | (simp only [Option.map_eq_some_iff, Prod.mk.injEq] at found
       obtain ⟨_, read, rfl, -⟩ := found
       first
       | exact radixInt?_ne_string _ read
       | exact wholeNumber?_ne_string read)

/-- What a scalar that starts with a token can be: a date, or a value that is a string only when the token is. -/
def Shape (token : Token) (entry : Entry) : Prop :=
  (∃ spelling, entry = .date spelling) ∨
    ∃ value, entry = .scalar value ∧
      ∀ text, value = .string text → ∃ multiline, token = .string text multiline

variable {token : Token}

theorem shape_of_ne_string {value : Toml} (differs : ∀ text, value ≠ .string text) :
    Shape token (.scalar value) :=
  .inr ⟨value, rfl, fun text same => (differs text same).elim⟩

theorem shape_written (found : (number? cs tokens).map written = some (entry, rest)) : Shape token entry := by
  simp only [Option.map_eq_some_iff, written, Prod.exists, Prod.mk.injEq] at found
  obtain ⟨value, rest, number, rfl, rfl⟩ := found
  refine shape_of_ne_string ?_
  rintro text rfl
  exact number?_ne_string number

theorem shape_numberOrDate? (found : numberOrDate? cs tokens = some (entry, rest)) : Shape token entry := by
  unfold numberOrDate? at found
  split at found
  · simp only [date?] at found
    split at found
    · simp only [Option.map_eq_some_iff, dateOf, Prod.mk.injEq] at found
      obtain ⟨_, -, rfl, -⟩ := found
      exact .inl ⟨_, rfl⟩
    · cases found
      exact .inl ⟨_, rfl⟩
  · split at found
    · simp only [time?, Option.map_eq_some_iff, dateOf, Prod.mk.injEq] at found
      obtain ⟨_, -, rfl, -⟩ := found
      exact .inl ⟨_, rfl⟩
    · exact shape_written found

theorem shape_read? (found : read? token tokens = some (entry, rest)) : Shape token entry := by
  unfold read? word? at found
  repeat' split at found
  all_goals
    first
    | exact shape_numberOrDate? found
    | exact shape_written found
    | contradiction
    | cases found
  · exact .inr ⟨_, rfl, fun _ same => by cases same; exact ⟨_, rfl⟩⟩
  · exact shape_of_ne_string nofun
  · exact shape_of_ne_string nofun

end TokenIndexer.Toml.Scalar
