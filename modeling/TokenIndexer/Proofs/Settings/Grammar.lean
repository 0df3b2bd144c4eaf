import TokenIndexer.Proofs.Settings.ValueText
import TokenIndexer.Proofs.Text
import TokenIndexer.Proofs.Toml.Quoted

/-! Which texts are overrides, and how a value is written so that it is read as that value. -/

namespace TokenIndexer.Override

open Toml Toml.Token

variable {raw : String} {key text : List Char} {segments : List String} {value : Toml} {o : Override}

/-! ### Keys -/

def keyOf (raw : String) : List Char := raw.toList.takeWhile (· ≠ '=')

def textOf (raw : String) : List Char := (raw.toList.dropWhile (· ≠ '=')).tail

/-- A segment of a path: it is not empty, has neither a point nor an equals sign, and no blanks around it. -/
structure Segment (segment : List Char) : Prop where
  filled : segment ≠ []
  noPoint : '.' ∉ segment
  noEquals : '=' ∉ segment
  trimmed : Trimmed segment

theorem eq_keyOf_append (equals : '=' ∈ raw.toList) :
    raw.toList = keyOf raw ++ '=' :: textOf raw ∧ '=' ∉ keyOf raw := by
  obtain ⟨key, text, whole, noEquals⟩ := List.eq_append_cons_of_mem equals
  have before : ∀ c ∈ key, decide (c ≠ '=') = true := by
    intro c member
    simpa using ne_of_mem_of_not_mem member noEquals
  have first : keyOf raw = key := by
    rw [keyOf, whole, List.takeWhile_append_of_pos before]
    simp
  have second : textOf raw = text := by
    rw [textOf, whole, List.dropWhile_append_of_pos before]
    simp
  rw [first, second]
  exact ⟨whole, noEquals⟩

theorem trim_of_trimmed (trimmed : Trimmed text) : Blank.trim text = text := by
  obtain ⟨front, back, whole, blankFront, blankBack⟩ := Blank.exists_append_trim text
  generalize Blank.trim text = inner at whole ⊢
  subst whole
  have noFront : front = [] := by
    cases front with
    | nil => rfl
    | cons c front =>
      have visible := trimmed.head c rfl
      rw [blankFront c List.mem_cons_self] at visible
      cases visible
  have noBack : back = [] := by
    by_contra more
    have visible := trimmed.last (back.getLast more) (by simp [List.getLast?_eq_some_getLast more])
    rw [blankBack _ (List.getLast_mem more)] at visible
    cases visible
  rw [noFront, noBack, List.nil_append, List.append_nil]

theorem segment_trim {segment : List Char} (member : segment ∈ key.splitOn '.') (noEquals : '=' ∉ key)
    (shown : Blank.trim segment ≠ []) : Segment (Blank.trim segment) := by
  obtain ⟨noPoint, part⟩ := Split.of_mem_splitOn member
  obtain ⟨front, back, whole, -, -⟩ := Blank.exists_append_trim segment
  have inner : Blank.trim segment ⊆ segment := by
    intro c within
    rw [whole]
    simp [within]
  exact ⟨shown, fun point => noPoint (inner point), fun equals => noEquals (part (inner equals)),
    trimmed_trim segment⟩

/-! ### Reading -/

theorem parse_split (whole : raw.toList = key ++ '=' :: text) (noEquals : '=' ∉ key) :
    parse raw =
      if [] ∈ (key.splitOn '.').map Blank.trim then .error (.invalidOverride raw)
      else .ok ⟨((key.splitOn '.').map Blank.trim).map String.ofList, valueOf (Blank.trim text)⟩ := by
  have visible : isBlank '.' = false := rfl
  unfold parse
  rw [Split.atFirst?_eq_some.2 ⟨whole, noEquals⟩]
  simp only [Split.pieces_eq_splitOn, Blank.map_trim_splitOn_trim visible]

theorem exists_of_parse (accepted : parse raw = .ok o) :
    '=' ∈ raw.toList ∧ [] ∉ ((keyOf raw).splitOn '.').map Blank.trim ∧
      o = ⟨(((keyOf raw).splitOn '.').map Blank.trim).map String.ofList, valueOf (Blank.trim (textOf raw))⟩ := by
  by_cases equals : '=' ∈ raw.toList
  · obtain ⟨whole, noEquals⟩ := eq_keyOf_append equals
    rw [parse_split whole noEquals] at accepted
    split at accepted
    · cases accepted
    · next shown =>
      cases accepted
      exact ⟨equals, shown, rfl⟩
  · unfold parse at accepted
    rw [Split.atFirst?_eq_none.2 equals] at accepted
    cases accepted

theorem nil_mem_map_trim {segments : List (List Char)} :
    [] ∈ segments.map Blank.trim ↔ ∃ segment ∈ segments, ∀ c ∈ segment, isBlank c = true := by
  simp only [List.mem_map, Blank.trim_eq_nil]

theorem parse_isOk_iff :
    (∃ o, parse raw = .ok o) ↔
      '=' ∈ raw.toList ∧ ∀ segment ∈ (keyOf raw).splitOn '.', ∃ c ∈ segment, isBlank c = false := by
  constructor
  · rintro ⟨o, accepted⟩
    obtain ⟨equals, shown, -⟩ := exists_of_parse accepted
    refine ⟨equals, fun segment member => ?_⟩
    by_contra hidden
    refine shown (nil_mem_map_trim.2 ⟨segment, member, fun c within => ?_⟩)
    by_contra visible
    exact hidden ⟨c, within, by simpa using visible⟩
  · rintro ⟨equals, shown⟩
    obtain ⟨whole, noEquals⟩ := eq_keyOf_append equals
    refine ⟨_, (parse_split whole noEquals).trans (if_neg fun empty => ?_)⟩
    obtain ⟨segment, member, blank⟩ := nil_mem_map_trim.1 empty
    obtain ⟨c, within, visible⟩ := shown segment member
    rw [blank c within] at visible
    cases visible

theorem segment_of_parse (accepted : parse raw = .ok o) : ∀ segment ∈ o.path, Segment segment.toList := by
  obtain ⟨equals, shown, rfl⟩ := exists_of_parse accepted
  intro segment member
  obtain ⟨_, trimmed, rfl⟩ := List.mem_map.1 member
  obtain ⟨piece, piece_mem, rfl⟩ := List.mem_map.1 trimmed
  rw [String.toList_ofList]
  refine segment_trim piece_mem (eq_keyOf_append equals).2 fun empty => shown ?_
  rw [← empty]
  exact trimmed

/-! ### Writing a path -/

theorem not_mem_intercalate {c separator : Char} (other : c ≠ separator) {pieces : List (List Char)}
    (free : ∀ piece ∈ pieces, c ∉ piece) : c ∉ List.intercalate [separator] pieces := by
  induction pieces with
  | nil => simp
  | cons piece pieces ih =>
    obtain ⟨first, others⟩ := List.forall_mem_cons.1 free
    cases pieces with
    | nil => simpa using first
    | cons next pieces =>
      rw [List.intercalate_cons_cons]
      simp only [List.mem_append, List.mem_singleton, not_or]
      exact ⟨⟨first, other⟩, ih others⟩

theorem parse_intercalate (nonempty : segments ≠ []) (each : ∀ segment ∈ segments, Segment segment.toList)
    (text : List Char) :
    parse (String.intercalate "." segments ++ "=" ++ String.ofList text) =
      .ok ⟨segments, valueOf (Blank.trim text)⟩ := by
  have pieces : ∀ piece ∈ segments.map String.toList, Segment piece := by
    intro piece member
    obtain ⟨segment, segment_mem, rfl⟩ := List.mem_map.1 member
    exact each segment segment_mem
  have whole : (String.intercalate "." segments ++ "=" ++ String.ofList text).toList =
      List.intercalate ['.'] (segments.map String.toList) ++ '=' :: text := by
    simp [String.toList_intercalate]
  have noEquals := not_mem_intercalate (by decide : '=' ≠ '.') fun piece member => (pieces piece member).noEquals
  have split : (List.intercalate ['.'] (segments.map String.toList)).splitOn '.' = segments.map String.toList :=
    List.splitOn_intercalate '.' (fun piece member => (pieces piece member).noPoint) (by simpa using nonempty)
  have same : (segments.map String.toList).map Blank.trim = segments.map String.toList := by
    refine (List.map_congr_left fun piece member => ?_).trans (List.map_id _)
    exact trim_of_trimmed (pieces piece member).trimmed
  have filled : [] ∉ segments.map String.toList := fun empty => (pieces [] empty).filled rfl
  rw [parse_split whole noEquals, split, same, if_neg filled, List.map_map]
  congr 2
  exact (List.map_congr_left fun segment _ => String.ofList_toList).trans (List.map_id _)

theorem parse_name (accepted : parse raw = .ok o) :
    parse (o.name ++ "=" ++ String.ofList (textOf raw)) = .ok o := by
  have each := segment_of_parse accepted
  obtain ⟨-, -, rfl⟩ := exists_of_parse accepted
  refine parse_intercalate ?_ each (textOf raw)
  simp

/-! ### Written values -/

inductive Written : List Char → Toml → Prop where
  | int (n : Int64) : Written (Decimal.ofInt n.toInt) (.int n)
  | bool (b : Bool) : Written (if b then "true".toList else "false".toList) (.bool b)
  | string {spelled text : List Char} (quoted : Quoted (foldLineEnds spelled) text) :
    Written spelled (.string (String.ofList text))

theorem written_quote (s : String) : Written (quote s.toList) (.string s) := by
  have quoted : Quoted (foldLineEnds (quote s.toList)) s.toList := by
    rw [foldLineEnds_quote]
    exact quoted_quote s.toList
  have := Written.string quoted
  rwa [String.ofList_toList] at this

theorem single_written (written : Written text value) : ∃ token, Single (foldLineEnds text) token value := by
  cases written with
  | int n => exact single_int n
  | bool b => exact single_bool b
  | string quoted => exact single_quoted quoted

theorem literal?_written (written : Written text value) : literal? text = some value := by
  obtain ⟨token, single⟩ := single_written written
  exact literal?_of_single single

theorem trimmed_of_all (visible : text.all (!isBlank ·) = true) : Trimmed text := by
  have each : ∀ c ∈ text, isBlank c = false := by simpa using visible
  exact ⟨fun c first => each c (List.mem_of_mem_head? first), fun c last => each c (List.mem_of_getLast? last)⟩

theorem isBlank_of_isDigit {c : Char} (digit : Decimal.isDigit c = true) : isBlank c = false := by
  have range := Decimal.isDigit_iff.1 digit
  have low : 48 ≤ c.toNat := UInt32.le_iff_toNat_le.1 range.1
  have high : c.toNat ≤ 57 := UInt32.le_iff_toNat_le.1 range.2
  have table : ∀ k : Fin 58, 48 ≤ k.val → isBlank (Char.ofNat k) = false := by decide
  have := table ⟨c.toNat, by omega⟩ low
  rwa [Char.ofNat_toNat] at this

/-- A folded line end is not one character. -/
theorem eq_of_foldLineEnds_eq {c : Char} (visible : c ≠ '\n') (folded : foldLineEnds text = [c]) : text = [c] := by
  unfold foldLineEnds at folded
  split at folded
  · exact absurd (List.cons.inj folded).1.symm visible
  · obtain ⟨rfl, rest⟩ := List.cons.inj folded
    rw [eq_nil_of_foldLineEnds rest]
  · cases folded

theorem quoted_ends {spelled : List Char} (quoted : Quoted spelled text) :
    ∃ mark front back, isBlank mark = false ∧ spelled = [mark] ++ back ∧ spelled = front ++ [mark] := by
  have ends (mark : Char) (multiline : Bool) (inner : List Char) :
      ∃ front back, List.replicate (marks multiline) mark ++ (inner ++ List.replicate (marks multiline) mark) =
          [mark] ++ back ∧
        List.replicate (marks multiline) mark ++ (inner ++ List.replicate (marks multiline) mark) =
          front ++ [mark] := by
    refine ⟨List.replicate (marks multiline) mark ++ (inner ++ List.replicate (marks multiline - 1) mark),
      List.replicate (marks multiline - 1) mark ++ (inner ++ List.replicate (marks multiline) mark), ?_, ?_⟩
    all_goals cases multiline <;> simp [marks, List.replicate]
  cases quoted with
  | @basic multiline first spelled text opening body =>
    obtain ⟨front, back, starts, stops⟩ := ends '"' multiline (first ++ spelled)
    rw [List.append_assoc] at starts stops
    exact ⟨'"', front, back, rfl, starts, stops⟩
  | @literal multiline first spelled text opening body =>
    obtain ⟨front, back, starts, stops⟩ := ends '\'' multiline (first ++ spelled)
    rw [List.append_assoc] at starts stops
    exact ⟨'\'', front, back, rfl, starts, stops⟩

theorem trimmed_quoted {spelled : List Char} (quoted : Quoted (foldLineEnds spelled) text) : Trimmed spelled := by
  obtain ⟨mark, front, back, visible, starts, stops⟩ := quoted_ends quoted
  have noLineEnd : mark ≠ '\n' := by
    rintro rfl
    cases visible
  obtain ⟨first, _, rfl, folded, -⟩ := foldLineEnds_split starts
  obtain rfl := eq_of_foldLineEnds_eq noLineEnd folded
  obtain ⟨_, last, whole, -, folded⟩ := foldLineEnds_split stops
  obtain rfl := eq_of_foldLineEnds_eq noLineEnd folded
  constructor
  · intro c same
    cases same
    exact visible
  · intro c same
    rw [whole, List.getLast?_append] at same
    cases same
    exact visible

theorem trimmed_written (written : Written text value) : Trimmed text := by
  cases written with
  | int n =>
    apply trimmed_of_all
    have digits (m : Nat) : (Decimal.digits m).all (!isBlank ·) = true := by
      refine List.all_eq_true.2 fun c member => ?_
      rw [isBlank_of_isDigit (List.all_eq_true.1 (Decimal.all_isDigit_digits m) c member)]
      rfl
    cases n.toInt with
    | ofNat m => exact digits m
    | negSucc m => exact digits (m + 1)
  | bool b => cases b <;> exact trimmed_of_all (by decide)
  | string quoted => exact trimmed_quoted quoted

theorem valueOf_written (written : Written text value) : valueOf (Blank.trim text) = value := by
  have trimmed := trimmed_written written
  rw [trim_of_trimmed trimmed]
  exact (valueText_valueOf trimmed).literal value (literal?_written written)

/-! ### The grammar -/

/-- A text is an override exactly if it has an equals sign and no blank segment before it; its path are the
segments without the blanks around them, and is a key for itself. Every list of segments is such a path, and a
value written after it is that value. -/
theorem parse_grammar :
    (∀ raw, (∃ o, parse raw = .ok o) ↔
      '=' ∈ raw.toList ∧ ∀ segment ∈ (keyOf raw).splitOn '.', ∃ c ∈ segment, isBlank c = false) ∧
    (∀ raw o, parse raw = .ok o →
      o.path = ((keyOf raw).splitOn '.').map (fun segment => String.ofList (Blank.trim segment)) ∧
      (∀ segment ∈ o.path, Segment segment.toList) ∧
      parse (o.name ++ "=" ++ String.ofList (textOf raw)) = .ok o) ∧
    (∀ segments text value, segments ≠ [] → (∀ segment ∈ segments, Segment segment.toList) →
      Written text value →
      parse (String.intercalate "." segments ++ "=" ++ String.ofList text) = .ok ⟨segments, value⟩) ∧
    ∀ s : String, Written (quote s.toList) (.string s) := by
  refine ⟨fun raw => parse_isOk_iff, fun raw o accepted => ?_, ?_, written_quote⟩
  · refine ⟨?_, segment_of_parse accepted, parse_name accepted⟩
    obtain ⟨-, -, rfl⟩ := exists_of_parse accepted
    exact List.map_map
  · intro segments text value nonempty each written
    rw [parse_intercalate nonempty each, valueOf_written written]

/-- Blanks around segments are no part of the path, and an equals sign between marks is part of the string. -/
theorem parse_grammar_quoted :
    (∃ o, parse " client . chain_id =\"a=b\"" = .ok o ∧ o.name = "client.chain_id" ∧
      parse (o.name ++ "=" ++ "\"a=b\"") = .ok o) ∧
    parse "client.chain_id=\"a=b\"" = .ok ⟨["client", "chain_id"], .string "a=b"⟩ := by
  obtain ⟨exactly, again, written, quoted⟩ := parse_grammar
  constructor
  · have segments : (keyOf " client . chain_id =\"a=b\"").splitOn '.' =
        [" client ".toList, " chain_id ".toList] := by decide
    have shown : ∀ segment ∈ [" client ".toList, " chain_id ".toList], ∃ c ∈ segment, isBlank c = false := by
      rintro segment member
      refine ⟨'c', ?_, rfl⟩
      revert segment
      decide
    obtain ⟨o, accepted⟩ := (exactly " client . chain_id =\"a=b\"").2 ⟨by decide, by rwa [segments]⟩
    obtain ⟨path, -, same⟩ := again _ o accepted
    refine ⟨o, accepted, ?_, same⟩
    rw [name, path]
    decide
  · refine written ["client", "chain_id"] (quote "a=b".toList) (.string "a=b") (by decide) ?_ (quoted "a=b")
    intro segment member
    have shape : ∀ segment ∈ ["client", "chain_id"], segment.toList ≠ [] ∧ '.' ∉ segment.toList ∧
        '=' ∉ segment.toList ∧ segment.toList.all (!isBlank ·) = true := by decide
    obtain ⟨filled, noPoint, noEquals, visible⟩ := shape segment member
    exact ⟨filled, noPoint, noEquals, trimmed_of_all visible⟩

end TokenIndexer.Override
