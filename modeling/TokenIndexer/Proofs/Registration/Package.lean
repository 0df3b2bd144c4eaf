import Mathlib.Data.List.Infix
import TokenIndexer.Registration.Package

/-!
Replacing takes a text to pieces and joins them by something else, which is not looked at again. So the source
of a registration package is five fixed texts with the path between them.
-/

namespace TokenIndexer.Replace

variable {pattern replacement text piece : List Char}

def piecesAfter (pattern : List Char) : Nat → List Char → List (List Char)
  | _, [] => [[]]
  | skip + 1, _ :: cs => piecesAfter pattern skip cs
  | 0, c :: cs =>
    if pattern <+: c :: cs then [] :: piecesAfter pattern (pattern.length - 1) cs
    else (piecesAfter pattern 0 cs).modifyHead (c :: ·)

/-- What stands between the occurrences of a pattern in a text. -/
def pieces (pattern text : List Char) : List (List Char) := piecesAfter pattern 0 text

theorem piecesAfter_ne_nil (pattern : List Char) (skip : Nat) (text : List Char) :
    piecesAfter pattern skip text ≠ [] := by
  fun_induction piecesAfter pattern skip text with
  | case1 => simp
  | case2 skip c cs ih => exact ih
  | case3 => simp
  | case4 c cs _ ih =>
    cases found : piecesAfter pattern 0 cs with
    | nil => exact absurd found ih
    | cons first others => simp

theorem intercalate_modifyHead_cons {pieces : List (List Char)} (some_piece : pieces ≠ []) (c : Char)
    (separator : List Char) :
    separator.intercalate (pieces.modifyHead (c :: ·)) = c :: separator.intercalate pieces := by
  rcases pieces with _ | ⟨first, _ | ⟨second, others⟩⟩
  · exact absurd rfl some_piece
  · simp
  · simp

theorem after_eq_intercalate (pattern replacement : List Char) (skip : Nat) (text : List Char) :
    after pattern replacement skip text = replacement.intercalate (piecesAfter pattern skip text) := by
  fun_induction piecesAfter pattern skip text with
  | case1 => simp [after]
  | case2 skip c cs ih => rw [after, ih]
  | case3 c cs starts ih =>
    rw [after, if_pos starts, ih, List.intercalate_cons_of_ne_nil (piecesAfter_ne_nil _ _ _)]
    rfl
  | case4 c cs other ih =>
    rw [after, if_neg other, ih, intercalate_modifyHead_cons (piecesAfter_ne_nil _ _ _)]

theorem all_eq_intercalate (pattern replacement text : List Char) :
    all pattern replacement text = replacement.intercalate (pieces pattern text) :=
  after_eq_intercalate pattern replacement 0 text

theorem after_self (nonempty : pattern ≠ []) (skip : Nat) (text : List Char) :
    after pattern pattern skip text = text.drop skip := by
  fun_induction after pattern pattern skip text with
  | case1 => exact List.drop_nil.symm
  | case2 skip c cs ih => rw [ih, List.drop_succ_cons]
  | case3 c cs starts ih =>
    obtain ⟨first, rest, rfl⟩ := List.exists_cons_of_ne_nil nonempty
    obtain ⟨more, whole⟩ := starts
    obtain ⟨rfl, rfl⟩ := List.cons.inj whole
    rw [ih]
    simp
  | case4 c cs other ih => rw [ih, List.drop_zero, List.drop_zero]

theorem intercalate_piecesAfter (nonempty : pattern ≠ []) (skip : Nat) (text : List Char) :
    pattern.intercalate (piecesAfter pattern skip text) = text.drop skip := by
  rw [← after_eq_intercalate, after_self nonempty]

theorem intercalate_pieces (nonempty : pattern ≠ []) (text : List Char) :
    pattern.intercalate (pieces pattern text) = text := intercalate_piecesAfter nonempty 0 text

theorem prefix_intercalate (separator first : List Char) (others : List (List Char)) :
    first <+: separator.intercalate (first :: others) := by
  rcases others with _ | ⟨second, others⟩
  · simp
  · rw [List.intercalate_cons_cons, List.append_assoc]
    exact List.prefix_append _ _

theorem not_infix_of_mem_piecesAfter (nonempty : pattern ≠ []) {skip : Nat}
    (member : piece ∈ piecesAfter pattern skip text) : ¬ pattern <:+: piece := by
  have not_nil : ¬ pattern <:+: [] := fun inside => nonempty (List.infix_nil.1 inside)
  fun_induction piecesAfter pattern skip text generalizing piece with
  | case1 =>
    rw [List.mem_singleton.1 member]
    exact not_nil
  | case2 skip c cs ih => exact ih member
  | case3 c cs _ ih =>
    rcases List.mem_cons.1 member with rfl | later
    · exact not_nil
    · exact ih later
  | case4 c cs other ih =>
    cases found : piecesAfter pattern 0 cs with
    | nil => exact absurd found (piecesAfter_ne_nil _ _ _)
    | cons first others =>
      rw [found] at ih member
      rcases List.mem_cons.1 member with rfl | later
      · -- An occurrence at the very start would have been one of the text.
        have starts : first <+: cs := by
          have whole := intercalate_piecesAfter nonempty 0 cs
          rw [found, List.drop_zero] at whole
          exact whole ▸ prefix_intercalate pattern first others
        intro inside
        rcases List.infix_cons_iff.1 inside with here | further
        · exact other (here.trans ((List.prefix_cons_inj c).2 starts))
        · exact ih List.mem_cons_self further
      · exact ih (List.mem_cons_of_mem _ later)

theorem not_infix_of_mem_pieces (nonempty : pattern ≠ []) (member : piece ∈ pieces pattern text) :
    ¬ pattern <:+: piece := not_infix_of_mem_piecesAfter nonempty member

/-! ### What stands between pieces can be told from the whole -/

theorem length_intercalate (separator first : List Char) (others : List (List Char)) :
    (separator.intercalate (first :: others)).length =
      (first :: others).flatten.length + others.length * separator.length := by
  induction others generalizing first with
  | nil => simp
  | cons second others ih =>
    rw [List.intercalate_cons_cons, List.length_append, List.length_append, ih]
    simp only [List.flatten_cons, List.length_append, List.length_cons, Nat.add_mul]
    omega

theorem separator_eq_of_intercalate_eq {pieces : List (List Char)} (several : 2 ≤ pieces.length)
    {separator other : List Char} (same : separator.intercalate pieces = other.intercalate pieces) :
    separator = other := by
  rcases pieces with _ | ⟨first, _ | ⟨second, others⟩⟩
  · simp at several
  · simp at several
  · have lengths := congrArg List.length same
    rw [length_intercalate, length_intercalate, Nat.add_left_cancel_iff] at lengths
    have long : separator.length = other.length := Nat.eq_of_mul_eq_mul_left (by simp) lengths
    rw [List.intercalate_cons_cons, List.intercalate_cons_cons, List.append_assoc, List.append_assoc] at same
    exact (List.append_inj (List.append_cancel_left same) long).1

end TokenIndexer.Replace

namespace TokenIndexer.Registration

def parts : List String :=
  ["package token_register\n\nimport (\n\ttoken \"",
    "\"\n\n\tpusers \"gno.land/p/demo/users\"\n\n" ++
      "\tpl \"gno.land/r/demo/pool\"\n\trr \"gno.land/r/demo/router\"\n\tsr \"gno.land/r/demo/staker\"\n)\n\n" ++
      "type NewToken struct\x7b\x7d\n\n" ++
      "func (NewToken) Transfer() func(to pusers.AddressOrName, amount uint64) \x7b\n" ++
      "\treturn token.Transfer\n\x7d\n\n" ++
      "func (NewToken) TransferFrom() func(from, to pusers.AddressOrName, amount uint64) \x7b\n" ++
      "\treturn token.TransferFrom\n\x7d\n\n" ++
      "func (NewToken) BalanceOf() func(owner pusers.AddressOrName) uint64 \x7b\n" ++
      "\treturn token.BalanceOf\n\x7d\n\n" ++
      "func (NewToken) Approve() func(spender pusers.AddressOrName, amount uint64) \x7b\n" ++
      "\treturn token.Approve\n\x7d\n\n" ++
      "func init() \x7b\n\tpl.RegisterGRC20Interface(\"",
    "\", NewToken\x7b\x7d)\n\trr.RegisterGRC20Interface(\"",
    "\", NewToken\x7b\x7d)\n\tsr.RegisterGRC20Interface(\"",
    "\", NewToken\x7b\x7d)\n\x7d\n"]

theorem placeholder_ne_nil : placeholder.toList ≠ [] := by
  rw [placeholder, String.toList_ofList]
  exact List.cons_ne_nil _ _

theorem pieces_template : Replace.pieces placeholder.toList template = parts.map String.toList := by
  simp only [template, templateLines, List.flatMap_cons, List.flatMap_nil, parts, List.map_cons,
    List.map_nil, String.toList_append, placeholder]
  -- A literal is the text of its characters, so none of them has to be decoded from bytes.
  repeat rw [String.toList_ofList]
  decide +kernel

theorem toList_intercalate_parts (path : String) :
    (path.intercalate parts).toList =
      path.toList.intercalate (Replace.pieces placeholder.toList template) := by
  rw [String.toList_intercalate, pieces_template]

theorem source_eq_intercalate (packagePath : String) :
    source packagePath = packagePath.intercalate parts := by
  rw [← String.toList_inj, toList_intercalate_parts, source, String.toList_ofList, Replace.all_eq_intercalate]

theorem template_eq_intercalate : String.ofList template = placeholder.intercalate parts := by
  rw [← String.toList_inj, toList_intercalate_parts, String.toList_ofList,
    Replace.intercalate_pieces placeholder_ne_nil]

/-- A path that is the placeholder is not expanded. -/
example : source placeholder = String.ofList template := by
  rw [source_eq_intercalate, template_eq_intercalate]

theorem placeholder_not_infix {part : String} (member : part ∈ parts) :
    ¬ placeholder.toList <:+: part.toList := by
  apply Replace.not_infix_of_mem_pieces placeholder_ne_nil
  rw [pieces_template]
  exact List.mem_map_of_mem member

theorem source_injective : Function.Injective source := by
  intro one other same
  rw [source_eq_intercalate, source_eq_intercalate] at same
  have texts := congrArg String.toList same
  rw [String.toList_intercalate, String.toList_intercalate] at texts
  exact String.toList_inj.1 (Replace.separator_eq_of_intercalate_eq (by decide) texts)

/-- The path stands in all places of the placeholder and nothing else is changed, also where it holds the
placeholder itself or makes one up together with what stands beside it. -/
theorem path_between_parts :
    parts.length = 5 ∧ String.ofList template = placeholder.intercalate parts ∧
      (∀ part ∈ parts, ¬ placeholder.toList <:+: part.toList) ∧
        (∀ packagePath, source packagePath = packagePath.intercalate parts) ∧
          Function.Injective source :=
  ⟨rfl, template_eq_intercalate, fun _ => placeholder_not_infix, source_eq_intercalate, source_injective⟩

end TokenIndexer.Registration
