import TokenIndexer.Json.Document
import TokenIndexer.Proofs.Json.Token

/-!
JSON documents are read back: the tokens of a value, read where a value is due, hand that value to the
innermost open container.
-/

namespace TokenIndexer.Json

open Token

def Token.begins : Token → Bool
  | .closeArray => false
  | .closeObject => false
  | .comma => false
  | .colon => false
  | _ => true

theorem tokens_shape (j : Json) : ∃ token rest, j.tokens = token :: rest ∧ token.begins = true := by
  cases j with
  | array items => cases items <;> exact ⟨_, _, rfl, rfl⟩
  | object members => cases members <;> exact ⟨_, _, rfl, rfl⟩
  | _ => exact ⟨_, _, rfl, rfl⟩

/-! What stands in front of the first item or member, and of every further one. -/

theorem array_tokens_append (item : Json) (items : List Json) (rest : List Token) :
    (array (item :: items)).tokens ++ rest = .openArray :: (item.tokens ++ (itemTokens items ++ rest)) := by
  simp [tokens]

theorem itemTokens_append (item : Json) (items : List Json) (rest : List Token) :
    itemTokens (item :: items) ++ rest = .comma :: (item.tokens ++ (itemTokens items ++ rest)) := by
  simp [itemTokens]

theorem object_tokens_append (key : Literal) (value : Json) (members : List (Literal × Json))
    (rest : List Token) :
    (object ((key, value) :: members)).tokens ++ rest =
      .openObject :: .string key :: .colon :: (value.tokens ++ (memberTokens members ++ rest)) := by
  simp [tokens]

theorem memberTokens_append (key : Literal) (value : Json) (members : List (Literal × Json))
    (rest : List Token) :
    memberTokens ((key, value) :: members) ++ rest =
      .comma :: .string key :: .colon :: (value.tokens ++ (memberTokens members ++ rest)) := by
  simp [memberTokens]

namespace Reading

/-- An array may have its first item where it may also be closed. -/
theorem run_first_item (items : List Json) (outer : List Frame) (item : Json) (rest : List Token) :
    run ⟨.array items :: outer, .first⟩ (item.tokens ++ rest) =
      run ⟨.array items :: outer, .value⟩ (item.tokens ++ rest) := by
  obtain ⟨token, more, shape, begins⟩ := tokens_shape item
  rw [shape, List.cons_append, run, run]
  cases token <;> first | rfl | cases begins

mutual

/-- The innermost open container takes the value whose tokens stand where a value is due. -/
theorem run_tokens (frames : List Frame) (rest : List Token) :
    (j : Json) → run ⟨frames, .value⟩ (j.tokens ++ rest) = (complete j frames).bind (run · rest)
  | .null => rfl
  | .bool _ => rfl
  | .number _ => rfl
  | .string _ => rfl
  | .array [] => rfl
  | .array (item :: items) => by
    rw [array_tokens_append]
    change run ⟨.array [] :: frames, .first⟩ (item.tokens ++ (itemTokens items ++ rest)) = _
    rw [run_first_item, run_tokens (.array [] :: frames) _ item]
    exact run_itemTokens [item] frames rest items
  | .object [] => rfl
  | .object ((key, value) :: members) => by
    rw [object_tokens_append]
    change run ⟨.member [] key :: frames, .value⟩ (value.tokens ++ (memberTokens members ++ rest)) = _
    rw [run_tokens (.member [] key :: frames) _ value]
    exact run_memberTokens [(key, value)] frames rest members

theorem run_itemTokens (done : List Json) (frames : List Frame) (rest : List Token) :
    (items : List Json) → run ⟨.array done :: frames, .comma⟩ (itemTokens items ++ rest) =
      (complete (.array (done.reverse ++ items)) frames).bind (run · rest)
  | [] => by
    rw [itemTokens, List.append_nil]
    rfl
  | item :: items => by
    rw [itemTokens_append]
    change run ⟨.array done :: frames, .value⟩ (item.tokens ++ (itemTokens items ++ rest)) = _
    rw [run_tokens (.array done :: frames) _ item]
    change run ⟨.array (item :: done) :: frames, .comma⟩ (itemTokens items ++ rest) = _
    rw [run_itemTokens (item :: done) frames rest items, List.reverse_cons, List.append_assoc,
      List.singleton_append]

theorem run_memberTokens (done : List (Literal × Json)) (frames : List Frame) (rest : List Token) :
    (members : List (Literal × Json)) →
      run ⟨.object done :: frames, .comma⟩ (memberTokens members ++ rest) =
        (complete (.object (done.reverse ++ members)) frames).bind (run · rest)
  | [] => by
    rw [memberTokens, List.append_nil]
    rfl
  | (key, value) :: members => by
    rw [memberTokens_append]
    change run ⟨.member done key :: frames, .value⟩ (value.tokens ++ (memberTokens members ++ rest)) = _
    rw [run_tokens (.member done key :: frames) _ value]
    change run ⟨.object ((key, value) :: done) :: frames, .comma⟩ (memberTokens members ++ rest) = _
    rw [run_memberTokens ((key, value) :: done) frames rest members, List.reverse_cons,
      List.append_assoc, List.singleton_append]

end

end Reading

theorem ofTokens?_tokens (j : Json) : ofTokens? j.tokens = some j := by
  have read := Reading.run_tokens [] [] j
  rw [List.append_nil] at read
  rw [ofTokens?, read]
  rfl

/-! ### No two numbers side by side -/

theorem delimited_cons {token : Token} {rest : List Token} (other : token.isNumber = false)
    (delimited : Delimited rest) : Delimited (token :: rest) :=
  ⟨fun number => absurd number (by simp [other]), delimited⟩

theorem isNumber_itemTokens (items : List Json) (rest : List Token) :
    ∀ next ∈ (itemTokens items ++ rest).head?, next.isNumber = false := by
  cases items <;> (rintro next ⟨⟩; rfl)

theorem isNumber_memberTokens (members : List (Literal × Json)) (rest : List Token) :
    ∀ next ∈ (memberTokens members ++ rest).head?, next.isNumber = false := by
  rcases members with _ | ⟨⟨key, value⟩, members⟩ <;> (rintro next ⟨⟩; rfl)

mutual

theorem delimited_tokens {rest : List Token} (other : ∀ next ∈ rest.head?, next.isNumber = false)
    (delimited : Delimited rest) : (j : Json) → Delimited (j.tokens ++ rest)
  | .null => delimited_cons rfl delimited
  | .bool _ => delimited_cons rfl delimited
  | .number _ => ⟨fun _ => other, delimited⟩
  | .string _ => delimited_cons rfl delimited
  | .array [] => delimited_cons rfl (delimited_cons rfl delimited)
  | .array (item :: items) => by
    rw [array_tokens_append]
    apply delimited_cons rfl
    exact delimited_tokens (isNumber_itemTokens items rest) (delimited_itemTokens delimited items) item
  | .object [] => delimited_cons rfl (delimited_cons rfl delimited)
  | .object ((key, value) :: members) => by
    rw [object_tokens_append]
    apply delimited_cons rfl
    apply delimited_cons rfl
    apply delimited_cons rfl
    exact delimited_tokens (isNumber_memberTokens members rest) (delimited_memberTokens delimited members)
      value

theorem delimited_itemTokens {rest : List Token} (delimited : Delimited rest) :
    (items : List Json) → Delimited (itemTokens items ++ rest)
  | [] => delimited_cons rfl delimited
  | item :: items => by
    rw [itemTokens_append]
    apply delimited_cons rfl
    exact delimited_tokens (isNumber_itemTokens items rest) (delimited_itemTokens delimited items) item

theorem delimited_memberTokens {rest : List Token} (delimited : Delimited rest) :
    (members : List (Literal × Json)) → Delimited (memberTokens members ++ rest)
  | [] => delimited_cons rfl delimited
  | (key, value) :: members => by
    rw [memberTokens_append]
    apply delimited_cons rfl
    apply delimited_cons rfl
    apply delimited_cons rfl
    exact delimited_tokens (isNumber_memberTokens members rest) (delimited_memberTokens delimited members)
      value

end

/-! ### Documents -/

/-- A value whose literals all spell texts, and whose numbers hold decimal digits. -/
def Writable (j : Json) : Prop := ∀ token ∈ j.tokens, token.Writable

instance : DecidablePred Writable := fun j =>
  inferInstanceAs (Decidable (∀ token ∈ j.tokens, token.Writable))

/-- A document with white space in front of each of its tokens and after the last. -/
def spaced (gap : Nat → Gap) (j : Json) : Bytes := Token.spaced gap j.tokens

theorem spaced_none (j : Json) : j.spaced (fun _ => .none) = j.render := Token.spaced_none j.tokens

/-- A document is read back however it is spaced. -/
theorem parse?_spaced (gap : Nat → Gap) {j : Json} (writable : j.Writable) :
    parse? (j.spaced gap) = some j := by
  have delimited : Delimited j.tokens := by
    have nothing : Delimited [] := trivial
    have whole := delimited_tokens (by simp) nothing j
    rwa [List.append_nil] at whole
  rw [parse?, spaced, ofBytes?_spaced gap delimited writable, Option.bind_some, ofTokens?_tokens]

theorem parse?_render {j : Json} (writable : j.Writable) : parse? j.render = some j := by
  rw [← spaced_none]
  exact parse?_spaced _ writable

/-! ### Which values are writable -/

theorem writable_null : null.Writable := by
  intro token member
  cases List.mem_singleton.1 member
  trivial

theorem writable_text (s : String) : (text s).Writable := by
  intro token member
  cases List.mem_singleton.1 member
  rfl

theorem writable_int (n : Int) : (int n).Writable := by
  intro token member
  cases List.mem_singleton.1 member
  exact fun d inside => nomatch inside

theorem writable_nat (n : Nat) : (nat n).Writable := by
  intro token member
  cases List.mem_singleton.1 member
  exact fun d inside => nomatch inside

theorem writable_itemTokens {items : List Json} (each : ∀ item ∈ items, item.Writable) :
    ∀ token ∈ itemTokens items, token.Writable := by
  induction items with
  | nil => simp [itemTokens, Token.Writable]
  | cons item items ih =>
    obtain ⟨first, others⟩ := List.forall_mem_cons.1 each
    rw [← List.append_nil (itemTokens _), itemTokens_append, List.append_nil]
    simp only [List.forall_mem_cons, List.forall_mem_append]
    exact ⟨trivial, first, ih others⟩

theorem writable_array {items : List Json} (each : ∀ item ∈ items, item.Writable) :
    (array items).Writable := by
  cases items with
  | nil => simp [Writable, tokens, Token.Writable]
  | cons item items =>
    obtain ⟨first, others⟩ := List.forall_mem_cons.1 each
    rw [Writable, ← List.append_nil (tokens _), array_tokens_append, List.append_nil]
    simp only [List.forall_mem_cons, List.forall_mem_append]
    exact ⟨trivial, first, writable_itemTokens others⟩

theorem writable_memberTokens {members : List (Literal × Json)}
    (each : ∀ member ∈ members, member.1.isSome = true ∧ member.2.Writable) :
    ∀ token ∈ memberTokens members, token.Writable := by
  induction members with
  | nil => simp [memberTokens, Token.Writable]
  | cons member members ih =>
    obtain ⟨key, value⟩ := member
    obtain ⟨⟨spelled, first⟩, others⟩ := List.forall_mem_cons.1 each
    rw [← List.append_nil (memberTokens _), memberTokens_append, List.append_nil]
    simp only [List.forall_mem_cons, List.forall_mem_append]
    exact ⟨trivial, spelled, trivial, first, ih others⟩

theorem writable_object {members : List (Literal × Json)}
    (each : ∀ member ∈ members, member.1.isSome = true ∧ member.2.Writable) :
    (object members).Writable := by
  cases members with
  | nil => simp [Writable, tokens, Token.Writable]
  | cons member members =>
    obtain ⟨key, value⟩ := member
    obtain ⟨⟨spelled, first⟩, others⟩ := List.forall_mem_cons.1 each
    rw [Writable, ← List.append_nil (tokens _), object_tokens_append, List.append_nil]
    simp only [List.forall_mem_cons, List.forall_mem_append]
    exact ⟨trivial, spelled, trivial, first, writable_memberTokens others⟩

theorem writable_obj {members : List (String × Json)} (each : ∀ member ∈ members, member.2.Writable) :
    (obj members).Writable := by
  apply writable_object
  intro member inside
  obtain ⟨named, original, rfl⟩ := List.mem_map.1 inside
  exact ⟨rfl, each named original⟩

end TokenIndexer.Json
