import TokenIndexer.Proofs.Json.Document

namespace TokenIndexer.Json

open Token

namespace Reading

def Finishes (reading : Option Reading) (tokens : List Token) (document : Json) : Prop :=
  ∃ frames, reading.bind (run · tokens) = some ⟨frames, .nothing document⟩

theorem Finishes.step {reading : Reading} {token : Token} {tokens : List Token} {document : Json}
    (finishes : Finishes (some reading) (token :: tokens) document) :
    Finishes (reading.step token) tokens document :=
  finishes

theorem not_finishes_none {tokens : List Token} {document : Json} :
    ¬ Finishes none tokens document := by
  rintro ⟨frames, read⟩
  cases read

theorem Finishes.cons {reading : Reading} {tokens : List Token} {document : Json}
    (finishes : Finishes (some reading) tokens document)
    (waits : ∀ document, reading.awaiting ≠ .nothing document) :
    ∃ token rest, tokens = token :: rest ∧ Finishes (reading.step token) rest document := by
  cases tokens with
  | nil =>
    obtain ⟨frames, read⟩ := finishes
    cases read
    exact absurd rfl (waits document)
  | cons token rest => exact ⟨token, rest, rfl, finishes⟩

variable {document : Json}

theorem Finishes.key {tokens : List Token} {done : List (Literal × Json)} {frames : List Frame}
    (finishes : Finishes (some ⟨.object done :: frames, .key⟩) tokens document) :
    ∃ key rest, tokens = .string key :: .colon :: rest ∧
      Finishes (some ⟨.member done key :: frames, .value⟩) rest document := by
  obtain ⟨token, rest, rfl, named⟩ := finishes.cons (by simp)
  cases token with
  | string key =>
    change Finishes (some ⟨.member done key :: frames, .colon⟩) rest document at named
    obtain ⟨next, rest, rfl, opened⟩ := named.cons (by simp)
    cases next with
    | colon => exact ⟨key, rest, rfl, opened⟩
    | _ => exact absurd opened not_finishes_none
  | _ => exact absurd named not_finishes_none

theorem Finishes.firstItem {token : Token} {tokens : List Token} {frames : List Frame}
    (finishes : Finishes (Reading.step ⟨.array [] :: frames, .first⟩ token) tokens document)
    (filled : token ≠ .closeArray) :
    Finishes (some ⟨.array [] :: frames, .value⟩) (token :: tokens) document := by
  have same : Reading.step ⟨.array [] :: frames, .first⟩ token =
      Reading.step ⟨.array [] :: frames, .value⟩ token := by
    cases token <;> first | rfl | contradiction
  rw [same] at finishes
  exact finishes

theorem Finishes.firstKey {token : Token} {tokens : List Token} {frames : List Frame}
    (finishes : Finishes (Reading.step ⟨.object [] :: frames, .first⟩ token) tokens document)
    (filled : token ≠ .closeObject) :
    Finishes (some ⟨.object [] :: frames, .key⟩) (token :: tokens) document := by
  have same : Reading.step ⟨.object [] :: frames, .first⟩ token =
      Reading.step ⟨.object [] :: frames, .key⟩ token := by
    cases token <;> first | rfl | contradiction
  rw [same] at finishes
  exact finishes

mutual

/-- Where a value is due, the tokens of one stand, and it goes to the innermost open container. -/
theorem value_of_finishes (tokens : List Token) (frames : List Frame)
    (finishes : Finishes (some ⟨frames, .value⟩) tokens document) :
    ∃ value rest, tokens = value.tokens ++ rest ∧ Finishes (complete value frames) rest document := by
  obtain ⟨token, rest, rfl, begun⟩ := finishes.cons (by simp)
  cases token with
  | null => exact ⟨.null, rest, rfl, begun⟩
  | bool b => exact ⟨.bool b, rest, rfl, begun⟩
  | number n => exact ⟨.number n, rest, rfl, begun⟩
  | string text => exact ⟨.string text, rest, rfl, begun⟩
  | openArray =>
    change Finishes (some ⟨.array [] :: frames, .first⟩) rest document at begun
    obtain ⟨token, inside, rfl, first⟩ := begun.cons (by simp)
    by_cases closes : token = .closeArray
    · subst closes
      exact ⟨.array [], inside, rfl, first⟩
    · obtain ⟨item, others, shape, taken⟩ :=
        value_of_finishes (token :: inside) (.array [] :: frames) (first.firstItem closes)
      have shorter : others.length ≤ (token :: inside).length := by simp [shape]
      obtain ⟨items, behind, rfl, closed⟩ := items_of_finishes others [item] frames taken
      refine ⟨.array (item :: items), behind, ?_, closed⟩
      rw [array_tokens_append, ← shape]
  | openObject =>
    change Finishes (some ⟨.object [] :: frames, .first⟩) rest document at begun
    obtain ⟨token, inside, rfl, first⟩ := begun.cons (by simp)
    by_cases closes : token = .closeObject
    · subst closes
      exact ⟨.object [], inside, rfl, first⟩
    · obtain ⟨key, content, shape, opened⟩ := (first.firstKey closes).key
      have lengths := congrArg List.length shape
      obtain ⟨value, others, rfl, taken⟩ := value_of_finishes content (.member [] key :: frames) opened
      obtain ⟨members, behind, rfl, closed⟩ := members_of_finishes others [(key, value)] frames taken
      refine ⟨.object ((key, value) :: members), behind, ?_, closed⟩
      rw [object_tokens_append, shape]
  | closeArray => exact absurd begun not_finishes_none
  | closeObject => exact absurd begun not_finishes_none
  | comma => exact absurd begun not_finishes_none
  | colon => exact absurd begun not_finishes_none
termination_by tokens.length
decreasing_by all_goals grind

theorem items_of_finishes (tokens : List Token) (done : List Json) (frames : List Frame)
    (finishes : Finishes (some ⟨.array done :: frames, .comma⟩) tokens document) :
    ∃ items rest, tokens = itemTokens items ++ rest ∧
      Finishes (complete (.array (done.reverse ++ items)) frames) rest document := by
  obtain ⟨token, rest, rfl, next⟩ := finishes.cons (by simp)
  cases token with
  | closeArray =>
    refine ⟨[], rest, rfl, ?_⟩
    rw [List.append_nil]
    exact next
  | comma =>
    obtain ⟨item, others, rfl, taken⟩ := value_of_finishes rest (.array done :: frames) next
    obtain ⟨items, behind, rfl, closed⟩ := items_of_finishes others (item :: done) frames taken
    refine ⟨item :: items, behind, (itemTokens_append ..).symm, ?_⟩
    rw [List.reverse_cons, List.append_assoc, List.singleton_append] at closed
    exact closed
  | _ => exact absurd next not_finishes_none
termination_by tokens.length
decreasing_by all_goals grind

theorem members_of_finishes (tokens : List Token) (done : List (Literal × Json)) (frames : List Frame)
    (finishes : Finishes (some ⟨.object done :: frames, .comma⟩) tokens document) :
    ∃ members rest, tokens = memberTokens members ++ rest ∧
      Finishes (complete (.object (done.reverse ++ members)) frames) rest document := by
  obtain ⟨token, rest, rfl, next⟩ := finishes.cons (by simp)
  cases token with
  | closeObject =>
    refine ⟨[], rest, rfl, ?_⟩
    rw [List.append_nil]
    exact next
  | comma =>
    change Finishes (some ⟨.object done :: frames, .key⟩) rest document at next
    obtain ⟨key, content, rfl, opened⟩ := next.key
    obtain ⟨value, others, rfl, taken⟩ := value_of_finishes content (.member done key :: frames) opened
    obtain ⟨members, behind, rfl, closed⟩ := members_of_finishes others ((key, value) :: done) frames taken
    refine ⟨(key, value) :: members, behind, (memberTokens_append ..).symm, ?_⟩
    rw [List.reverse_cons, List.append_assoc, List.singleton_append] at closed
    exact closed
  | _ => exact absurd next not_finishes_none
termination_by tokens.length
decreasing_by all_goals grind

end

end Reading

/-- A document is its tokens, and has no others. -/
theorem ofTokens?_eq_some_iff {tokens : List Token} {document : Json} :
    ofTokens? tokens = some document ↔ tokens = document.tokens := by
  constructor
  · intro read
    have finishes : Reading.Finishes (some ⟨[], .value⟩) tokens document := by
      unfold ofTokens? at read
      split at read
      · next frames document ran =>
        cases read
        exact ⟨frames, ran⟩
      · cases read
    obtain ⟨value, rest, rfl, frames, ran⟩ := Reading.value_of_finishes tokens [] finishes
    cases rest with
    | nil =>
      cases ran
      rw [List.append_nil]
    | cons token rest => cases ran
  · rintro rfl
    exact ofTokens?_tokens document

/-! ### How the bytes of a document start -/

namespace Token

theorem prefix_of_ofBytesFrom {read tokens : List Token} {bytes : Bytes}
    (found : ofBytesFrom read bytes = some tokens) : read.reverse <+: tokens := by
  fun_induction ofBytesFrom read bytes with
  | case1 read =>
    cases found
    exact List.prefix_rfl
  | case2 read b rest blank ih => exact ih found
  | case3 => cases found
  | case4 read b rest seen token rest' _ _ ih =>
    have longer := ih found
    rw [List.reverse_cons] at longer
    exact (List.prefix_append _ _).trans longer

theorem first_of_ofBytes? {bytes : Bytes} {token : Token} {tokens : List Token}
    (found : ofBytes? bytes = some (token :: tokens)) :
    ∃ (gap : Gap) (b : UInt8) (rest rest' : Bytes),
      bytes = gap.bytes ++ b :: rest ∧ next? b rest = some (token, rest') := by
  induction bytes with
  | nil =>
    rw [ofBytes?, ofBytesFrom] at found
    cases found
  | cons b rest ih =>
    rw [ofBytes?] at found ih
    cases blank : isBlankByte b with
    | true =>
      rw [ofBytesFrom_blank blank] at found
      obtain ⟨gap, c, more, rest', rfl, next⟩ := ih found
      refine ⟨⟨b :: gap.bytes, ?_⟩, c, more, rest', rfl, next⟩
      exact List.forall_mem_cons.2 ⟨blank, gap.blank⟩
    | false =>
      cases next : next? b rest with
      | none =>
        rw [ofBytesFrom_stuck blank next] at found
        cases found
      | some result =>
        obtain ⟨first, rest'⟩ := result
        rw [ofBytesFrom_token blank next] at found
        have front := prefix_of_ofBytesFrom found
        rw [List.reverse_singleton] at front
        obtain ⟨rfl, -⟩ := List.cons_prefix_cons.1 front
        exact ⟨.none, b, rest, rest', rfl, next⟩

theorem brace_of_next? {b : UInt8} {rest rest' : Bytes}
    (found : next? b rest = some (.openObject, rest')) : b = 0x7b := by
  unfold next? at found
  split at found
  · cases found
  split at found
  · cases found
  split at found
  · next same => exact eq_of_beq same
  -- No token of another kind is an opening brace.
  repeat' split at found
  all_goals simp at found

end Token

theorem brace_of_parse? {bytes : Bytes} {members : List (Literal × Json)}
    (parsed : parse? bytes = some (.object members)) :
    ∃ (gap : Gap) (rest : Bytes), bytes = gap.bytes ++ 0x7b :: rest := by
  obtain ⟨tokens, read, document⟩ := Option.bind_eq_some_iff.1 parsed
  rw [ofTokens?_eq_some_iff] at document
  obtain ⟨more, opens⟩ : ∃ more, tokens = .openObject :: more := by
    subst document
    cases members with
    | nil => exact ⟨_, rfl⟩
    | cons member members => exact ⟨_, rfl⟩
  subst opens
  obtain ⟨gap, b, rest, rest', rfl, next⟩ := first_of_ofBytes? read
  rw [brace_of_next? next]
  exact ⟨gap, rest, rfl⟩

end TokenIndexer.Json
