import TokenIndexer.Proofs.Proto.Grammar
import TokenIndexer.Proofs.Tx.Binary

/-!
Binary transactions one after the other, with fields that are not messages before, between and behind them.
-/

namespace TokenIndexer.Tx.Binary

open Proto

theorem messages?_of_wrapped? {bytes : Bytes} {anys : List Any} (read : wrapped? bytes = some anys) :
    messages? bytes = anys.mapM message? := by
  rw [messages?, read]

theorem wrapped?_append {front : Bytes} {anys : List Any} (read : wrapped? front = some anys)
    (back : Bytes) : wrapped? (front ++ back) = (wrapped? back).map (anys ++ ·) := by
  obtain ⟨fields, whole, unwrapped⟩ := Option.bind_eq_some_iff.1 read
  rw [wrapped?, fields?_append whole, wrapped?]
  cases fields? depthLimit back with
  | none => rfl
  | some more =>
    simp only [Option.map_some, bind, Option.bind_some, List.filter_append, List.mapM_append, unwrapped]
    cases (more.filter fun field => field.number = 1).mapM fun field =>
        field.bytes?.bind Any.ofBytes? with
    | none => rfl
    | some anys' => rfl

/-- The two ways to fail: no wrappers at all, or a payload that is not of its kind. -/
theorem wrapped?_of_messages? {bytes : Bytes} (read : messages? bytes ≠ .error .binaryTx) :
    ∃ anys, wrapped? bytes = some anys := by
  cases wrapped : wrapped? bytes with
  | none =>
    rw [messages?, wrapped] at read
    exact absurd rfl read
  | some anys => exact ⟨anys, rfl⟩

theorem messages?_append {front back : Bytes} {first second : List Message}
    (readFront : messages? front = .ok first) (readBack : messages? back = .ok second) :
    messages? (front ++ back) = .ok (first ++ second) := by
  have wholeFront : messages? front ≠ .error .binaryTx := by simp [readFront]
  have wholeBack : messages? back ≠ .error .binaryTx := by simp [readBack]
  obtain ⟨anys, wrapped⟩ := wrapped?_of_messages? wholeFront
  obtain ⟨others, wrapped'⟩ := wrapped?_of_messages? wholeBack
  have both : wrapped? (front ++ back) = some (anys ++ others) := by
    rw [wrapped?_append wrapped, wrapped', Option.map_some]
  rw [messages?_of_wrapped? wrapped] at readFront
  rw [messages?_of_wrapped? wrapped'] at readBack
  rw [messages?_of_wrapped? both, List.mapM_append, readFront, readBack]
  rfl

/-- Well-formed fields, none of which is a message: varints, words, byte strings, and groups with anything
in them. -/
def Passed (bytes : Bytes) : Prop :=
  ∃ fields outside, Sequence fields bytes ∧ Balanced depthLimit fields outside ∧
    ∀ field ∈ outside, field.number ≠ 1

theorem wrapped?_eq_nil_iff {bytes : Bytes} : wrapped? bytes = some [] ↔ Passed bytes := by
  constructor
  · intro read
    obtain ⟨outside, whole, unwrapped⟩ := Option.bind_eq_some_iff.1 read
    obtain ⟨fields, sequence, balanced⟩ := fields?_eq_some_iff.1 whole
    refine ⟨fields, outside, sequence, balanced, ?_⟩
    have noMessage : (outside.filter fun field => field.number = 1) = [] := by
      cases own : outside.filter fun field => field.number = 1 with
      | nil => rfl
      | cons field rest =>
        rw [own, List.mapM_cons] at unwrapped
        obtain ⟨any, -, later⟩ := Option.bind_eq_some_iff.1 unwrapped
        obtain ⟨anys, -, filled⟩ := Option.bind_eq_some_iff.1 later
        cases filled
    intro field member one
    have own : field ∈ outside.filter fun field => field.number = 1 := by
      simp [member, one]
    rw [noMessage] at own
    cases own
  · rintro ⟨fields, outside, sequence, balanced, others⟩
    have whole : fields? depthLimit bytes = some outside :=
      fields?_eq_some_iff.2 ⟨fields, sequence, balanced⟩
    have noMessage : (outside.filter fun field => field.number = 1) = [] := by
      rw [List.filter_eq_nil_iff]
      intro field member
      simpa using others field member
    rw [wrapped?, whole]
    simp only [bind, Option.bind_some, noMessage]
    rfl

theorem messages?_passed_append {other : Bytes} (passed : Passed other) (bytes : Bytes) :
    messages? (other ++ bytes) = messages? bytes := by
  have behind : wrapped? (other ++ bytes) = wrapped? bytes := by
    rw [wrapped?_append (wrapped?_eq_nil_iff.2 passed)]
    simp
  rw [messages?, messages?, behind]

theorem messages?_append_passed {other : Bytes} (passed : Passed other) {bytes : Bytes}
    (whole : messages? bytes ≠ .error .binaryTx) :
    messages? (bytes ++ other) = messages? bytes := by
  obtain ⟨anys, read⟩ := wrapped?_of_messages? whole
  have before : wrapped? (bytes ++ other) = some anys := by
    rw [wrapped?_append read, wrapped?_eq_nil_iff.2 passed, Option.map_some, List.append_nil]
  rw [messages?_of_wrapped? before, messages?_of_wrapped? read]

/-- Two transactions that are read are read as one; fields that are no messages change nothing in front of
any bytes, and nothing behind a message that ends. -/
theorem messages?_composes :
    (∀ front back first second, messages? front = .ok first → messages? back = .ok second →
      messages? (front ++ back) = .ok (first ++ second)) ∧
    ∀ other, Passed other → ∀ bytes, messages? (other ++ bytes) = messages? bytes ∧
      (messages? bytes ≠ .error .binaryTx → messages? (bytes ++ other) = messages? bytes) := by
  refine ⟨?_, ?_⟩
  · intro front back first second readFront readBack
    exact messages?_append readFront readBack
  · intro other passed bytes
    exact ⟨messages?_passed_append passed bytes, messages?_append_passed passed⟩

/-- A message of an unknown kind, twice; a fee, and a group that holds what would be a message. -/
theorem messages?_twice :
    let tx : Bytes := ofAnys ([.other "x" [] (by decide)].map Sent.any)
    let other : Bytes := [0x12, 0x01, 0xff, 0x2b, 0x0a, 0x00, 0x2c]
    messages? (tx ++ tx) = .ok [.unknown "x", .unknown "x"] ∧
      messages? (other ++ tx) = .ok [.unknown "x"] ∧ messages? (tx ++ other) = .ok [.unknown "x"] := by
  intro tx other
  have read : messages? tx = .ok [.unknown "x"] := messages?_sent (by rw [Short]; decide +kernel)
  have passed : Passed other := by
    refine ⟨[⟨2, .bytes [0xff]⟩, ⟨5, .groupStart⟩, ⟨1, .bytes []⟩, ⟨5, .groupEnd⟩],
      [⟨2, .bytes [0xff]⟩, ⟨5, .groupStart⟩], ?_, ?_, by simp⟩
    · exact scan?_eq_some_iff.1 (by decide +kernel)
    · exact .plain (by simp) (.group (.plain (by simp) .nil) .nil)
  refine ⟨messages?_composes.1 tx tx _ _ read read, ?_, ?_⟩
  · rw [(messages?_composes.2 other passed tx).1, read]
  · rw [(messages?_composes.2 other passed tx).2 (by simp [read]), read]

end TokenIndexer.Tx.Binary
