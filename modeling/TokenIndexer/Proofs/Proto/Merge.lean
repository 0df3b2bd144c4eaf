import TokenIndexer.Proofs.Proto.Field

/-!
Messages read field by field: a value is read back when each part that is written takes the reader one step
further.
-/

namespace TokenIndexer.Proto

/-- Lengths are words of 64 bits, and no byte string that a machine holds is longer. -/
def Short (bytes : Bytes) : Prop := bytes.length < 2 ^ 64

theorem Short.of_le {bytes other : Bytes} (short : Short bytes) (le : other.length ≤ bytes.length) :
    Short other :=
  Nat.lt_of_le_of_lt le short

theorem Short.left {front back : Bytes} (short : Short (front ++ back)) : Short front :=
  short.of_le (by simp)

theorem Short.right {front back : Bytes} (short : Short (front ++ back)) : Short back :=
  short.of_le (by simp)

theorem Short.content {number : Nat} {content : Bytes} (short : Short (bytesField number content)) :
    Short content :=
  Short.right short

theorem Short.contentUnlessEmpty {number : Nat} {content : Bytes}
    (short : Short (bytesFieldUnlessEmpty number content)) : Short content := by
  rw [bytesFieldUnlessEmpty] at short
  split at short
  · next empty =>
    rw [empty]
    exact short
  · exact short.content

@[simp] theorem Field.text?_encode (number : Nat) (text : String) :
    Field.text? ⟨number, .bytes (Utf8.encode text)⟩ = some text := Utf8.decode?_encode text

@[simp] theorem Field.bytes?_bytes (number : Nat) (content : Bytes) :
    Field.bytes? ⟨number, .bytes content⟩ = some content := rfl

variable {α β : Type} {merge : α → Field → Option α} {limit number : Nat} {a b c : α}

/-- Taken into `a` one after the other, the fields that are written there make `b` of it. -/
def Merges (merge : α → Field → Option α) (limit : Nat) (bytes : Bytes) (a b : α) : Prop :=
  Short bytes → ∃ fields, fields? limit bytes = some fields ∧ fields.foldlM merge a = some b

namespace Merges

theorem read {bytes : Bytes} (merges : Merges merge limit bytes a b) (short : Short bytes) :
    ((fields? limit bytes).bind fun fields => fields.foldlM merge a) = some b := by
  obtain ⟨fields, read, folded⟩ := merges short
  rw [read, Option.bind_some, folded]

theorem nil : Merges merge limit [] a a := by
  intro _
  exact ⟨[], fields?_nil limit, rfl⟩

theorem trans {front back : Bytes} (first : Merges merge limit front a b)
    (second : Merges merge limit back b c) : Merges merge limit (front ++ back) a c := by
  intro short
  obtain ⟨fields, read, folded⟩ := first short.left
  obtain ⟨fields', read', folded'⟩ := second short.right
  refine ⟨fields ++ fields', ?_, ?_⟩
  · rw [fields?_append read, read', Option.map_some]
  · rw [List.foldlM_append, folded]
    exact folded'

theorem repeated {write : β → Bytes} (put : List β → α)
    (each : ∀ before value, Merges merge limit (write value) (put before) (put (before ++ [value])))
    (values : List β) : Merges merge limit (values.flatMap write) (put []) (put values) := by
  suffices general : ∀ before,
      Merges merge limit (values.flatMap write) (put before) (put (before ++ values)) from general []
  induction values with
  | nil =>
    intro before
    rw [List.append_nil]
    exact nil
  | cons value rest ih =>
    intro before
    have later := ih (before ++ [value])
    rw [List.append_assoc, List.singleton_append] at later
    exact (each before value).trans later

section Field

variable (placed : 0 < limit ∧ 1 ≤ number ∧ number < 2 ^ 29)

include placed

theorem field {content : Bytes} (step : Short content → merge a ⟨number, .bytes content⟩ = some b) :
    Merges merge limit (bytesField number content) a b := by
  intro short
  refine ⟨_, fields?_bytesField placed.1 placed.2.1 placed.2.2 short.content, ?_⟩
  simp [step short.content]

theorem varint {n : Nat} (word : n < 2 ^ 64) (step : merge a ⟨number, .varint n⟩ = some b) :
    Merges merge limit (varintField number n) a b := by
  intro _
  refine ⟨_, fields?_varintField placed.1 placed.2.1 placed.2.2 word, ?_⟩
  simp [step]

theorem bytes (put : Bytes → α) (content : Bytes)
    (step : merge (put []) ⟨number, .bytes content⟩ = some (put content)) :
    Merges merge limit (bytesFieldUnlessEmpty number content) (put []) (put content) := by
  rw [bytesFieldUnlessEmpty]
  split
  · next empty =>
    rw [empty]
    exact nil
  · exact field placed fun _ => step

theorem text (put : String → α) (text : String)
    (step : merge (put "") ⟨number, .bytes (Utf8.encode text)⟩ = some (put text)) :
    Merges merge limit (bytesFieldUnlessEmpty number (Utf8.encode text)) (put "") (put text) := by
  rw [bytesFieldUnlessEmpty]
  split
  · next empty =>
    have same : "" = text := by
      have read := Utf8.decode?_encode text
      rw [empty] at read
      exact Option.some.inj ((Utf8.decode?_encode "").symm.trans read)
    rw [← same]
    exact nil
  · exact field placed fun _ => step

end Field

end Merges

end TokenIndexer.Proto
