import TokenIndexer.Proofs.Proto.Field

/-!
What a binary message is, said without a reader. The readers accept just that; a varint may be spelled with
more bytes than it takes.
-/

namespace TokenIndexer

namespace Varint

/-- Base 128, least significant first. All bytes but the last have the high bit; the last ones may be
zeros. -/
inductive Spells : Nat → Bytes → Prop where
  | last {b : UInt8} (low : b < 128) : Spells b.toNat [b]
  | more {b : UInt8} {n : Nat} {bytes : Bytes} (high : ¬ b < 128) (later : Spells n bytes) :
    Spells (b.toNat - 128 + 128 * n) (b :: bytes)

structure Word (n : Nat) (bytes : Bytes) : Prop where
  spells : Spells n bytes
  length : bytes.length ≤ 10
  fits : n < 2 ^ 64

theorem two_pow_succ (count : Nat) : 2 ^ (7 * (count + 1) + 1) = 128 * 2 ^ (7 * count + 1) := by
  rw [show 7 * (count + 1) + 1 = 7 + (7 * count + 1) by omega, Nat.pow_add]

theorem spells_of_readAtMost {count n : Nat} {bytes rest : Bytes}
    (found : readAtMost (count + 1) bytes = some (n, rest)) :
    ∃ front, bytes = front ++ rest ∧ Spells n front ∧ front.length ≤ count + 1 ∧
      n < 2 ^ (7 * count + 1) := by
  induction count generalizing n bytes with
  | zero =>
    cases bytes with
    | nil => cases found
    | cons b tail =>
      rw [readAtMost] at found
      split at found
      · next low =>
        split at found
        · cases found
        · next single =>
          cases found
          have bit : ¬ 1 < b := fun above => single ⟨rfl, above⟩
          rw [UInt8.lt_iff_toNat_lt] at bit
          refine ⟨[b], rfl, .last low, Nat.le_refl 1, ?_⟩
          exact Nat.lt_of_not_le bit
      · cases found
  | succ count ih =>
    cases bytes with
    | nil => cases found
    | cons b tail =>
      rw [readAtMost] at found
      have byte := b.toNat_lt
      have wide := two_pow_succ count
      have positive : 0 < 2 ^ (7 * count + 1) := Nat.two_pow_pos _
      split at found
      · next low =>
        rw [if_neg (by omega)] at found
        cases found
        have small : b.toNat < 128 := UInt8.lt_iff_toNat_lt.1 low
        refine ⟨[b], rfl, .last low, by simp, ?_⟩
        omega
      · next high =>
        obtain ⟨⟨m, rest'⟩, deeper, shape⟩ := Option.map_eq_some_iff.1 found
        cases shape
        obtain ⟨front, rfl, spells, length, fits⟩ := ih deeper
        refine ⟨b :: front, rfl, .more high spells, ?_, ?_⟩
        · rw [List.length_cons]
          omega
        · omega

theorem readAtMost_of_spells {count n : Nat} {front : Bytes} (spells : Spells n front)
    (length : front.length ≤ count + 1) (fits : n < 2 ^ (7 * count + 1)) (rest : Bytes) :
    readAtMost (count + 1) (front ++ rest) = some (n, rest) := by
  induction spells generalizing count with
  | @last b low =>
    have single : ¬ (count = 0 ∧ 1 < b) := by
      rintro ⟨rfl, above⟩
      exact Nat.not_lt.2 (Nat.le_of_lt_succ fits) (UInt8.lt_iff_toNat_lt.1 above)
    rw [List.singleton_append, readAtMost, if_pos low, if_neg single]
  | @more b m bytes high later ih =>
    cases count with
    | zero =>
      have filled : bytes ≠ [] := by
        rintro rfl
        cases later
      rw [List.length_cons] at length
      exact absurd (List.length_eq_zero_iff.1 (by omega)) filled
    | succ count =>
      have wide := two_pow_succ count
      rw [List.length_cons] at length
      rw [List.cons_append, readAtMost, if_neg high, ih (by omega) (by omega), Option.map_some]

theorem read_eq_some_iff {n : Nat} {bytes rest : Bytes} :
    read bytes = some (n, rest) ↔ ∃ front, bytes = front ++ rest ∧ Word n front := by
  constructor
  · intro found
    obtain ⟨front, shape, spells, length, fits⟩ := spells_of_readAtMost found
    exact ⟨front, shape, spells, length, fits⟩
  · rintro ⟨front, rfl, word⟩
    exact readAtMost_of_spells word.spells word.length word.fits rest

end Varint

theorem Bytes.split?_eq_some_iff {count : Nat} {bytes front rest : Bytes} :
    split? count bytes = some (front, rest) ↔ bytes = front ++ rest ∧ front.length = count := by
  constructor
  · exact eq_append_of_split?
  · rintro ⟨rfl, rfl⟩
    exact split?_append front rest

namespace Proto

namespace Payload

def wireType : Payload → Nat
  | .varint _ => 0
  | .fixed64 _ => 1
  | .bytes _ => 2
  | .groupStart => 3
  | .groupEnd => 4
  | .fixed32 _ => 5

def Spelled : Payload → Bytes → Prop
  | .varint n, spelled => Varint.Word n spelled
  | .fixed64 word, spelled => spelled = word ∧ word.length = 8
  | .bytes content, spelled => ∃ length, Varint.Word content.length length ∧ spelled = length ++ content
  | .groupStart, spelled => spelled = []
  | .groupEnd, spelled => spelled = []
  | .fixed32 word, spelled => spelled = word ∧ word.length = 4

theorem read_of_spelled {payload : Payload} {front : Bytes} (spelled : payload.Spelled front)
    (rest : Bytes) : read payload.wireType (front ++ rest) = some (payload, rest) := by
  cases payload with
  | varint n =>
    rw [wireType, read, Varint.read_eq_some_iff.2 ⟨front, rfl, spelled⟩]
    rfl
  | fixed64 word =>
    obtain ⟨rfl, size⟩ := spelled
    rw [wireType, read, Bytes.split?_eq_some_iff.2 ⟨rfl, size⟩]
    rfl
  | bytes content =>
    obtain ⟨length, word, rfl⟩ := spelled
    rw [wireType, read, Varint.read_eq_some_iff.2 ⟨length, List.append_assoc .., word⟩,
      Option.bind_some]
    simp only [Bytes.split?_append, Option.map_some]
  | groupStart =>
    cases spelled
    rfl
  | groupEnd =>
    cases spelled
    rfl
  | fixed32 word =>
    obtain ⟨rfl, size⟩ := spelled
    rw [wireType, read, Bytes.split?_eq_some_iff.2 ⟨rfl, size⟩]
    rfl

theorem spelled_of_read {kind : Nat} {bytes rest : Bytes} {payload : Payload}
    (found : read kind bytes = some (payload, rest)) :
    payload.wireType = kind ∧ ∃ front, bytes = front ++ rest ∧ payload.Spelled front := by
  unfold read at found
  split at found
  · obtain ⟨⟨n, rest'⟩, found, shape⟩ := Option.map_eq_some_iff.1 found
    cases shape
    exact ⟨rfl, Varint.read_eq_some_iff.1 found⟩
  · obtain ⟨⟨word, rest'⟩, found, shape⟩ := Option.map_eq_some_iff.1 found
    cases shape
    obtain ⟨rfl, size⟩ := Bytes.split?_eq_some_iff.1 found
    exact ⟨rfl, word, rfl, rfl, size⟩
  · obtain ⟨⟨length, rest'⟩, size, inner⟩ := Option.bind_eq_some_iff.1 found
    obtain ⟨⟨content, rest''⟩, taken, shape⟩ := Option.map_eq_some_iff.1 inner
    cases shape
    obtain ⟨front, rfl, word⟩ := Varint.read_eq_some_iff.1 size
    obtain ⟨rfl, rfl⟩ := Bytes.split?_eq_some_iff.1 taken
    exact ⟨rfl, front ++ content, by rw [List.append_assoc], front, word, rfl⟩
  · cases found
    exact ⟨rfl, [], rfl, rfl⟩
  · cases found
    exact ⟨rfl, [], rfl, rfl⟩
  · obtain ⟨⟨word, rest'⟩, found, shape⟩ := Option.map_eq_some_iff.1 found
    cases shape
    obtain ⟨rfl, size⟩ := Bytes.split?_eq_some_iff.1 found
    exact ⟨rfl, word, rfl, rfl, size⟩
  · cases found

theorem wireType_lt (payload : Payload) : payload.wireType < 8 := by
  cases payload <;> simp [wireType]

end Payload

namespace Field

/-- Numbers have 29 bits and start at 1; the wire type takes the three low bits of the key. -/
inductive Spelled : Field → Bytes → Prop where
  | intro {number : Nat} {payload : Payload} {key content : Bytes}
    (named : 1 ≤ number ∧ number < 2 ^ 29)
    (spelledKey : Varint.Word (8 * number + payload.wireType) key)
    (spelledPayload : payload.Spelled content) : Spelled ⟨number, payload⟩ (key ++ content)

theorem read_of_spelled {field : Field} {front : Bytes} (spelled : field.Spelled front)
    (rest : Bytes) : read (front ++ rest) = some (field, rest) := by
  obtain ⟨named, spelledKey, spelledPayload⟩ := spelled
  rename_i number payload key content
  have low := payload.wireType_lt
  have valid : 8 * number + payload.wireType < UInt32.size ∧ 8 ≤ 8 * number + payload.wireType := by
    change _ < 4294967296 ∧ _
    omega
  rw [read, Varint.read_eq_some_iff.2 ⟨key, List.append_assoc .., spelledKey⟩, Option.bind_some]
  simp only
  rw [if_pos valid, show (8 * number + payload.wireType) % 8 = payload.wireType by omega,
    show (8 * number + payload.wireType) / 8 = number by omega,
    Payload.read_of_spelled spelledPayload, Option.map_some]

theorem spelled_of_read {field : Field} {bytes rest : Bytes}
    (found : read bytes = some (field, rest)) :
    ∃ front, bytes = front ++ rest ∧ field.Spelled front := by
  unfold read at found
  obtain ⟨⟨key, rest'⟩, number, inner⟩ := Option.bind_eq_some_iff.1 found
  simp only at inner
  split at inner
  · next valid =>
    obtain ⟨⟨payload, rest''⟩, taken, shape⟩ := Option.map_eq_some_iff.1 inner
    cases shape
    obtain ⟨spelling, rfl, word⟩ := Varint.read_eq_some_iff.1 number
    obtain ⟨kind, content, rfl, spelled⟩ := Payload.spelled_of_read taken
    have small : key < 4294967296 := valid.1
    refine ⟨spelling ++ content, by rw [List.append_assoc], ?_⟩
    refine .intro (by omega) ?_ spelled
    rw [kind, Nat.div_add_mod]
    exact word
  · cases inner

end Field

inductive Sequence : List Field → Bytes → Prop where
  | nil : Sequence [] []
  | cons {field : Field} {fields : List Field} {front back : Bytes} (first : field.Spelled front)
    (others : Sequence fields back) : Sequence (field :: fields) (front ++ back)

theorem scan?_eq_some_iff {bytes : Bytes} {fields : List Field} :
    scan? bytes = some fields ↔ Sequence fields bytes := by
  constructor
  · intro found
    fun_induction scan? bytes generalizing fields with
    | case1 =>
      cases found
      exact .nil
    | case2 => cases found
    | case3 bytes filled field rest read shorter ih =>
      obtain ⟨later, scanned, rfl⟩ := Option.map_eq_some_iff.1 found
      obtain ⟨front, rfl, spelled⟩ := Field.spelled_of_read read
      exact .cons spelled (ih scanned)
  · intro sequence
    induction sequence with
    | nil => exact scan?_nil
    | cons first others ih => rw [scan?_of_read (Field.read_of_spelled first _), ih, Option.map_some]

/-- Groups are closed by their own number, and within `depth` of them nothing more stands. The second list
has the fields outside groups: of a group, its start. -/
inductive Balanced : Nat → List Field → List Field → Prop where
  | nil {depth : Nat} : Balanced depth [] []
  | plain {depth number : Nat} {payload : Payload} {fields outside : List Field}
    (alone : payload ≠ .groupStart ∧ payload ≠ .groupEnd)
    (others : Balanced (depth + 1) fields outside) :
    Balanced (depth + 1) (⟨number, payload⟩ :: fields) (⟨number, payload⟩ :: outside)
  | group {depth number : Nat} {inner hidden fields outside : List Field}
    (inside : Balanced depth inner hidden) (others : Balanced (depth + 1) fields outside) :
    Balanced (depth + 1) (⟨number, .groupStart⟩ :: (inner ++ ⟨number, .groupEnd⟩ :: fields))
      (⟨number, .groupStart⟩ :: outside)

theorem outside?_inside {limit depth group : Nat} {outer fields hidden : List _}
    (balanced : Balanced depth fields hidden) (level : depth + (outer.length + 1) = limit)
    (more : List Field) :
    outside? limit (group :: outer) (fields ++ more) = outside? limit (group :: outer) more := by
  induction balanced generalizing group outer more with
  | nil => rfl
  | @plain depth number payload fields outside alone others ih =>
    have shallow : ¬ limit ≤ (group :: outer).length := by
      rw [List.length_cons]
      omega
    rw [List.cons_append, outside?, if_neg shallow]
    · simp only [if_neg alone.1]
      exact ih level more
    · exact alone.2
  | @group depth number inner hidden fields outside inside others ihInside ih =>
    have shallow : ¬ limit ≤ (group :: outer).length := by
      rw [List.length_cons]
      omega
    rw [List.cons_append, outside?, if_neg shallow]
    · simp only [if_pos]
      rw [List.append_assoc, ihInside (by rw [List.length_cons]; omega), List.cons_append, outside?,
        if_pos rfl]
      exact ih level more
    · intro ends
      cases ends

theorem outside?_of_balanced {limit : Nat} {fields outside : List Field}
    (balanced : Balanced limit fields outside) : outside? limit [] fields = some outside := by
  induction balanced with
  | nil => rfl
  | @plain depth number payload fields outside alone others ih =>
    rw [outside?, if_neg (by simp)]
    · simp only [if_neg alone.1]
      rw [ih, Option.map_some]
    · exact alone.2
  | @group depth number inner hidden fields outside inside others _ ih =>
    rw [outside?, if_neg (by simp)]
    · simp only [if_pos]
      rw [outside?_inside inside (by simp), outside?, if_pos rfl, ih, Option.map_some]
    · intro ends
      cases ends

/-- What is accepted while groups are open: each of them, the innermost first, is closed at its depth. -/
def Accepted (limit : Nat) : List Nat → List Field → List Field → Prop
  | [], fields, outside => Balanced limit fields outside
  | group :: outer, fields, outside => ∃ inner hidden later,
    fields = inner ++ ⟨group, .groupEnd⟩ :: later ∧
      Balanced (limit - (outer.length + 1)) inner hidden ∧ Accepted limit outer later outside

theorem accepted_of_outside? {limit : Nat} {openGroups : List Nat} {fields outside : List Field}
    (found : outside? limit openGroups fields = some outside) :
    Accepted limit openGroups fields outside := by
  fun_induction outside? limit openGroups fields generalizing outside with
  | case1 =>
    cases found
    exact .nil
  | case2 => cases found
  | case3 fields number outer ih => exact ⟨[], [], fields, rfl, .nil, ih found⟩
  | case4 => cases found
  | case5 => cases found
  | case6 => cases found
  | case7 number payload fields notEnd shallow inner =>
    rename_i ih
    obtain ⟨later, read, rfl⟩ := Option.map_eq_some_iff.1 found
    have accepted := ih read
    obtain ⟨depth, rfl⟩ : ∃ depth, limit = depth + 1 := Nat.exists_eq_succ_of_ne_zero fun none =>
      shallow (Nat.le_of_eq none)
    by_cases start : payload = .groupStart
    · simp only [inner, if_pos start] at accepted
      obtain ⟨inside, hidden, after, rfl, balanced, others⟩ := accepted
      rw [start]
      exact .group balanced others
    · simp only [inner, if_neg start] at accepted
      exact .plain ⟨start, notEnd⟩ accepted
  | case8 number payload fields notEnd group outer shallow inner =>
    rename_i ih
    have accepted := ih found
    have deep : limit - (outer.length + 1) = limit - (outer.length + 2) + 1 := by
      rw [List.length_cons] at shallow
      omega
    by_cases start : payload = .groupStart
    · simp only [inner, if_pos start] at accepted
      obtain ⟨inside, hidden, after, rfl, balanced, inside', hidden', after', rfl, balanced', others⟩ :=
        accepted
      rw [deep] at balanced'
      refine ⟨⟨number, .groupStart⟩ :: (inside ++ ⟨number, .groupEnd⟩ :: inside'),
        ⟨number, .groupStart⟩ :: hidden', after', ?_, ?_, others⟩
      · simp [start]
      · rw [deep]
        exact .group balanced balanced'
    · simp only [inner, if_neg start] at accepted
      obtain ⟨inside, hidden, after, rfl, balanced, others⟩ := accepted
      rw [deep] at balanced
      refine ⟨⟨number, payload⟩ :: inside, ⟨number, payload⟩ :: hidden, after, rfl, ?_, others⟩
      rw [deep]
      exact .plain ⟨start, notEnd⟩ balanced

theorem outside?_eq_some_iff {limit : Nat} {fields outside : List Field} :
    outside? limit [] fields = some outside ↔ Balanced limit fields outside :=
  ⟨accepted_of_outside?, outside?_of_balanced⟩

/-- A message is a sequence of fields with balanced groups, and nothing else is one. -/
theorem fields?_eq_some_iff {limit : Nat} {bytes : Bytes} {outside : List Field} :
    fields? limit bytes = some outside ↔
      ∃ fields, Sequence fields bytes ∧ Balanced limit fields outside := by
  rw [fields?, Option.bind_eq_some_iff]
  simp only [scan?_eq_some_iff, outside?_eq_some_iff]

end Proto

end TokenIndexer
