import TokenIndexer.Json.Kept

/-!
Which values are kept as null: null itself, and an object that holds a text of such a value under the key that
marks objects standing for other values.
-/

namespace TokenIndexer.Json

inductive StandsForNull : Json → Prop where
  | null : StandsForNull .null
  | spelled {text : String} {inner : Json} (parsed : parse? (Utf8.encode text) = some inner)
    (stands : StandsForNull inner) : StandsForNull (obj [(verbatimKey, .text text)])

/-- A text whose document stands for null. -/
def SpellsNull (text : String) : Prop := ∃ inner, parse? (Utf8.encode text) = some inner ∧ inner.StandsForNull

variable {spelled : String → Option Json} {depth : Nat} {value kept : Json}

theorem verbatimText?_eq_some {members : List (Literal × Json)} {text : String}
    (leads : leadsVerbatim members = true) (holds : verbatimText? members = some text) :
    members = [(some verbatimKey, .text text)] := by
  unfold verbatimText? at holds
  split at holds
  · next key inner =>
    subst holds
    rw [of_decide_eq_true leads, Json.text]
  · cases holds

theorem keepBy?_null_iff
    (texts : ∀ text kept, spelled text = some kept → (kept = .null ↔ SpellsNull text))
    (keeps : keepBy? spelled depth value = some kept) : kept = .null ↔ value.StandsForNull := by
  cases value with
  | null =>
    cases keeps
    exact iff_of_true rfl .null
  | object members =>
    rw [keepBy?] at keeps
    split at keeps
    · cases keeps
    · split at keeps
      · next leads =>
        obtain ⟨text, holds, read⟩ := Option.bind_eq_some_iff.1 keeps
        rw [verbatimText?_eq_some leads holds, texts text kept read]
        constructor
        · rintro ⟨inner, parsed, stands⟩
          exact .spelled parsed stands
        · intro stands
          cases stands with
          | spelled parsed stands => exact ⟨_, parsed, stands⟩
      · next plain =>
        obtain ⟨all, -, rfl⟩ := Option.map_eq_some_iff.1 keeps
        apply iff_of_false Json.noConfusion
        intro stands
        cases stands with
        | spelled parsed stands => exact plain (by simp [leadsVerbatim])
  | array items =>
    rw [keepBy?] at keeps
    split at keeps
    · cases keeps
    · obtain ⟨all, -, rfl⟩ := Option.map_eq_some_iff.1 keeps
      exact iff_of_false Json.noConfusion nofun
  | bool b =>
    cases keeps
    exact iff_of_false Json.noConfusion nofun
  | number n =>
    rw [keepBy?] at keeps
    split at keeps
    · cases keeps
      exact iff_of_false Json.noConfusion nofun
    · cases keeps
  | string text =>
    rw [keepBy?] at keeps
    split at keeps
    · cases keeps
      exact iff_of_false Json.noConfusion nofun
    · cases keeps

/-- A text is kept as null when its document stands for null, however many documents stand in one another. -/
theorem spelledWithin?_null_iff (layers : Nat) (text : String) (kept : Json)
    (read : spelledWithin? layers text = some kept) : kept = .null ↔ SpellsNull text := by
  induction layers generalizing text kept with
  | zero => cases read
  | succ layers ih =>
    obtain ⟨inner, parsed, keeps⟩ := Option.bind_eq_some_iff.1 read
    rw [keepBy?_null_iff ih keeps]
    constructor
    · intro stands
      exact ⟨inner, parsed, stands⟩
    · rintro ⟨other, parsed', stands⟩
      rw [parsed] at parsed'
      cases parsed'
      exact stands

theorem kept?_null_iff (keeps : kept? depth value = some kept) : kept = .null ↔ value.StandsForNull :=
  keepBy?_null_iff (fun text kept => spelledWithin?_null_iff text.length text kept) keeps

end TokenIndexer.Json
