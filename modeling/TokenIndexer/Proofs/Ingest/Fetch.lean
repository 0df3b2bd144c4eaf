import Mathlib.Data.List.Forall2
import TokenIndexer.Ingest.Fetch
import TokenIndexer.Proofs.Height

/-!
What a worker can report for a range. It asks for each height once, so what the node answers to it is a
function of the height.
-/

namespace TokenIndexer

structure Answers where
  block : Height → Answer Block
  results : Height → Answer BlockResults

namespace Answers

def source (answers : Answers) : BlockSource Id := ⟨answers.block, answers.results⟩

def height (answers : Answers) (h : Height) : Except FetchFailure FetchedBlock :=
  (Fetch.height answers.source h).run.outcome

def fetch (answers : Answers) (range : HeightRange) : Except FetchFailure Chunk :=
  (Fetch.range answers.source range).run

end Answers

/-- What a node has at each height, when it gives the same answer every time. -/
structure Chain where
  block : Height → Block
  results : Height → BlockResults

namespace Chain

def answers (chain : Chain) : Answers :=
  ⟨fun h => .atOnce (.ok (chain.block h)), fun h => .atOnce (.ok (chain.results h))⟩

def plain : Chain := ⟨fun h => ⟨h, [], "plain", "", "", []⟩, fun h => ⟨h, []⟩⟩

/-- What can be fetched at a height, if the node's answers for it fit together. -/
def entry? (chain : Chain) (h : Height) : Option FetchedBlock := (chain.answers.height h).toOption

end Chain

def Answers.offline : Answers :=
  ⟨fun _ => .atOnce (.error (.node (.rpc "offline"))), fun _ => .atOnce (.error (.node (.rpc "offline")))⟩

/-- The node may fail to answer, but when it does it answers what the chain has. -/
def Answers.Follow (chain : Chain) (answers : Answers) : Prop :=
  (∀ h block, (answers.block h).outcome = .ok block → block = chain.block h) ∧
    ∀ h results, (answers.results h).outcome = .ok results → results = chain.results h

theorem Chain.follow_answers (chain : Chain) : chain.answers.Follow chain :=
  ⟨fun _ _ come => (Except.ok.inj come).symm, fun _ _ come => (Except.ok.inj come).symm⟩

theorem Chain.follow_offline (chain : Chain) : Answers.offline.Follow chain :=
  ⟨fun _ _ come => (nomatch come), fun _ _ come => (nomatch come)⟩

theorem Answer.andThen_eq_ok_iff {α β : Type} {answer : Answer α} {next : α → Except NodeError β}
    {b : β} :
    (answer.andThen next).outcome = .ok b ↔ ∃ a, answer.outcome = .ok a ∧ next a = .ok b := by
  unfold andThen
  cases answer.outcome with
  | error e => simp [Except.bind]
  | ok a => cases result : next a <;> simp [Except.bind, Except.mapError, result]

theorem Answer.both_eq_ok_iff {α β : Type} {first : Answer α} {second : Answer β} {pair : α × β} :
    (first.both second).outcome = .ok pair ↔
      first.outcome = .ok pair.1 ∧ second.outcome = .ok pair.2 := by
  unfold both
  cases first.outcome <;> cases second.outcome <;> simp only <;>
    first | split <;> simp | simp [Prod.ext_iff]

theorem Block.checked_eq_ok_iff {h : Height} {block other : Block} :
    Block.checked h block = .ok other ↔ block.height = h ∧ other = block := by
  unfold checked
  split
  · next same => simp [same, eq_comm]
  · next differs => simp [differs]

theorem BlockResults.height_of_mem_pairFrom {h : Height} {index : Nat} {txs : List Tx}
    {responses : List DeliverResponse} {result : TxResult}
    (member : result ∈ pairFrom h index txs responses) : result.height = h := by
  induction txs generalizing index responses with
  | nil => simp [pairFrom] at member
  | cons tx txs ih =>
    cases responses with
    | nil => simp [pairFrom] at member
    | cons response responses =>
      rcases List.mem_cons.1 member with rfl | later
      · rfl
      · exact ih later

theorem BlockResults.height_of_mem_pair {results : BlockResults} {block : Block}
    {paired : List TxResult} (fits : results.pair block = .ok paired) :
    ∀ result ∈ paired, result.height = block.height := by
  unfold pair at fits
  split at fits
  · cases fits
  · split at fits
    · cases fits
    · cases fits
      intro result member
      exact height_of_mem_pairFrom member

namespace Answers

theorem height_eq_ok_iff {answers : Answers} {h : Height} {entry : FetchedBlock} :
    answers.height h = .ok entry ↔
      ∃ results, (answers.block h).outcome = .ok entry.block ∧
        (answers.results h).outcome = .ok results ∧ entry.block.height = h ∧
        results.pair entry.block = .ok entry.results := by
  have unfolded : answers.height h = .ok entry ↔
      ((((answers.block h).andThen (Block.checked h)).both (answers.results h)).andThen
        fun both => (both.2.pair both.1).map fun results => ⟨both.1, results⟩).outcome = .ok entry := by
    unfold height Fetch.height
    simp only [source, bind, pure, Id.run]
    split
    · next failed =>
      simp [Answer.atOnce, Answer.andThen_eq_ok_iff, Answer.both_eq_ok_iff, failed]
    · rfl
  rw [unfolded]
  simp only [Answer.andThen_eq_ok_iff, Answer.both_eq_ok_iff, Block.checked_eq_ok_iff]
  constructor
  · rintro ⟨⟨block, results⟩, ⟨⟨_, answered, same, rfl⟩, listed⟩, paired⟩
    cases fits : results.pair block with
    | error e => simp [fits, Except.map] at paired
    | ok rs =>
      simp only [fits, Except.map, Except.ok.injEq] at paired
      subst paired
      exact ⟨results, answered, listed, same, fits⟩
  · rintro ⟨results, answered, listed, same, fits⟩
    refine ⟨(entry.block, results), ⟨⟨entry.block, answered, same, rfl⟩, listed⟩, ?_⟩
    simp only [fits, Except.map]

theorem heightsFrom_eq_ok_iff {answers : Answers} {count : Nat} {h : Height}
    {entries : List FetchedBlock} :
    (Fetch.heightsFrom answers.source count h).run = .ok entries ↔
      List.Forall₂ (fun k entry => answers.height k = .ok entry)
        ((List.range count).map fun k => h + UInt64.ofNat k) entries := by
  induction count generalizing h entries with
  | zero =>
    constructor
    · intro fetched
      cases fetched
      exact .nil
    · intro each
      cases each
      rfl
  | succ count ih =>
    rw [Fetch.heightsFrom, Height.map_range_succ]
    simp only [Id.run_bind]
    split
    · next e failed =>
      constructor
      · intro fetched
        cases fetched
      · intro each
        cases each with
        | cons come _ => cases failed.symm.trans come
    · next entry first =>
      simp only [Id.run_bind, Id.run_pure]
      constructor
      · intro fetched
        cases later : (Fetch.heightsFrom answers.source count (h + 1)).run with
        | error e => simp [later, Except.map] at fetched
        | ok entries' =>
          simp only [later, Except.map, Except.ok.injEq] at fetched
          subst fetched
          exact .cons first (ih.1 later)
      · intro each
        cases each with
        | cons come later =>
          cases first.symm.trans come
          rw [ih.2 later]
          rfl

theorem fetch_eq_ok_iff {answers : Answers} {range : HeightRange} {chunk : Chunk} :
    answers.fetch range = .ok chunk ↔
      List.Forall₂ (fun h entry => answers.height h = .ok entry) range.heights chunk.entries := by
  rw [HeightRange.heights, HeightRange.upTo, Nat.min_self, ← heightsFrom_eq_ok_iff]
  unfold fetch Fetch.range
  simp only [Id.run_bind, Id.run_pure]
  cases entries : (Fetch.heightsFrom answers.source range.size.toNat range.first).run with
  | error e => simp [Except.map]
  | ok fetched =>
    obtain ⟨expected⟩ := chunk
    simp [Except.map]

theorem heights_of_fetch {answers : Answers} {range : HeightRange} {chunk : Chunk}
    (fetched : answers.fetch range = .ok chunk) :
    chunk.entries.map (·.block.height) = range.heights := by
  have each := fetch_eq_ok_iff.1 fetched
  rw [← List.forall₂_eq_eq_eq, List.forall₂_map_left_iff]
  apply each.flip.imp
  intro entry h come
  obtain ⟨_, _, _, same, _⟩ := height_eq_ok_iff.1 come
  exact same

theorem height_of_follow {chain : Chain} {answers : Answers} (follow : answers.Follow chain)
    {h : Height} {entry : FetchedBlock} (come : answers.height h = .ok entry) :
    chain.answers.height h = .ok entry := by
  obtain ⟨results, answered, listed, same, fits⟩ := height_eq_ok_iff.1 come
  refine height_eq_ok_iff.2 ⟨results, ?_, ?_, same, fits⟩
  · exact congrArg Except.ok (follow.1 h _ answered).symm
  · exact congrArg Except.ok (follow.2 h _ listed).symm

/-- A chunk of a range does not depend on how it was fetched. -/
theorem entries_of_fetch {chain : Chain} {answers : Answers} (follow : answers.Follow chain)
    {range : HeightRange} {chunk : Chunk} (fetched : answers.fetch range = .ok chunk) :
    chunk.entries = range.heights.filterMap chain.entry? := by
  have each := fetch_eq_ok_iff.1 fetched
  generalize range.heights = heights, chunk.entries = entries at each
  induction each with
  | nil => rfl
  | @cons h entry _ _ come _ ih =>
    have present : chain.entry? h = some entry := by
      unfold Chain.entry?
      rw [height_of_follow follow come]
      rfl
    rw [List.filterMap_cons_some present, ← ih]

end Answers

theorem Chain.entry?_eq_some {chain : Chain} {h : Height} {entry : FetchedBlock}
    (present : chain.entry? h = some entry) :
    entry.block.height = h ∧ ∀ result ∈ entry.results, result.height = h := by
  unfold entry? at present
  cases come : chain.answers.height h with
  | error e => simp [come, Except.toOption] at present
  | ok found =>
    simp only [come, Except.toOption, Option.some.injEq] at present
    subst present
    obtain ⟨_, _, _, same, fits⟩ := Answers.height_eq_ok_iff.1 come
    refine ⟨same, fun result member => ?_⟩
    rw [BlockResults.height_of_mem_pair fits result member, same]

end TokenIndexer
