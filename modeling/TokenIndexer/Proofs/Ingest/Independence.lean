import TokenIndexer.Proofs.Ingest.Contents
import TokenIndexer.Proofs.Ingest.Reservation
import TokenIndexer.Proofs.Store.Keyed
import TokenIndexer.Proofs.Store.Memory

/-!
What is stored does not depend on how it came there: how the heights were split, in what order workers came to
an end, and how often ingestion was started anew.
-/

namespace TokenIndexer

def heightsTo (h : Height) : List Height := (List.range' 1 h.toNat).map UInt64.ofNat

theorem toNat_heightsTo (h : Height) : (heightsTo h).map UInt64.toNat = List.range' 1 h.toNat := by
  have bound := Height.toNat_le h
  rw [heightsTo, List.map_map]
  conv_rhs => rw [← List.map_id (List.range' 1 h.toNat)]
  refine List.map_congr_left fun n member => ?_
  rw [List.mem_range'_1] at member
  exact UInt64.toNat_ofNat_of_lt (Nat.lt_of_lt_of_le (by omega : n < 2 ^ 64) (Nat.le_refl _))

theorem le_of_mem_heightsTo {h other : Height} (member : other ∈ heightsTo h) : other ≤ h := by
  have listed := List.mem_map_of_mem (f := UInt64.toNat) member
  rw [toNat_heightsTo, List.mem_range'_1] at listed
  rw [UInt64.le_iff_toNat_le]
  omega

theorem heightsTo_of_tiles {bottom : Height} {ranges : List HeightRange}
    (tiles : Tiles (bottom.toNat + 1) ranges) :
    heightsTo ((ranges.getLast?.map (·.last)).getD bottom) =
      heightsTo bottom ++ ranges.flatMap (·.heights) := by
  obtain ⟨count, heights, stop⟩ := heights_of_tiles tiles
  have reached : ((ranges.getLast?.map (·.last)).getD bottom).toNat = bottom.toNat + count := by
    cases last : ranges.getLast? with
    | none =>
      rw [last] at stop
      change bottom.toNat + 1 + count = bottom.toNat + 1 at stop
      change bottom.toNat = _
      omega
    | some final =>
      rw [last] at stop
      change bottom.toNat + 1 + count = final.last.toNat + 1 at stop
      change final.last.toNat = _
      omega
  apply List.map_injective_iff.2 (fun _ _ => UInt64.toNat_inj.1)
  rw [List.map_append, toNat_heightsTo, toNat_heightsTo, heights, reached, Nat.add_comm bottom.toNat 1,
    ← List.range'_append_1]

namespace Chain

/-- What a store holds that was filled from the chain up to a height. -/
def contentsTo (chain : Chain) (taking : Taking) (h : Height) : Contents :=
  Contents.empty.take taking ((heightsTo h).filterMap chain.entry?)

theorem height_le_of_mem {chain : Chain} {h : Height} {entry : FetchedBlock}
    (member : entry ∈ (heightsTo h).filterMap chain.entry?) :
    entry.block.height ≤ h ∧ ∀ result ∈ entry.results, result.height ≤ h := by
  obtain ⟨other, listed, present⟩ := List.mem_filterMap.1 member
  obtain ⟨same, each⟩ := entry?_eq_some present
  have bound := le_of_mem_heightsTo listed
  exact ⟨same ▸ bound, fun result belongs => each result belongs ▸ bound⟩

theorem block_contentsTo {chain : Chain} {taking : Taking} {top h : Height} (above : top < h) :
    (chain.contentsTo taking top).block h = none := by
  rw [contentsTo, Contents.take, Contents.block_write_of_forall_ne]
  · rfl
  · rintro b member rfl
    obtain ⟨entry, accepted, rfl⟩ := List.mem_map.1 member
    have bound := (height_le_of_mem (List.mem_filter.1 accepted).1).1
    exact UInt64.not_le.2 above bound

theorem result_contentsTo {chain : Chain} {taking : Taking} {top h : Height} (above : top < h) :
    (chain.contentsTo taking top).result h = fun _ => none := by
  rw [contentsTo, Contents.take, Contents.result_write_of_forall_ne]
  · rfl
  · rintro r member rfl
    obtain ⟨entry, accepted, belongs⟩ := List.mem_flatMap.1 member
    have bound := (height_le_of_mem (List.mem_filter.1 accepted).1).2 r (List.mem_filter.1 belongs).1
    exact UInt64.not_le.2 above bound

end Chain

def Move.Follows (chain : Chain) : Move → Prop
  | .finish _ answers => answers.Follow chain
  | _ => True

/-- One run of the fetcher, from its start until it is cancelled or stops. -/
structure Stint where
  policy : Policy
  maxSlots : Nat
  moves : List Move

namespace Stint

def Follows (chain : Chain) (stint : Stint) : Prop := ∀ move ∈ stint.moves, move.Follows chain

variable {σ : Type} [Store σ]

def run (store : σ) (stint : Stint) : σ :=
  ((Ingestion.start store stint.maxSlots).run stint.policy stint.moves).fetcher.store

/-- The store after some runs, each of which starts from what the one before left. -/
def runAll (stints : List Stint) (store : σ) : σ := stints.foldl run store

end Stint

variable {σ : Type} [Store σ] [Store.Lawful σ] {chain : Chain} {taking : Taking} {store : σ}

open Store.Lawful (Sound contents)

/-- A store that was filled from a chain. Once it has arrived at the greatest height, what it holds at
that height depends on how often it came there. -/
structure Filled (chain : Chain) (taking : Taking) (store : σ) : Prop where
  sound : Sound store
  accepts : Store.Lawful.taking store = taking
  held : ∃ latest, Store.latest store = .ok latest ∧
    (latest.getD 0 = Height.greatest ∨ contents store = chain.contentsTo taking (latest.getD 0))

theorem filled_of_blank (chain : Chain) (blank : Store.Blank store) :
    Filled chain (Store.Lawful.taking store) store where
  sound := blank.sound
  accepts := rfl
  held := ⟨none, blank.latest, .inr blank.contents⟩

theorem Filled.run (filled : Filled chain taking store) {stint : Stint} (follows : stint.Follows chain) :
    Filled chain taking (stint.run store) := by
  obtain ⟨latest, initial, held⟩ := filled.held
  rw [Stint.run]
  have orderly : Ingestion.Orderly (fun range c => c.entries = range.heights.filterMap chain.entry?)
      (latest.getD 0) store ((Ingestion.start store stint.maxSlots).run stint.policy stint.moves) := by
    apply Ingestion.orderly_run initial
    intro range answers made chunk come
    exact Answers.entries_of_fetch (follows (.finish range answers) made) come
  have nothing : latest.getD 0 = Height.greatest →
      ((Ingestion.start store stint.maxSlots).run stint.policy stint.moves).reserved = [] :=
    Ingestion.reserved_eq_nil initial
  generalize (Ingestion.start store stint.maxSlots).run stint.policy stint.moves = i at orderly nothing ⊢
  obtain ⟨sound, same, added⟩ := Commit.contents_of_succession orderly.succession filled.sound
  refine ⟨sound, same.trans filled.accepts, _, Commit.latest_of_succession initial orderly.succession, ?_⟩
  rw [Option.getD_or]
  by_cases top : ((Commit.committed i.outcomes).getLast?.map (·.last)).getD (latest.getD 0) =
      Height.greatest
  · exact .inl top
  · right
    obtain ⟨failed, shape, _⟩ := Commit.committed_prefix orderly.succession
    have accounted := orderly.accounted
    rw [shape, List.append_assoc] at accounted
    have consecutive := orderly.consecutive
    rw [accounted, consecutive_append] at consecutive
    have tiles := tiles_of_last consecutive.1 top
    rcases held with arrived | held
    · -- nothing is reserved any more
      rw [nothing arrived] at accounted
      rw [(List.append_eq_nil_iff.1 accounted.symm).1] at top
      exact absurd arrived top
    · rw [added, held, filled.accepts, Chain.contentsTo, Chain.contentsTo, heightsTo_of_tiles tiles,
        List.filterMap_append, Contents.take_append]

theorem Filled.runAll (filled : Filled chain taking store) {stints : List Stint}
    (follow : ∀ stint ∈ stints, stint.Follows chain) : Filled chain taking (Stint.runAll stints store) := by
  induction stints generalizing store with
  | nil => exact filled
  | cons stint rest ih =>
    have next := filled.run (follow stint List.mem_cons_self)
    exact ih next fun stint member => follow stint (List.mem_cons_of_mem _ member)

theorem Filled.contents_eq (filled : Filled chain taking store) {latest : Option Height}
    (read : Store.latest store = .ok latest) (low : latest.getD 0 < Height.greatest) :
    contents store = chain.contentsTo taking (latest.getD 0) := by
  obtain ⟨found, reads, held⟩ := filled.held
  rw [read, Except.ok.injEq] at reads
  subst reads
  rcases held with arrived | held
  · exact absurd arrived (UInt64.ne_of_lt low)
  · exact held

structure Bare (store : σ) (h : Height) : Prop where
  block : Store.block store h = .ok none
  result : ∀ index, Store.result store h index = .ok none
  results : Store.results store h = .ok []

theorem Filled.bare (filled : Filled chain taking store) {latest : Option Height}
    (read : Store.latest store = .ok latest) (low : latest.getD 0 < Height.greatest) {h : Height}
    (above : latest.getD 0 < h) : Bare store h := by
  have held := filled.contents_eq read low
  have row : (contents store).result h = fun _ => none := by
    rw [held, Chain.result_contentsTo above]
  refine { block := ?_, result := fun index => ?_, results := ?_ }
  · rw [Store.Lawful.block_eq filled.sound, held, Chain.block_contentsTo above]
  · rw [Store.Lawful.result_eq filled.sound, row]
  · obtain ⟨results, reads, listed⟩ := Store.Lawful.results_eq filled.sound h
    rw [row] at listed
    rw [reads, listed.eq_nil]

/-- Two series of runs over blank stores that accept the same of the chain that their nodes have. -/
theorem alike_of_latest_eq {τ : Type} [Store τ] [Store.Lawful τ] {other : τ} {stints stints' : List Stint}
    (blank : Store.Blank store) (blank' : Store.Blank other)
    (agree : Taking.Agree chain (Store.Lawful.taking store) (Store.Lawful.taking other))
    (follow : ∀ stint ∈ stints, stint.Follows chain) (follow' : ∀ stint ∈ stints', stint.Follows chain)
    {latest : Option Height} (read : Store.latest (Stint.runAll stints store) = .ok latest)
    (read' : Store.latest (Stint.runAll stints' other) = .ok latest)
    (low : latest.getD 0 < Height.greatest) (h : Height) :
    (h ≤ latest.getD 0 → Alike (Stint.runAll stints store) (Stint.runAll stints' other) h) ∧
      (latest.getD 0 < h → Bare (Stint.runAll stints store) h ∧ Bare (Stint.runAll stints' other) h) := by
  have filled := (filled_of_blank chain blank).runAll follow
  have filled' := (filled_of_blank chain blank').runAll follow'
  constructor
  · intro _
    refine alike_of_contents filled.sound filled'.sound ?_ h
    rw [filled.contents_eq read low, filled'.contents_eq read' low]
    exact Contents.take_congr agree _ _
  · intro above
    exact ⟨filled.bare read low above, filled'.bare read' low above⟩

theorem Chain.entry?_plain (h : Height) :
    Chain.plain.entry? h = some ⟨Chain.plain.block h, []⟩ := by
  have come : Chain.plain.answers.height h = .ok ⟨Chain.plain.block h, []⟩ := by
    refine Answers.height_eq_ok_iff.2 ⟨⟨h, []⟩, rfl, rfl, rfl, ?_⟩
    simp [plain, BlockResults.pair, BlockResults.pairFrom]
  unfold entry?
  rw [come]
  rfl

/-- Two heights in one range at the second attempt, kept as they are, and one by one in two runs, kept
as records. -/
theorem alike_in_one_and_two_runs :
    let low : HeightRange := ⟨1, 1, by decide, by decide⟩
    let high : HeightRange := ⟨2, 2, by decide, by decide⟩
    let both : HeightRange := ⟨1, 2, by decide, by decide⟩
    let unasked := fun _ => .error (.rpc "offline")
    let stints : List Stint := [⟨Policy.plain 2 3, 1, [.tick (.ok 2), .finish both Answers.offline,
      .receive unasked, .wake both, .finish both Chain.plain.answers, .receive unasked]⟩]
    let stints' : List Stint := [⟨Policy.plain 1 3, 4, [.tick (.ok 2), .finish low Chain.plain.answers,
      .receive unasked]⟩, ⟨Policy.plain 1 3, 4, [.tick (.ok 2), .finish high Chain.plain.answers,
      .receive unasked]⟩]
    Store.latest (Stint.runAll stints MemoryStore.empty) = .ok (some 2) ∧
      Store.latest (Stint.runAll stints' KeyedStore.empty) = .ok (some 2) ∧
      ∀ h ≤ 2, Alike (Stint.runAll stints MemoryStore.empty) (Stint.runAll stints' KeyedStore.empty) h := by
  intro low high both unasked stints stints'
  have answered := Chain.plain.follow_answers
  have failed := Chain.plain.follow_offline
  have follow : ∀ stint ∈ stints, stint.Follows Chain.plain := by
    simp [stints, Stint.Follows, Move.Follows, answered, failed]
  have follow' : ∀ stint ∈ stints', stint.Follows Chain.plain := by
    simp [stints', Stint.Follows, Move.Follows, answered]
  have agree : Taking.Agree Chain.plain (Store.Lawful.taking MemoryStore.empty)
      (Store.Lawful.taking KeyedStore.empty) := by
    intro h entry present
    rw [Chain.entry?_plain, Option.some.injEq] at present
    subst present
    refine ⟨?_, fun _ member => (nomatch member)⟩
    change true = ((Codec.both Codec.word64 _).write (h, [], "plain", "", "", [])).isSome
    rw [Codec.isSome_write_both, Codec.isSome_write_word64, Bool.true_and]
    change true = (Codec.write _ ([], "plain", "", "", [])).isSome
    decide +kernel
  have read : Store.latest (Stint.runAll stints MemoryStore.empty) = .ok (some 2) := by decide +kernel
  have read' : Store.latest (Stint.runAll stints' KeyedStore.empty) = .ok (some 2) := by decide +kernel
  refine ⟨read, read', fun h within => ?_⟩
  have alike := alike_of_latest_eq MemoryStore.blank_empty KeyedStore.blank_empty agree follow follow'
    read read' (by decide) h
  exact alike.1 within

end TokenIndexer
