import Mathlib.Data.List.Pairwise
import TokenIndexer.Proofs.Ingest.Reservation
import TokenIndexer.Proofs.Ingest.Staging
import TokenIndexer.Proofs.Store.Memory

/-! Events follow the data: they go up the chain, and nothing is announced before it is in the store. -/

namespace TokenIndexer

namespace Event

def height : Event → Height
  | .newBlock block _ => block.height
  | .tokenDetected candidate => candidate.height

def block? : Event → Option Block
  | .newBlock block _ => some block
  | .tokenDetected _ => none

/-- Lower heights come first, and a token comes before what else is of its height. -/
def Before (a b : Event) : Prop :=
  a.height < b.height ∨ a.height = b.height ∧ a.kind = .tokenDetected

theorem ascending_of_ordered {events : List Event} (ordered : events.Pairwise Before) :
    (events.filterMap block?).Pairwise fun a b => a.height < b.height := by
  rw [List.pairwise_filterMap]
  refine ordered.imp fun {a b} before block own block' own' => ?_
  cases a with
  | tokenDetected candidate => cases own
  | newBlock first results =>
    cases b with
    | tokenDetected candidate => cases own'
    | newBlock second results' =>
      cases own
      cases own'
      rcases before with below | ⟨_, token⟩
      · exact below
      · cases token

theorem mem_back_of_ordered {front back : List Event} {candidate : TokenCandidate} {block : Block}
    {results : List TxResult} (ordered : (front ++ .tokenDetected candidate :: back).Pairwise Before)
    (member : .newBlock block results ∈ front ++ .tokenDetected candidate :: back)
    (level : block.height = candidate.height) : .newBlock block results ∈ back := by
  rcases List.mem_append.1 member with early | late
  · have before := (List.pairwise_append.1 ordered).2.2 _ early _ List.mem_cons_self
    rcases before with below | ⟨_, token⟩
    · exact absurd level (UInt64.ne_of_lt below)
    · cases token
  · rcases List.mem_cons.1 late with same | late
    · cases same
    · exact late

/-- The store has what is announced: the height is committed, and a block is the one at its height. -/
structure Held {σ : Type} [Store σ] (store : σ) (event : Event) : Prop where
  latest : ∃ top, Store.latest store = .ok (some top) ∧ event.height ≤ top
  present : ∃ block, Store.block store event.height = .ok (some block)
  block : ∀ block, event.block? = some block → Store.block store event.height = .ok (some block)

end Event

namespace Commit

open Token Store.Keeping

theorem mem_announcement {detector : Detector} {entry : FetchedBlock} {event : Event}
    (member : event ∈ announcement detector entry) :
    event.height = entry.block.height ∧ ∀ block, event.block? = some block → block = entry.block := by
  rcases List.mem_append.1 member with token | block
  · obtain ⟨candidate, detected, rfl⟩ := List.mem_map.1 token
    obtain ⟨deployment, _, looked⟩ := List.mem_filterMap.1 detected
    refine ⟨?_, fun block none => (nomatch none)⟩
    unfold Detector.candidate? at looked
    split at looked
    · split at looked
      · cases looked
        rfl
      · cases looked
    · cases looked
  · rw [List.mem_singleton.1 block]
    exact ⟨rfl, fun block same => (Option.some.inj same).symm⟩

theorem ordered_announcement (detector : Detector) (entry : FetchedBlock) :
    (announcement detector entry).Pairwise Event.Before := by
  have level : ∀ event ∈ announcement detector entry, event.height = entry.block.height :=
    fun event member => (mem_announcement member).1
  rw [announcement] at level ⊢
  refine List.pairwise_append.2 ⟨?_, List.pairwise_singleton _ _, ?_⟩
  · rw [List.pairwise_map]
    refine List.pairwise_of_forall_mem_list fun a one b other => .inr ⟨?_, rfl⟩
    rw [level _ (List.mem_append_left _ (List.mem_map_of_mem one)),
      level _ (List.mem_append_left _ (List.mem_map_of_mem other))]
  · intro a token b block
    obtain ⟨candidate, _, rfl⟩ := List.mem_map.1 token
    refine .inr ⟨?_, rfl⟩
    rw [level _ (List.mem_append_left _ token), level _ (List.mem_append_right _ block)]

variable {σ : Type} [Store σ] [Store.Keeping σ] {store after : σ}

section Chunk

variable {detector : Detector} {range : HeightRange} {c : Chunk} {events : List Event}
  (exact : Exact range c) (sound : Sound store)
  (committed : (chunk detector store range c).result = .ok (after, events))

include sound committed

theorem mem_events_of_chunk {event : Event} :
    event ∈ events ↔ ∃ entry ∈ accepted store .empty c.entries, event ∈ announcement detector entry := by
  rw [(chunk_eq_ok sound committed).2.1, List.mem_flatMap]

theorem announced_of_accepted {entry : FetchedBlock} (takes : entry ∈ accepted store .empty c.entries) :
    .newBlock entry.block entry.results ∈ events :=
  (mem_events_of_chunk sound committed).2
    ⟨entry, takes, List.mem_append_right _ (List.mem_singleton_self _)⟩

theorem announced_of_staged {block : Block} (written : block ∈ (stage detector store c).batch.blocks) :
    ∃ results, .newBlock block results ∈ events := by
  rw [(extends_stage detector store c).blocks] at written
  obtain ⟨entry, takes, rfl⟩ := List.mem_map.1 written
  exact ⟨entry.results, announced_of_accepted sound committed takes⟩

theorem announced_of_token {candidate : TokenCandidate} (member : .tokenDetected candidate ∈ events) :
    ∃ block results, .newBlock block results ∈ events ∧ block.height = candidate.height := by
  obtain ⟨entry, takes, announced⟩ := (mem_events_of_chunk sound committed).1 member
  exact ⟨entry.block, entry.results, announced_of_accepted sound committed takes,
    (mem_announcement announced).1.symm⟩

theorem gained_of_chunk (h : Height) :
    (contents after).block h = (contents store).block h ∨
      ∃ block results, .newBlock block results ∈ events ∧ (contents after).block h = some block := by
  obtain ⟨_, _, results, _, written⟩ := chunk_eq_ok sound committed
  rw [written]
  rcases Contents.block_write_cases (contents store)
    ((accepted store .empty c.entries).map (·.block)) results h with old | ⟨block, taken, _, new⟩
  · exact .inl old
  · obtain ⟨entry, takes, rfl⟩ := List.mem_map.1 taken
    exact .inr ⟨entry.block, entry.results, announced_of_accepted sound committed takes, new⟩

include exact

theorem contains_of_chunk {event : Event} (member : event ∈ events) :
    range.contains event.height := by
  obtain ⟨entry, takes, announced⟩ := (mem_events_of_chunk sound committed).1 member
  rw [(mem_announcement announced).1]
  exact exact.contains ((accepted_sublist _ _ _).subset takes)

theorem ordered_of_chunk : events.Pairwise Event.Before := by
  rw [(chunk_eq_ok sound committed).2.1, List.pairwise_flatMap]
  refine ⟨fun entry _ => ordered_announcement detector entry, ?_⟩
  refine (exact.ascending.sublist (accepted_sublist store .empty c.entries)).imp ?_
  intro low high below a one b other
  left
  rw [(mem_announcement one).1, (mem_announcement other).1]
  exact below

theorem block_of_chunk {entry : FetchedBlock} (takes : entry ∈ accepted store .empty c.entries) :
    (contents after).block entry.block.height = some entry.block := by
  obtain ⟨_, _, results, _, written⟩ := chunk_eq_ok sound committed
  rw [written]
  apply Contents.block_write_of_mem
  · exact List.pairwise_map.2 (exact.ascending.sublist (accepted_sublist store .empty c.entries))
  · exact List.mem_map_of_mem takes

theorem held_of_chunk {latest : Option Height} (initial : Store.latest store = .ok latest) {event : Event}
    (member : event ∈ events) : event.Held after := by
  obtain ⟨entry, takes, announced⟩ := (mem_events_of_chunk sound committed).1 member
  obtain ⟨level, same⟩ := mem_announcement announced
  have inside := contains_of_chunk exact sound committed member
  have here : Store.block after event.height = .ok (some entry.block) := by
    rw [block_eq (chunk_eq_ok sound committed).1, level, block_of_chunk exact sound committed takes]
  refine ⟨⟨range.last, latest_of_chunk initial committed, ?_⟩, ⟨entry.block, here⟩, ?_⟩
  · simp only [HeightRange.contains, Bool.and_eq_true, decide_eq_true_eq] at inside
    exact inside.2
  · intro block announced
    rw [same block announced]
    exact here

/-- A block that the store refuses is not announced, and no token of it is. -/
theorem refused_of_chunk {front back : List FetchedBlock} {entry : FetchedBlock} {error : StoreError}
    (shape : c.entries = front ++ entry :: back)
    (refused : Store.setBlock store (stage detector store ⟨front⟩).batch entry.block = .error error) :
    ∀ event ∈ events, event.height ≠ entry.block.height := by
  intro event member same
  obtain ⟨other, takes, announced⟩ := (mem_events_of_chunk sound committed).1 member
  have skipped : accepted store .empty c.entries = accepted store .empty front ++
      accepted store (stage detector store ⟨front⟩).batch back := by
    have onward : accepted store (stage detector store ⟨front⟩).batch (entry :: back) =
        accepted store (stage detector store ⟨front⟩).batch back := by
      rw [accepted, refused]
    rw [← onward, shape]
    exact accepted_append detector store front (entry :: back) .empty
  have elsewhere : other ∈ front ∨ other ∈ back := by
    rw [skipped] at takes
    rcases List.mem_append.1 takes with early | late
    · exact .inl ((accepted_sublist _ _ _).subset early)
    · exact .inr ((accepted_sublist _ _ _).subset late)
  have level : other.block.height = entry.block.height := by
    rw [← (mem_announcement announced).1, same]
  have ascending := exact.ascending
  rw [shape] at ascending
  obtain ⟨_, tail, across⟩ := List.pairwise_append.1 ascending
  rcases elsewhere with early | late
  · have below := across other early entry List.mem_cons_self
    rw [level] at below
    exact UInt64.lt_irrefl _ below
  · have below := (List.pairwise_cons.1 tail).1 other late
    rw [level] at below
    exact UInt64.lt_irrefl _ below

end Chunk

structure Shown (events : List Event) (detector : Detector) (before : σ) (range : HeightRange)
    (c : Chunk) : Prop where
  /-- Once the chunk is committed, so is every block that the store accepted. -/
  written : ∀ after own, (chunk detector before range c).result = .ok (after, own) →
    ∀ block ∈ (stage detector before c).batch.blocks, ∃ results, .newBlock block results ∈ events
  /-- A block that the store refused is not, and no token of it is. -/
  refused : ∀ front entry back error, c.entries = front ++ entry :: back →
    Store.setBlock before (stage detector before ⟨front⟩).batch entry.block = .error error →
      ∀ event ∈ events, event.height ≠ entry.block.height
  /-- Nothing is, when the marker or the commit fails. -/
  failed : ∀ error, (chunk detector before range c).result = .error error →
    ∀ event ∈ events, range.contains event.height = false

/-- An outcome is that of a chunk of its range, committed to a store in good order. -/
structure Origin (detector : Detector) (before : σ) (c : Chunk) (outcome : Outcome σ) : Prop where
  sound : Sound before
  readable : ∃ latest, Store.latest before = .ok latest
  exact : Exact outcome.range c
  same : outcome = chunk detector before outcome.range c

section Succession

variable {outcomes : List (Outcome σ)}

omit [Store σ] [Store.Keeping σ] in
theorem mem_events_iff {outcome : Outcome σ} {event : Event} :
    event ∈ outcome.events ↔ ∃ after events, outcome.result = .ok (after, events) ∧ event ∈ events := by
  unfold Outcome.events
  cases outcome.result with
  | error e => simp
  | ok pair => simp [Prod.ext_iff]

theorem Origin.result {detector : Detector} {before : σ} {c : Chunk} {outcome : Outcome σ}
    (origin : Origin detector before c outcome) :
    (chunk detector before outcome.range c).result = outcome.result :=
  congrArg Outcome.result origin.same.symm

omit [Store σ] [Store.Keeping σ] in
/-- No two chunks go to the store for one height. -/
theorem eq_of_contains (ascending : Ascending (outcomes.map (·.range))) {a b : Outcome σ}
    (one : a ∈ outcomes) (other : b ∈ outcomes) {h : Height} (inside : a.range.contains h)
    (inside' : b.range.contains h) : a = b := by
  by_contra different
  have apart := List.pairwise_map.1 (apart_of_ascending ascending)
  have symmetric : Std.Symm fun a b : Outcome σ =>
      ∀ h, ¬ (a.range.contains h ∧ b.range.contains h) :=
    ⟨fun a b separate h both => separate h ⟨both.2, both.1⟩⟩
  exact apart.forall one other different h ⟨inside, inside'⟩

variable (succession : Succession Exact store outcomes after) (sound : Sound store)

include succession sound

theorem gained_of_succession (h : Height) :
    (contents after).block h = (contents store).block h ∨
      ∃ block results, .newBlock block results ∈ outcomes.flatMap (·.events) ∧
        (contents after).block h = some block := by
  induction outcomes generalizing store with
  | nil =>
    cases succession
    exact .inl rfl
  | cons outcome rest ih =>
    obtain ⟨⟨detector, c, exact, same⟩, tail⟩ := succession
    cases result : outcome.result with
    | error e =>
      rw [result] at tail
      exact .inl (by rw [tail.2])
    | ok pair =>
      obtain ⟨next, events⟩ := pair
      rw [result] at tail
      have started : (chunk detector store outcome.range c).result = .ok (next, events) := same ▸ result
      rw [List.flatMap_cons, show outcome.events = events by rw [Outcome.events, result]]
      rcases ih tail (chunk_eq_ok sound started).1 with kept | ⟨block, results, announced, gained⟩
      · rcases gained_of_chunk sound started h with same | ⟨block, results, announced, gained⟩
        · exact .inl (kept.trans same)
        · exact .inr ⟨block, results, List.mem_append_left _ announced, kept.trans gained⟩
      · exact .inr ⟨block, results, List.mem_append_right _ announced, gained⟩

/-- What is announced stays in the store: the chunks that follow have other heights. -/
theorem kept_of_succession (ascending : Ascending (outcomes.map (·.range))) {event : Event}
    (announced : event ∈ outcomes.flatMap (·.events)) {block : Block} (own : event.block? = some block) :
    (contents after).block event.height = some block := by
  obtain ⟨outcome, member, belongs⟩ := List.mem_flatMap.1 announced
  obtain ⟨next, events, result, listed⟩ := mem_events_iff.1 belongs
  obtain ⟨earlier, later, before, shape, _, first, ⟨detector, c, exact, same⟩, onward⟩ :=
    split_of_succession succession member
  have soundBefore := (contents_outside first sound).1
  have started : (chunk detector before outcome.range c).result = .ok (next, events) := same ▸ result
  have inside := contains_of_chunk exact soundBefore started listed
  obtain ⟨entry, takes, of⟩ := (mem_events_of_chunk soundBefore started).1 listed
  obtain ⟨level, isEntry⟩ := mem_announcement of
  have rest := onward next events result
  have untouched : ∀ range ∈ committed later, range.contains event.height = false := by
    intro range taken
    obtain ⟨o, filtered, rfl⟩ := List.mem_map.1 taken
    have late := (List.mem_filter.1 filtered).1
    rw [shape, List.map_append, List.map_cons] at ascending
    have tail := (List.pairwise_append.1 ascending).2.1
    have below := (List.pairwise_cons.1 tail).1 o.range (List.mem_map_of_mem late)
    simp only [HeightRange.contains, Bool.and_eq_true, decide_eq_true_eq, Bool.and_eq_false_iff,
      decide_eq_false_iff_not] at inside ⊢
    exact .inl (UInt64.not_le.2 (UInt64.lt_of_le_of_lt inside.2 below))
  rw [((contents_outside rest (chunk_eq_ok soundBefore started).1).2 _ untouched).1, level,
    block_of_chunk exact soundBefore started takes, isEntry block own]

variable {latest : Option Height} (initial : Store.latest store = .ok latest)

include initial

theorem origin_of_mem {outcome : Outcome σ} (member : outcome ∈ outcomes) :
    ∃ detector before c, Origin detector before c outcome := by
  obtain ⟨earlier, later, before, _, _, first, ⟨detector, c, exact, same⟩, _⟩ :=
    split_of_succession succession member
  exact ⟨detector, before, c, (contents_outside first sound).1, ⟨_, latest_of_succession initial first⟩,
    exact, same⟩

theorem contains_of_mem {outcome : Outcome σ} (member : outcome ∈ outcomes) {event : Event}
    (announced : event ∈ outcome.events) : outcome.range.contains event.height := by
  obtain ⟨next, events, result, belongs⟩ := mem_events_iff.1 announced
  obtain ⟨detector, before, c, origin⟩ := origin_of_mem succession sound initial member
  exact contains_of_chunk origin.exact origin.sound (origin.result.trans result) belongs

theorem held_of_mem {outcome : Outcome σ} (member : outcome ∈ outcomes) {next : σ} {events : List Event}
    (result : outcome.result = .ok (next, events)) {event : Event} (announced : event ∈ events) :
    event.Held next := by
  obtain ⟨detector, before, c, origin⟩ := origin_of_mem succession sound initial member
  obtain ⟨_, read⟩ := origin.readable
  exact held_of_chunk origin.exact origin.sound (origin.result.trans result) read announced

variable (ascending : Ascending (outcomes.map (·.range)))

include ascending

theorem ordered_of_succession : (outcomes.flatMap (·.events)).Pairwise Event.Before := by
  rw [List.pairwise_flatMap]
  constructor
  · intro outcome member
    cases result : outcome.result with
    | error e =>
      rw [Outcome.events, result]
      exact List.Pairwise.nil
    | ok pair =>
      obtain ⟨detector, before, c, origin⟩ := origin_of_mem succession sound initial member
      rw [Outcome.events, result]
      exact ordered_of_chunk origin.exact origin.sound (origin.result.trans result)
  · refine List.Pairwise.imp_of_mem ?_ (List.pairwise_map.1 ascending)
    intro low high one other below a early b late
    have inside := contains_of_mem succession sound initial one early
    have inside' := contains_of_mem succession sound initial other late
    simp only [HeightRange.contains, Bool.and_eq_true, decide_eq_true_eq] at inside inside'
    exact .inl (UInt64.lt_of_le_of_lt inside.2 (UInt64.lt_of_lt_of_le below inside'.1))

/-- What is announced about a height comes from the chunk of that height. -/
theorem mem_events_of_contains {outcome : Outcome σ} (member : outcome ∈ outcomes) {event : Event}
    (announced : event ∈ outcomes.flatMap (·.events)) (inside : outcome.range.contains event.height) :
    event ∈ outcome.events := by
  obtain ⟨other, present, belongs⟩ := List.mem_flatMap.1 announced
  have inside' := contains_of_mem succession sound initial present belongs
  rw [eq_of_contains ascending member present inside inside']
  exact belongs

theorem shown_of_mem {outcome : Outcome σ} (member : outcome ∈ outcomes) :
    ∃ detector before c, Origin detector before c outcome ∧
      Shown (outcomes.flatMap (·.events)) detector before outcome.range c := by
  obtain ⟨detector, before, c, origin⟩ := origin_of_mem succession sound initial member
  have own {event : Event} (announced : event ∈ outcomes.flatMap (·.events))
      (inside : outcome.range.contains event.height) : event ∈ outcome.events :=
    mem_events_of_contains succession sound initial ascending member announced inside
  refine ⟨detector, before, c, origin, { written := ?_, refused := ?_, failed := ?_ }⟩
  · intro after events result block staged
    obtain ⟨results, announced⟩ := announced_of_staged origin.sound result staged
    exact ⟨results, List.mem_flatMap.2 ⟨outcome, member,
      mem_events_iff.2 ⟨after, events, origin.result.symm.trans result, announced⟩⟩⟩
  · intro front entry back error shape refused event announced level
    have inside : outcome.range.contains event.height := by
      rw [level]
      exact origin.exact.contains (by simp [shape])
    obtain ⟨after, events, result, listed⟩ := mem_events_iff.1 (own announced inside)
    exact refused_of_chunk origin.exact origin.sound (origin.result.trans result) shape refused event
      listed level
  · intro error failed event announced
    by_contra inside
    have listed := own announced (by simpa using inside)
    rw [Outcome.events, ← origin.result, failed] at listed
    cases listed

end Succession

end Commit

namespace Ingestion

open Store.Keeping Token

variable {σ : Type} [Store σ] {store : σ}

omit [Store σ] in
theorem events_eq (i : Ingestion σ) : i.events = i.outcomes.flatMap (·.events) := by
  simp [events, outcomes, Step.events, List.flatMap_assoc]

/-- What a run that began with `store` has announced, and what is in the store. -/
structure Announced (store : σ) (i : Ingestion σ) : Prop where
  /-- New blocks go up the chain, each height once. -/
  ascending : (i.events.filterMap Event.block?).Pairwise fun a b => a.height < b.height
  /-- The tokens of a height come after all lower heights, and before its block. -/
  ordered : i.events.Pairwise Event.Before
  /-- What is announced after a commit is in the store that the commit left. -/
  held : ∀ outcome ∈ i.outcomes, ∀ after events, outcome.result = .ok (after, events) →
    ∀ event ∈ events, event.Held after
  shown : ∀ outcome ∈ i.outcomes, ∃ detector before c, Exact outcome.range c ∧
    outcome = Commit.chunk detector before outcome.range c ∧
      Commit.Shown i.events detector before outcome.range c
  /-- Every block in the store is announced, or it was there before. -/
  gained : ∀ h block, Store.block i.fetcher.store h = .ok (some block) →
    Store.block store h = .ok (some block) ∨ ∃ results, .newBlock block results ∈ i.events
  kept : ∀ block results, .newBlock block results ∈ i.events →
    Store.block i.fetcher.store block.height = .ok (some block)
  /-- After a token its block follows in the same step. -/
  followed : ∀ turn ∈ i.history, ∀ front candidate back,
    turn.step.events = front ++ .tokenDetected candidate :: back →
      ∃ block results, .newBlock block results ∈ back ∧ block.height = candidate.height

variable {i : Ingestion σ}

theorem announced_of_quiet (quiet : Quiet store i) : Announced store i := by
  have nothing : i.events = [] := by rw [events_eq, quiet.outcomes, List.flatMap_nil]
  have noOutcome (outcome : Commit.Outcome σ) : outcome ∉ i.outcomes := by simp [quiet.outcomes]
  refine { ascending := ?_, ordered := ?_, held := ?_, shown := ?_, gained := ?_, kept := ?_,
           followed := ?_ }
  · simp [nothing]
  · simp [nothing]
  · exact fun outcome member => absurd member (noOutcome outcome)
  · exact fun outcome member => absurd member (noOutcome outcome)
  · intro h block present
    rw [quiet.store] at present
    exact .inl present
  · simp [nothing]
  · intro turn member front candidate back shape
    have token : .tokenDetected candidate ∈ i.events :=
      List.mem_flatMap.2 ⟨turn, member, by simp [shape]⟩
    rw [nothing] at token
    cases token

variable [Store.Keeping σ] {latest : Option Height} (initial : Store.latest store = .ok latest)
  (succession : Commit.Succession Exact store i.outcomes i.fetcher.store) (sound : Sound store)

include initial succession sound

theorem followed_of_ordered (ordered : i.events.Pairwise Event.Before) {turn : Turn σ}
    (member : turn ∈ i.history) {front back : List Event} {candidate : TokenCandidate}
    (shape : turn.step.events = front ++ .tokenDetected candidate :: back) :
    ∃ block results, .newBlock block results ∈ back ∧ block.height = candidate.height := by
  have token : .tokenDetected candidate ∈ turn.step.events := by simp [shape]
  obtain ⟨outcome, tried, belongs⟩ := List.mem_flatMap.1 token
  have present : outcome ∈ i.outcomes := List.mem_flatMap.2 ⟨turn, member, tried⟩
  obtain ⟨after, events, result, listed⟩ := Commit.mem_events_iff.1 belongs
  obtain ⟨detector, before, c, origin⟩ := Commit.origin_of_mem succession sound initial present
  obtain ⟨block, results, announced, level⟩ :=
    Commit.announced_of_token origin.sound (origin.result.trans result) listed
  have whole : .newBlock block results ∈ turn.step.events :=
    List.mem_flatMap.2 ⟨outcome, tried, Commit.mem_events_iff.2 ⟨after, events, result, announced⟩⟩
  rw [Ingestion.events, List.pairwise_flatMap] at ordered
  have inOrder := ordered.1 turn member
  rw [shape] at inOrder whole
  exact ⟨block, results, Event.mem_back_of_ordered inOrder whole level, level⟩

theorem announced_of_succession (ascending : Ascending (i.outcomes.map (·.range))) :
    Announced store i := by
  have ordered : i.events.Pairwise Event.Before := by
    rw [events_eq]
    exact Commit.ordered_of_succession succession sound initial ascending
  have soundAfter := (Commit.contents_outside succession sound).1
  refine { ascending := Event.ascending_of_ordered ordered, ordered := ordered, held := ?_, shown := ?_,
           gained := ?_, kept := ?_, followed := ?_ }
  · intro outcome member after events result event announced
    exact Commit.held_of_mem succession sound initial member result announced
  · intro outcome member
    obtain ⟨detector, before, c, origin, shown⟩ :=
      Commit.shown_of_mem succession sound initial ascending member
    rw [← events_eq] at shown
    exact ⟨detector, before, c, origin.exact, origin.same, shown⟩
  · intro h block present
    rw [block_eq soundAfter] at present
    rcases Commit.gained_of_succession succession sound h with same | ⟨other, results, announced, gained⟩
    · left
      rw [block_eq sound, ← same]
      exact present
    · right
      rw [gained] at present
      cases present
      exact ⟨results, by rwa [events_eq]⟩
  · intro block results announced
    rw [events_eq] at announced
    rw [block_eq soundAfter]
    exact congrArg Except.ok (Commit.kept_of_succession succession sound ascending announced rfl)
  · intro turn member front candidate back shape
    exact followed_of_ordered initial succession sound ordered member shape

omit initial succession sound

/-- Whatever the store refuses and whenever it fails. -/
theorem announced_run {policy : Policy} {moves : List Move} (sound : Sound store)
    (bounded : ∀ remote, Move.tick (.ok remote) ∈ moves → remote < Height.greatest) (maxSlots : Nat) :
    Announced store ((start store maxSlots).run policy moves) := by
  cases initial : Store.latest store with
  | error e => exact announced_of_quiet (quiet_run initial)
  | ok latest =>
    have orderly : Orderly Exact (latest.getD 0) store ((start store maxSlots).run policy moves) := by
      apply orderly_run initial
      intro range answers _ c come
      exact Answers.exact_of_fetch come
    have tiles := tiles_run initial bounded policy maxSlots
    rw [orderly.accounted] at tiles
    exact announced_of_succession initial orderly.succession sound
      (ascending_of_tiles (tiles_append _ _ _ tiles))

/-- The store refuses the first of two blocks, and then it fails to commit the third. -/
theorem announced_between_failures :
    let both : HeightRange := ⟨1, 2, by decide, by decide⟩
    let third : HeightRange := ⟨3, 3, by decide, by decide⟩
    let refusing : Mishaps := { Mishaps.none with
      block := fun b => if b.height = 1 then some (.codec "refused") else none }
    let uncommitted : Mishaps := { Mishaps.none with commit := some (.transaction "lost") }
    let store : Failing MemoryStore := ⟨.empty, fun n => if n = 0 then refusing else uncommitted⟩
    let unasked := fun _ => .error (.rpc "offline")
    let moves : List Move := [.tick (.ok 3), .finish both Chain.plain.answers, .receive unasked,
      .tick (.ok 3), .finish third Chain.plain.answers, .receive unasked]
    let i := (start store 1).run (Policy.plain 2 3) moves
    Announced store i ∧ i.events = [.newBlock (Chain.plain.block 2) []] ∧
      i.stopped = some (.commit third (.transaction "lost")) := by
  intro both third refusing uncommitted store unasked moves i
  have sound : Sound store := MemoryStore.blank_empty.sound
  have bounded : ∀ remote, Move.tick (.ok remote) ∈ moves → remote < Height.greatest := by
    intro remote member
    have three : remote = 3 := by simpa [moves] using member
    rw [three]
    decide
  exact ⟨announced_run sound bounded 1, by decide +kernel, by decide +kernel⟩

end Ingestion

end TokenIndexer
