import TokenIndexer.Proofs.Ingest.Fetch
import TokenIndexer.Proofs.Slot

/-!
Fetching a range from any client, one that changes with each request included: a client is as good as the
answers that it gave.
-/

namespace TokenIndexer

theorem eq_error_of_map {α β ε : Type} {f : α → β} {outcome : Except ε α} {e : ε}
    (failed : outcome.map f = .error e) : outcome = .error e := by
  cases outcome with
  | error own => exact congrArg Except.error (Except.error.inj failed)
  | ok a => cases failed

namespace BlockResults

theorem map_pairFrom (h : Height) (index : Nat) {txs : List Tx} {responses : List DeliverResponse}
    (same : responses.length = txs.length) :
    (pairFrom h index txs responses).map (·.tx) = txs ∧
      (pairFrom h index txs responses).map (·.response) = responses ∧
      (pairFrom h index txs responses).map (·.index) =
        (List.range' index txs.length).map UInt32.ofNat := by
  induction txs generalizing index responses with
  | nil =>
    rw [List.length_eq_zero_iff.1 same]
    exact ⟨rfl, rfl, rfl⟩
  | cons tx txs ih =>
    cases responses with
    | nil => cases same
    | cons response responses =>
      obtain ⟨paired, answered, indices⟩ := ih (index + 1) (Nat.succ.inj same)
      rw [pairFrom, List.map_cons, List.map_cons, List.map_cons, paired, answered, indices]
      exact ⟨rfl, rfl, rfl⟩

theorem pair_eq_ok_iff {results : BlockResults} {block : Block} {paired : List TxResult} :
    results.pair block = .ok paired ↔ results.height = block.height ∧
      results.responses.length = block.txs.length ∧
      paired = pairFrom block.height 0 block.txs results.responses := by
  unfold pair
  by_cases height : results.height = block.height
  · by_cases count : results.responses.length = block.txs.length
    · simp [height, count, eq_comm]
    · simp [height, count]
  · simp [height]

theorem pair_eq_error {results : BlockResults} {block : Block} {e : NodeError}
    (failed : results.pair block = .error e) :
    (results.height ≠ block.height ∧ e = .heightMismatch block.height results.height) ∨
      results.responses.length ≠ block.txs.length ∧
        e = .decode (.resultCount block.height block.txs.length results.responses.length) := by
  unfold pair at failed
  split at failed
  · next differs => exact .inl ⟨differs, (Except.error.inj failed).symm⟩
  · split at failed
    · next differs => exact .inr ⟨differs, (Except.error.inj failed).symm⟩
    · cases failed

end BlockResults

theorem Block.checked_eq_error {h : Height} {block : Block} {e : NodeError}
    (failed : Block.checked h block = .error e) :
    block.height ≠ h ∧ e = .heightMismatch h block.height := by
  unfold checked at failed
  split at failed
  · cases failed
  · next differs => exact ⟨differs, (Except.error.inj failed).symm⟩

theorem Answer.andThen_eq_error {α β : Type} {answer : Answer α} {next : α → Except NodeError β}
    {e : FetchFailure} (failed : (answer.andThen next).outcome = .error e) :
    answer.outcome = .error e ∨
      ∃ a own, answer.outcome = .ok a ∧ next a = .error own ∧ e = .node own := by
  unfold andThen at failed
  cases outcome : answer.outcome with
  | error e' =>
    rw [outcome] at failed
    exact .inl (congrArg Except.error (Except.error.inj failed))
  | ok a =>
    rw [outcome] at failed
    change (next a).mapError FetchFailure.node = _ at failed
    cases result : next a with
    | error own =>
      rw [result] at failed
      exact .inr ⟨a, own, rfl, result, (Except.error.inj failed).symm⟩
    | ok b =>
      rw [result] at failed
      cases failed

theorem Answer.both_eq_error {α β : Type} {first : Answer α} {second : Answer β} {e : FetchFailure}
    (failed : (first.both second).outcome = .error e) :
    first.outcome = .error e ∨ second.outcome = .error e := by
  unfold both at failed
  split at failed
  · cases failed
  · next outcome _ =>
    cases failed
    exact .inl outcome
  · next outcome =>
    cases failed
    exact .inr outcome
  · next outcome outcome' =>
    split at failed
    · cases failed
      exact .inl outcome
    · cases failed
      exact .inr outcome'

theorem Chunk.resultsAt_cases (c : Chunk) (h : Height) :
    (∃ entry ∈ c.entries, entry.block.height = h ∧ c.resultsAt h = entry.results) ∨
      (∀ entry ∈ c.entries, entry.block.height ≠ h) ∧ c.resultsAt h = [] := by
  unfold resultsAt
  split
  · next found present =>
    have same : found.block.height = h := by simpa using List.find?_some present
    exact .inl ⟨found, List.mem_of_find?_eq_some present, same, rfl⟩
  · next absent =>
    refine .inr ⟨?_, rfl⟩
    intro entry member same
    exact List.find?_eq_none.1 absent entry member (decide_eq_true same)

namespace Fetch

inductive Exchange where
  | block (h : Height) (answer : Answer Block)
  | results (h : Height) (answer : Answer BlockResults)

namespace Exchange

def height : Exchange → Height
  | .block h _ => h
  | .results h _ => h

/-- It could be an exchange with a node that gives these answers. -/
def With (answers : Answers) : Exchange → Prop
  | .block h answer => answers.block h = answer
  | .results h answer => answers.results h = answer

end Exchange

def recorded {σ : Type} (client : BlockSource (StateM σ)) : BlockSource (StateM (σ × List Exchange)) where
  block h := fun (s, past) =>
    let (answer, after) := client.block h s
    (answer, after, past ++ [.block h answer])
  results h := fun (s, past) =>
    let (answer, after) := client.results h s
    (answer, after, past ++ [.results h answer])

/-- The failure of a block that comes at once, before its results are asked for. -/
def settled? (h : Height) (block : Answer Block) : Option FetchFailure :=
  match (block.andThen (Block.checked h)).wait, (block.andThen (Block.checked h)).outcome with
  | 0, .error e => some e
  | _, _ => none

def joined (h : Height) (block : Answer Block) (results : Answer BlockResults) : Answer FetchedBlock :=
  ((block.andThen (Block.checked h)).both results).andThen fun both =>
    (both.2.pair both.1).map fun results => ⟨both.1, results⟩

section Source

variable {m : Type → Type} [Monad m]

theorem height_eq (source : BlockSource m) (h : Height) :
    height source h = do
      let block ← source.block h
      match settled? h block with
      | some e => return .atOnce (.error e)
      | none => return joined h block (← source.results h) := by
  unfold height
  congr 1
  funext block
  unfold settled? joined
  generalize block.andThen (Block.checked h) = checked
  rcases checked with ⟨_ | wait, e | found⟩ <;> rfl

def each (source : BlockSource m) : List Height → m (Except FetchFailure (List FetchedBlock))
  | [] => return .ok []
  | h :: rest => do
    match (← height source h).outcome with
    | .error e => return .error e
    | .ok entry => return (← each source rest).map (entry :: ·)

theorem heightsFrom_eq_each (source : BlockSource m) (count : Nat) (h : Height) :
    heightsFrom source count h = each source ((List.range count).map fun k => h + UInt64.ofNat k) := by
  induction count generalizing h with
  | zero => rfl
  | succ count ih =>
    rw [Height.map_range_succ, heightsFrom, each]
    congr 1
    funext answer
    cases answer.outcome with
    | error e => rfl
    | ok entry => exact congrArg (fun later => do return (← later).map (entry :: ·)) (ih (h + 1))

theorem range_eq_each (source : BlockSource m) (range : HeightRange) :
    Fetch.range source range = do return (← each source range.heights).map Chunk.mk := by
  rw [Fetch.range, heightsFrom_eq_each, HeightRange.heights, HeightRange.upTo, Nat.min_self]

end Source

end Fetch

namespace Answers

open Fetch

def exchanges (answers : Answers) (h : Height) : List Exchange :=
  .block h (answers.block h) ::
    match settled? h (answers.block h) with
    | some _ => []
    | none => [.results h (answers.results h)]

def transcript (answers : Answers) : List Height → List Exchange
  | [] => []
  | h :: rest =>
    answers.exchanges h ++
      match answers.height h with
      | .error _ => []
      | .ok _ => answers.transcript rest

def entries (answers : Answers) (heights : List Height) : Except FetchFailure (List FetchedBlock) :=
  (each answers.source heights).run

theorem height_eq (answers : Answers) (h : Height) :
    answers.height h =
      match settled? h (answers.block h) with
      | some e => .error e
      | none => (joined h (answers.block h) (answers.results h)).outcome := by
  rw [height, Fetch.height_eq]
  simp only [source, bind, pure, Id.run]
  cases settled? h (answers.block h) <;> rfl

variable {answers other : Answers} {h : Height} {heights : List Height} {x : Exchange}

theorem entries_cons_of_error (rest : List Height) {e : FetchFailure}
    (failed : answers.height h = .error e) :
    answers.entries (h :: rest) = .error e ∧ answers.transcript (h :: rest) = answers.exchanges h := by
  constructor
  · change (Fetch.height answers.source h).run.outcome = .error e at failed
    rw [entries, each, Id.run_bind, failed]
    rfl
  · rw [transcript, failed, List.append_nil]

theorem entries_cons_of_ok (rest : List Height) {entry : FetchedBlock}
    (come : answers.height h = .ok entry) :
    answers.entries (h :: rest) = (answers.entries rest).map (entry :: ·) ∧
      answers.transcript (h :: rest) = answers.exchanges h ++ answers.transcript rest := by
  constructor
  · change (Fetch.height answers.source h).run.outcome = .ok entry at come
    rw [entries, each, Id.run_bind, come]
    rfl
  · rw [transcript, come]

theorem mem_exchanges (member : x ∈ answers.exchanges h) : x.height = h ∧ x.With answers := by
  rcases List.mem_cons.1 member with rfl | second
  · exact ⟨rfl, rfl⟩
  · split at second
    · cases second
    · rw [List.mem_singleton.1 second]
      exact ⟨rfl, rfl⟩

theorem mem_transcript (member : x ∈ answers.transcript heights) :
    x.height ∈ heights ∧ x.With answers := by
  induction heights with
  | nil => cases member
  | cons h rest ih =>
    rcases List.mem_append.1 member with first | later
    · obtain ⟨rfl, own⟩ := mem_exchanges first
      exact ⟨List.mem_cons_self, own⟩
    · cases come : answers.height h with
      | error e =>
        rw [come] at later
        cases later
      | ok entry =>
        rw [come] at later
        obtain ⟨among, own⟩ := ih later
        exact ⟨List.mem_cons_of_mem _ among, own⟩

/-- What was not asked for does not matter. -/
theorem height_determined (given : ∀ x ∈ answers.exchanges h, x.With other) :
    other.height h = answers.height h ∧ other.exchanges h = answers.exchanges h := by
  have block : other.block h = answers.block h := given _ List.mem_cons_self
  rw [height_eq, height_eq, exchanges, exchanges, block]
  cases failed : settled? h (answers.block h) with
  | some e => exact ⟨rfl, rfl⟩
  | none =>
    have asked : Exchange.results h (answers.results h) ∈ answers.exchanges h := by
      simp [exchanges, failed]
    have results : other.results h = answers.results h := given _ asked
    rw [results]
    exact ⟨rfl, rfl⟩

theorem entries_determined (given : ∀ x ∈ answers.transcript heights, x.With other) :
    other.entries heights = answers.entries heights ∧
      other.transcript heights = answers.transcript heights := by
  induction heights with
  | nil => exact ⟨rfl, rfl⟩
  | cons h rest ih =>
    obtain ⟨same, same'⟩ : other.height h = answers.height h ∧ _ :=
      height_determined fun x member => given x (List.mem_append_left _ member)
    cases come : answers.height h with
    | error e =>
      obtain ⟨failed, asked⟩ := entries_cons_of_error rest come
      rw [come] at same
      obtain ⟨failed', asked'⟩ := entries_cons_of_error rest same
      rw [failed, failed', asked, asked', same']
      exact ⟨rfl, rfl⟩
    | ok entry =>
      obtain ⟨more, asked⟩ := entries_cons_of_ok rest come
      rw [come] at same
      obtain ⟨more', asked'⟩ := entries_cons_of_ok rest same
      rw [asked] at given
      obtain ⟨later, later'⟩ := ih fun x member => given x (List.mem_append_right _ member)
      rw [more, more', asked, asked', same', later, later']
      exact ⟨rfl, rfl⟩

/-- Answers about other heights do not matter. -/
theorem entries_congr (same : ∀ h ∈ heights, other.block h = answers.block h ∧
      other.results h = answers.results h) :
    other.entries heights = answers.entries heights ∧
      other.transcript heights = answers.transcript heights := by
  apply entries_determined
  intro x member
  obtain ⟨among, own⟩ := mem_transcript member
  cases x with
  | block h answer => exact (same h among).1.trans own
  | results h answer => exact (same h among).2.trans own

end Answers

namespace Fetch

variable {σ : Type}

section Run

variable {client : BlockSource (StateM σ)} {h : Height} {s next after : σ} {block : Answer Block}
  {answer : Answer FetchedBlock}

theorem run_height_of_some (asked : (client.block h).run s = (block, after)) {e : FetchFailure}
    (failed : settled? h block = some e) : (height client h).run s = (.atOnce (.error e), after) := by
  rw [height_eq, StateT.run_bind, asked]
  change StateT.run (match settled? h block with | some e => _ | none => _) after = _
  rw [failed]
  rfl

theorem run_height_of_none (asked : (client.block h).run s = (block, next))
    (unsettled : settled? h block = none) {results : Answer BlockResults}
    (listed : (client.results h).run next = (results, after)) :
    (height client h).run s = (joined h block results, after) := by
  rw [height_eq, StateT.run_bind, asked]
  change StateT.run (match settled? h block with | some e => _ | none => _) next = _
  rw [unsettled]
  change StateT.run (do return joined h block (← client.results h)) next = _
  rw [StateT.run_bind, listed]
  rfl

theorem run_each_of_error (rest : List Height) (ran : (height client h).run s = (answer, after))
    {e : FetchFailure} (failed : answer.outcome = .error e) :
    (each client (h :: rest)).run s = (.error e, after) := by
  rw [each, StateT.run_bind, ran]
  change StateT.run (match answer.outcome with | .error e => _ | .ok entry => _) after = _
  rw [failed]
  rfl

theorem run_each_of_ok (rest : List Height) (ran : (height client h).run s = (answer, after))
    {entry : FetchedBlock} (come : answer.outcome = .ok entry) :
    (each client (h :: rest)).run s =
      (((each client rest).run after).1.map (entry :: ·), ((each client rest).run after).2) := by
  rw [each, StateT.run_bind, ran]
  change StateT.run (match answer.outcome with | .error e => _ | .ok entry => _) after = _
  rw [come]
  rfl

end Run

section Recorded

variable {client : BlockSource (StateM σ)} {h : Height} {s after : σ} (past : List Exchange)

theorem block_recorded {block : Answer Block} (asked : (client.block h).run s = (block, after)) :
    ((recorded client).block h).run (s, past) = (block, after, past ++ [.block h block]) := by
  change (((client.block h).run s).1, ((client.block h).run s).2,
    past ++ [.block h ((client.block h).run s).1]) = _
  rw [asked]

theorem results_recorded {results : Answer BlockResults}
    (listed : (client.results h).run s = (results, after)) :
    ((recorded client).results h).run (s, past) = (results, after, past ++ [.results h results]) := by
  change (((client.results h).run s).1, ((client.results h).run s).2,
    past ++ [.results h ((client.results h).run s).1]) = _
  rw [listed]

end Recorded

theorem height_recorded (client : BlockSource (StateM σ)) (h : Height) (s : σ) :
    ∃ answer after block results, (height client h).run s = (answer, after) ∧
      ∀ answers : Answers, answers.block h = block → answers.results h = results →
        answers.height h = answer.outcome ∧ ∀ past,
          (height (recorded client) h).run (s, past) = (answer, after, past ++ answers.exchanges h) := by
  obtain ⟨block, next, asked⟩ : ∃ block next, (client.block h).run s = (block, next) := ⟨_, _, rfl⟩
  obtain ⟨results, after, listed⟩ : ∃ results after, (client.results h).run next = (results, after) :=
    ⟨_, _, rfl⟩
  cases settled : settled? h block with
  | some e =>
    refine ⟨.atOnce (.error e), next, block, results, run_height_of_some asked settled, ?_⟩
    rintro answers rfl rfl
    constructor
    · rw [Answers.height_eq, settled]
      rfl
    · intro past
      rw [run_height_of_some (block_recorded past asked) settled, Answers.exchanges, settled]
  | none =>
    refine ⟨joined h block results, after, block, results,
      run_height_of_none asked settled listed, ?_⟩
    rintro answers rfl rfl
    constructor
    · rw [Answers.height_eq, settled]
    · intro past
      rw [run_height_of_none (block_recorded past asked) settled (results_recorded _ listed),
        Answers.exchanges, settled, List.append_assoc]
      rfl

theorem each_recorded (client : BlockSource (StateM σ)) {heights : List Height}
    (distinct : heights.Nodup) (s : σ) :
    ∃ (answers : Answers) (after : σ), (each client heights).run s = (answers.entries heights, after) ∧
      ∀ past, (each (recorded client) heights).run (s, past) =
        (answers.entries heights, after, past ++ answers.transcript heights) := by
  induction heights generalizing s with
  | nil =>
    -- nothing is asked, so any answers do
    refine ⟨.offline, s, rfl, fun past => ?_⟩
    rw [Answers.transcript, List.append_nil]
    rfl
  | cons h rest ih =>
    obtain ⟨unlike, distinct⟩ := List.nodup_cons.1 distinct
    obtain ⟨answer, next, block, results, ran, brings⟩ := height_recorded client h s
    cases outcome : answer.outcome with
    | error e =>
      let answers : Answers := ⟨fun _ => block, fun _ => results⟩
      obtain ⟨own, recording⟩ := brings answers rfl rfl
      rw [outcome] at own
      obtain ⟨failed, asked⟩ := Answers.entries_cons_of_error rest own
      refine ⟨answers, next, ?_, fun past => ?_⟩
      · rw [failed, run_each_of_error rest ran outcome]
      · rw [failed, asked, run_each_of_error rest (recording past) outcome]
    | ok entry =>
      obtain ⟨later, after, onward, onward'⟩ := ih distinct next
      let answers : Answers :=
        ⟨Function.update later.block h block, Function.update later.results h results⟩
      obtain ⟨own, recording⟩ := brings answers (Function.update_self ..) (Function.update_self ..)
      rw [outcome] at own
      -- no height comes twice, so the later answers leave this height open
      have elsewhere : ∀ k ∈ rest, answers.block k = later.block k ∧ answers.results k = later.results k := by
        intro k member
        have differs : k ≠ h := by
          rintro rfl
          exact unlike member
        exact ⟨Function.update_of_ne differs .., Function.update_of_ne differs ..⟩
      obtain ⟨same, same'⟩ := Answers.entries_congr elsewhere
      obtain ⟨more, asked⟩ := Answers.entries_cons_of_ok rest own
      refine ⟨answers, after, ?_, fun past => ?_⟩
      · rw [more, same, run_each_of_ok rest ran outcome, onward]
      · rw [more, asked, same, same', run_each_of_ok rest (recording past) outcome, onward',
          List.append_assoc]

end Fetch

namespace Answers

open Fetch

/-- The answers about a height are about that height, and there is a result for each transaction. -/
def Fits (answers : Answers) (h : Height) : Prop :=
  ∃ block results, (answers.block h).outcome = .ok block ∧ (answers.results h).outcome = .ok results ∧
    block.height = h ∧ results.height = h ∧ results.responses.length = block.txs.length

inductive Blames (answers : Answers) (h : Height) : FetchFailure → Prop where
  | block {e : FetchFailure} (failed : (answers.block h).outcome = .error e) : Blames answers h e
  | results {e : FetchFailure} (failed : (answers.results h).outcome = .error e) : Blames answers h e
  | wrongBlock {block : Block} (come : (answers.block h).outcome = .ok block)
      (differs : block.height ≠ h) : Blames answers h (.node (.heightMismatch h block.height))
  | wrongResults {results : BlockResults} (come : (answers.results h).outcome = .ok results)
      (differs : results.height ≠ h) : Blames answers h (.node (.heightMismatch h results.height))
  | miscounted {block : Block} {results : BlockResults} (come : (answers.block h).outcome = .ok block)
      (come' : (answers.results h).outcome = .ok results)
      (differs : results.responses.length ≠ block.txs.length) :
      Blames answers h (.node (.decode (.resultCount h block.txs.length results.responses.length)))

variable {answers : Answers} {h : Height} {heights : List Height} {range : HeightRange}

theorem fits_iff : answers.Fits h ↔ ∃ entry, answers.height h = .ok entry := by
  constructor
  · rintro ⟨block, results, asked, listed, same, same', count⟩
    refine ⟨⟨block, BlockResults.pairFrom block.height 0 block.txs results.responses⟩, ?_⟩
    apply height_eq_ok_iff.2
    exact ⟨results, asked, listed, same, BlockResults.pair_eq_ok_iff.2 ⟨same'.trans same.symm, count, rfl⟩⟩
  · rintro ⟨entry, come⟩
    obtain ⟨results, asked, listed, same, paired⟩ := height_eq_ok_iff.1 come
    obtain ⟨same', count, _⟩ := BlockResults.pair_eq_ok_iff.1 paired
    exact ⟨entry.block, results, asked, listed, same, same'.trans same, count⟩

theorem blames_of_block {e : FetchFailure}
    (failed : ((answers.block h).andThen (Block.checked h)).outcome = .error e) : answers.Blames h e := by
  rcases Answer.andThen_eq_error failed with own | ⟨block, own, come, wrong, rfl⟩
  · exact .block own
  · obtain ⟨differs, rfl⟩ := Block.checked_eq_error wrong
    exact .wrongBlock come differs

theorem blames_of_error {e : FetchFailure} (failed : answers.height h = .error e) :
    answers.Blames h e := by
  rw [height_eq] at failed
  split at failed
  · next atOnce =>
    cases failed
    unfold settled? at atOnce
    split at atOnce
    · next outcome =>
      cases atOnce
      exact blames_of_block outcome
    · cases atOnce
  · rcases Answer.andThen_eq_error failed with one | ⟨⟨block, results⟩, own, come, wrong, rfl⟩
    · rcases Answer.both_eq_error one with first | second
      · exact blames_of_block first
      · exact .results second
    · obtain ⟨checked, listed⟩ := Answer.both_eq_ok_iff.1 come
      obtain ⟨_, asked, same⟩ := Answer.andThen_eq_ok_iff.1 checked
      obtain ⟨here, rfl⟩ := Block.checked_eq_ok_iff.1 same
      rcases BlockResults.pair_eq_error (eq_error_of_map wrong) with ⟨differs, rfl⟩ | ⟨differs, rfl⟩
      · rw [here] at differs ⊢
        exact .wrongResults listed differs
      · rw [here]
        exact .miscounted asked listed differs

theorem entries_eq_error {e : FetchFailure} (failed : answers.entries heights = .error e) :
    ∃ front h back, heights = front ++ h :: back ∧ (∀ k ∈ front, answers.Fits k) ∧
      answers.height h = .error e ∧ ∀ x ∈ answers.transcript heights, x.height ∈ front ++ [h] := by
  induction heights with
  | nil => cases failed
  | cons h rest ih =>
    cases come : answers.height h with
    | error e' =>
      obtain ⟨same, asked⟩ := entries_cons_of_error rest come
      rw [same] at failed
      cases failed
      refine ⟨[], h, rest, rfl, fun _ none => (nomatch none), come, fun x member => ?_⟩
      rw [asked] at member
      rw [(mem_exchanges member).1]
      exact List.mem_cons_self
    | ok entry =>
      obtain ⟨more, asked⟩ := entries_cons_of_ok rest come
      rw [more] at failed
      obtain ⟨front, lowest, back, rfl, fit, own, among⟩ := ih (eq_error_of_map failed)
      refine ⟨h :: front, lowest, back, rfl, ?_, own, fun x member => ?_⟩
      · intro k member
        rcases List.mem_cons.1 member with rfl | below
        · exact fits_iff.2 ⟨entry, come⟩
        · exact fit k below
      · rw [asked] at member
        rcases List.mem_append.1 member with first | later
        · rw [(mem_exchanges first).1]
          exact List.mem_cons_self
        · exact List.mem_cons_of_mem _ (among x later)

theorem fetch_eq_entries (answers : Answers) (range : HeightRange) :
    answers.fetch range = (answers.entries range.heights).map Chunk.mk := by
  rw [fetch, range_eq_each]
  rfl

/-- A chunk holds what was answered about the heights of its range, and nothing else. -/
structure Delivered (answers : Answers) (range : HeightRange) (c : Chunk) : Prop where
  heights : c.blocks.map (·.height.toNat) =
    List.range' range.first.toNat (range.last.toNat - range.first.toNat + 1)
  blocks : ∀ block ∈ c.blocks, (answers.block block.height).outcome = .ok block
  results : ∀ block ∈ c.blocks, ∃ results, (answers.results block.height).outcome = .ok results ∧
    (c.resultsAt block.height).map (·.tx) = block.txs ∧
    (c.resultsAt block.height).map (·.response) = results.responses ∧
    (c.resultsAt block.height).map (·.index) = (List.range' 0 block.txs.length).map UInt32.ofNat ∧
    ∀ result ∈ c.resultsAt block.height, result.height = block.height
  elsewhere : ∀ h, range.contains h = false → c.resultsAt h = []

theorem height_of_mem_entries {c : Chunk} (fetched : answers.fetch range = .ok c) {entry : FetchedBlock}
    (member : entry ∈ c.entries) :
    range.contains entry.block.height = true ∧ answers.height entry.block.height = .ok entry := by
  obtain ⟨h, among, come⟩ := exists_of_forall₂ (fetch_eq_ok_iff.1 fetched) member
  obtain ⟨_, _, _, rfl, _⟩ := height_eq_ok_iff.1 come
  exact ⟨HeightRange.mem_heights.1 among, come⟩

theorem fits_of_fetch {c : Chunk} (fetched : answers.fetch range = .ok c)
    (inside : range.contains h = true) : answers.Fits h := by
  have among := HeightRange.mem_heights.2 inside
  obtain ⟨entry, _, come⟩ := exists_of_forall₂ (fetch_eq_ok_iff.1 fetched).flip among
  exact fits_iff.2 ⟨entry, come⟩

theorem resultsAt_of_fetch {c : Chunk} (fetched : answers.fetch range = .ok c) {entry : FetchedBlock}
    (member : entry ∈ c.entries) : c.resultsAt entry.block.height = entry.results := by
  rcases c.resultsAt_cases entry.block.height with ⟨found, present, same, own⟩ | ⟨absent, _⟩
  · have come := (height_of_mem_entries fetched member).2
    have come' := (height_of_mem_entries fetched present).2
    rw [same, come] at come'
    rw [own, Except.ok.inj come']
  · exact absurd rfl (absent entry member)

theorem delivered_of_fetch {c : Chunk} (fetched : answers.fetch range = .ok c) :
    Delivered answers range c := by
  constructor
  · have heights := congrArg (List.map UInt64.toNat) (heights_of_fetch fetched)
    rw [range.toNat_heights, range.toNat_size] at heights
    rw [← heights, Chunk.blocks, List.map_map, List.map_map]
    rfl
  · intro block member
    obtain ⟨entry, among, rfl⟩ := List.mem_map.1 member
    obtain ⟨_, asked, _⟩ := height_eq_ok_iff.1 (height_of_mem_entries fetched among).2
    exact asked
  · intro block member
    obtain ⟨entry, among, rfl⟩ := List.mem_map.1 member
    obtain ⟨results, _, listed, _, paired⟩ :=
      height_eq_ok_iff.1 (height_of_mem_entries fetched among).2
    obtain ⟨_, count, own⟩ := BlockResults.pair_eq_ok_iff.1 paired
    obtain ⟨txs, responses, indices⟩ := BlockResults.map_pairFrom entry.block.height 0 count
    refine ⟨results, listed, ?_⟩
    rw [resultsAt_of_fetch fetched among]
    refine ⟨?_, ?_, ?_, BlockResults.height_of_mem_pair paired⟩
    · rw [own, txs]
    · rw [own, responses]
    · rw [own, indices]
  · intro h outside
    rcases c.resultsAt_cases h with ⟨found, present, rfl, _⟩ | ⟨_, none⟩
    · have inside := (height_of_mem_entries fetched present).1
      rw [outside] at inside
      cases inside
    · exact none

/-- The lowest height that does not fit fails a range, and nothing above it was asked for. -/
structure FailedAt (answers : Answers) (range : HeightRange) (e : FetchFailure) (asked : List Exchange)
    (h : Height) : Prop where
  inside : range.contains h = true
  unfit : ¬ answers.Fits h
  below : ∀ k, range.first ≤ k → k < h → answers.Fits k
  blamed : answers.Blames h e
  asked : ∀ x ∈ asked, x.height ≤ h

/-- A worker's report about a range, given what the client answered, and what the client was asked. -/
structure Complete (answers : Answers) (range : HeightRange) (result : Except FetchFailure Chunk)
    (asked : List Exchange) : Prop where
  delivered : (∃ c, result = .ok c) ↔ ∀ h, range.contains h = true → answers.Fits h
  chunk : ∀ c, result = .ok c → Delivered answers range c
  failed : ∀ e, result = .error e → ∃ h, FailedAt answers range e asked h
  within : ∀ x ∈ asked, range.contains x.height = true

theorem failedAt_of_fetch {e : FetchFailure} (failed : answers.fetch range = .error e) :
    ∃ h, FailedAt answers range e (answers.transcript range.heights) h := by
  rw [fetch_eq_entries] at failed
  have early := eq_error_of_map failed
  obtain ⟨front, h, back, shape, fit, own, among⟩ := entries_eq_error early
  have ascending := range.ascending_heights
  rw [shape] at ascending
  obtain ⟨_, tail, across⟩ := List.pairwise_append.1 ascending
  have inside : range.contains h = true := by
    rw [← HeightRange.mem_heights, shape]
    exact List.mem_append_right _ List.mem_cons_self
  refine ⟨h, { inside := inside, unfit := ?_, below := ?_, blamed := blames_of_error own, asked := ?_ }⟩
  · intro fits
    obtain ⟨entry, come⟩ := fits_iff.1 fits
    rw [own] at come
    cases come
  · intro k low below
    have within : k ∈ front ++ h :: back := by
      rw [← shape, HeightRange.mem_heights]
      simp only [HeightRange.contains, Bool.and_eq_true, decide_eq_true_eq] at inside ⊢
      exact ⟨low, UInt64.le_trans (UInt64.le_of_lt below) inside.2⟩
    rcases List.mem_append.1 within with before | later
    · exact fit k before
    · rcases List.mem_cons.1 later with rfl | behind
      · exact absurd below (UInt64.lt_irrefl _)
      · exact absurd ((List.pairwise_cons.1 tail).1 k behind) (UInt64.lt_asymm below)
  · intro x member
    rcases List.mem_append.1 (among x member) with before | last
    · exact UInt64.le_of_lt (across _ before h List.mem_cons_self)
    · rw [List.mem_singleton.1 last]
      exact UInt64.le_refl _

theorem complete_fetch (answers : Answers) (range : HeightRange) :
    Complete answers range (answers.fetch range) (answers.transcript range.heights) := by
  constructor
  · constructor
    · rintro ⟨c, fetched⟩ h inside
      exact fits_of_fetch fetched inside
    · intro fit
      cases result : answers.fetch range with
      | ok c => exact ⟨c, rfl⟩
      | error e =>
        obtain ⟨h, lowest⟩ := failedAt_of_fetch result
        exact absurd (fit h lowest.inside) lowest.unfit
  · intro c fetched
    exact delivered_of_fetch fetched
  · intro e failed
    exact failedAt_of_fetch failed
  · intro x member
    exact HeightRange.mem_heights.1 (mem_transcript member).1

end Answers

/-- Whatever answers the client may have for what it was not asked. -/
theorem Fetch.complete_range {σ : Type} (client : BlockSource (StateM σ)) (s : σ) (range : HeightRange) :
    ∃ result after asked, (Fetch.range client range).run s = (result, after) ∧
      (Fetch.range (recorded client) range).run (s, []) = (result, after, asked) ∧
      (∃ answers : Answers, ∀ x ∈ asked, x.With answers) ∧
      ∀ answers : Answers, (∀ x ∈ asked, x.With answers) → answers.Complete range result asked := by
  have distinct : range.heights.Nodup := range.ascending_heights.imp UInt64.ne_of_lt
  obtain ⟨own, after, ran, recording⟩ := each_recorded client distinct s
  refine ⟨own.fetch range, after, own.transcript range.heights, ?_, ?_, ?_, ?_⟩
  · rw [range_eq_each, own.fetch_eq_entries, StateT.run_bind, ran]
    rfl
  · rw [range_eq_each, own.fetch_eq_entries, StateT.run_bind, recording []]
    rfl
  · exact ⟨own, fun x member => (Answers.mem_transcript member).2⟩
  · intro answers given
    obtain ⟨same, same'⟩ := Answers.entries_determined given
    have complete := answers.complete_fetch range
    rwa [answers.fetch_eq_entries, same, same', ← own.fetch_eq_entries] at complete

-- the node answers with another block at 2, of which the results are not asked for
example :
    let client : BlockSource (StateM Unit) :=
      ⟨fun h => pure (.atOnce (.ok (Chain.plain.block (if h = 2 then 7 else h)))),
        fun h => pure (.atOnce (.ok (Chain.plain.results h)))⟩
    let ran := (Fetch.range (Fetch.recorded client) ⟨1, 3, by decide, by decide⟩).run ((), [])
    ran.1 = .error (.node (.heightMismatch 2 7)) ∧ ran.2.2.map (·.height) = [1, 1, 2] := by
  decide +kernel

end TokenIndexer
