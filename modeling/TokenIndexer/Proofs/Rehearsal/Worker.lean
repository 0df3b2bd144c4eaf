import TokenIndexer.Proofs.Ingest.Fetch
import TokenIndexer.Rehearsal.Run

namespace TokenIndexer

def Answers.failing (failure : FetchFailure) : Answers :=
  ⟨fun _ => .atOnce (.error failure), fun _ => .atOnce (.error failure)⟩

theorem Chain.follow_failing (chain : Chain) (failure : FetchFailure) :
    (Answers.failing failure).Follow chain :=
  ⟨fun _ _ come => (nomatch come), fun _ _ come => (nomatch come)⟩

theorem Answers.fetch_failing (failure : FetchFailure) (range : HeightRange) :
    (Answers.failing failure).fetch range = .error failure := by
  obtain ⟨count, size⟩ : ∃ count, range.size.toNat = count + 1 := by
    have ordered := range.toNat_ordered
    have counted := range.toNat_size
    exact ⟨range.last.toNat - range.first.toNat, by omega⟩
  unfold fetch Fetch.range
  rw [size]
  rfl

def Response.Comes (chain : Chain) (response : Response) : Prop :=
  ∀ chunk, response.result = .ok chunk → chain.answers.fetch response.range = .ok chunk

theorem Response.Comes.answers {chain : Chain} {response : Response} (comes : response.Comes chain) :
    ∃ answers : Answers, answers.Follow chain ∧ answers.fetch response.range = response.result := by
  cases result : response.result with
  | error failure => exact ⟨.failing failure, chain.follow_failing failure, Answers.fetch_failing _ _⟩
  | ok chunk => exact ⟨chain.answers, chain.follow_answers, comes chunk result⟩

namespace Rehearsal

/-- What the calls for blocks and for results bring when they succeed. -/
def Script.chain (script : Script) : Chain :=
  ⟨fun h => (script.blockAt h).block, fun h => (script.blockAt h).results⟩

theorem Script.outcome_eq_ok {α : Type} {faults : List (Option FetchFailure)}
    {later : Option FetchFailure} {count : Nat} {value other : α}
    (come : outcome faults later count value = .ok other) : other = value := by
  unfold outcome at come
  split at come
  · cases come
  · cases come
    rfl

def Script.answersAt (script : Script) (calls : Calls) : Answers where
  block h :=
    let b := script.blockAt h
    ⟨b.delay, outcome b.blockFaults b.blockLater (countOf h calls.block) b.block⟩
  results h :=
    let b := script.blockAt h
    .atOnce (outcome b.resultFaults b.resultLater (countOf h calls.results) b.results)

theorem Script.follow_answersAt (script : Script) (calls : Calls) :
    (script.answersAt calls).Follow script.chain :=
  ⟨fun _ _ come => outcome_eq_ok come, fun _ _ come => outcome_eq_ok come⟩

theorem Script.outcome_height (script : Script) (h : Height) (calls : Calls) :
    ((Fetch.height script.source h).run calls).1.outcome = (script.answersAt calls).height h := by
  unfold Answers.height Fetch.height
  simp only [source, Answers.source, answersAt, StateT.run_bind, StateT.run_get, StateT.run_set,
    StateT.run_pure, pure_bind]
  conv_rhs => simp only [bind, pure, Id.run]
  -- the call for the block does not count as one for results
  generalize Answer.andThen _ (Block.checked h) = block
  rcases block with ⟨_ | wait, _ | checked⟩ <;> rfl

theorem Script.height_of_outcome {script : Script} {h : Height} {calls : Calls} {entry : FetchedBlock}
    (come : ((Fetch.height script.source h).run calls).1.outcome = .ok entry) :
    script.chain.answers.height h = .ok entry := by
  rw [script.outcome_height] at come
  exact Answers.height_of_follow (script.follow_answersAt calls) come

/-- With what a worker fetched before it goes on at `h`, the chain's next blocks complete its range. -/
def Leads (chain : Chain) (range : HeightRange) (left : Nat) (h : Height)
    (fetched : List FetchedBlock) : Prop :=
  ∀ rest, (Fetch.heightsFrom chain.answers.source left h).run = .ok rest →
    chain.answers.fetch range = .ok ⟨fetched.reverse ++ rest⟩

theorem leads_start (chain : Chain) (range : HeightRange) :
    Leads chain range range.size.toNat range.first [] := by
  intro rest come
  unfold Answers.fetch Fetch.range
  rw [Id.run_bind, come]
  rfl

theorem Leads.next {chain : Chain} {range : HeightRange} {left : Nat} {h : Height}
    {fetched : List FetchedBlock} (leads : Leads chain range (left + 1) h fetched)
    {entry : FetchedBlock} (come : chain.answers.height h = .ok entry) :
    Leads chain range left (h + 1) (entry :: fetched) := by
  intro rest later
  have whole : (Fetch.heightsFrom chain.answers.source (left + 1) h).run = .ok (entry :: rest) := by
    change (Fetch.height chain.answers.source h).run.outcome = .ok entry at come
    rw [Fetch.heightsFrom, Id.run_bind, come]
    simp [later, Except.map]
  rw [leads _ whole, List.reverse_cons, List.append_assoc]
  rfl

namespace Worker

def range : Worker → HeightRange
  | .start range => range
  | .resume range _ _ _ _ => range

def Sound (chain : Chain) : Worker → Prop
  | .start _ => True
  | .resume range arrival left next fetched =>
    ∀ entry, arrival = .ok entry → Leads chain range left next (entry :: fetched)

end Worker

def Progress.Sound (chain : Chain) (range : HeightRange) : Progress → Prop
  | .finished response => response.range = range ∧ response.Comes chain
  | .waiting _ worker => worker.range = range ∧ worker.Sound chain

namespace Worker

theorem sound_proceed {script : Script} {range : HeightRange} {left : Nat} {h : Height}
    {fetched : List FetchedBlock} (leads : Leads script.chain range left h fetched) (calls : Calls) :
    (((proceed script.source range left h fetched).run calls).1).Sound script.chain range := by
  induction left generalizing h fetched calls with
  | zero =>
    refine ⟨rfl, fun chunk come => ?_⟩
    cases come
    simpa using leads [] rfl
  | succ left ih =>
    have brought (entry : FetchedBlock)
        (come : ((Fetch.height script.source h).run calls).1.outcome = .ok entry) :
        Leads script.chain range left (h + 1) (entry :: fetched) :=
      leads.next (script.height_of_outcome come)
    rw [proceed, StateT.run_bind]
    generalize (Fetch.height script.source h).run calls = asked at brought ⊢
    obtain ⟨⟨wait, outcome⟩, calls⟩ := asked
    cases wait with
    | zero =>
      cases outcome with
      | error e => exact ⟨rfl, fun _ come => (nomatch come)⟩
      | ok entry => exact ih (brought entry rfl) calls
    | succ wait => exact ⟨rfl, brought⟩

theorem sound_wake {script : Script} {worker : Worker} (sound : worker.Sound script.chain)
    (calls : Calls) : (((worker.wake script.source).run calls).1).Sound script.chain worker.range := by
  cases worker with
  | start range => exact sound_proceed (leads_start script.chain range) calls
  | resume range arrival left next fetched =>
    cases arrival with
    | error e => exact ⟨rfl, fun _ come => (nomatch come)⟩
    | ok entry => exact sound_proceed (sound entry rfl) calls

end Worker

end Rehearsal

end TokenIndexer
