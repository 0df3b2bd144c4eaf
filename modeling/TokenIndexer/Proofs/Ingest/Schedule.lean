import Mathlib.Data.List.Induction
import TokenIndexer.Proofs.Ingest.Fetch
import TokenIndexer.Proofs.Ingest.Steps

/-!
The fetcher among its workers. A list of moves is one interleaving; a move that cannot be made then changes
nothing, so every list is one.
-/

namespace TokenIndexer

inductive Signal where
  | tick (remote : Except NodeError Height)
  | response (response : Response)

def Fetcher.handle {σ : Type} [Store σ] (policy : Policy) (f : Fetcher σ) : Signal → Step σ
  | .tick remote => f.tick policy remote
  | .response response => f.respond policy response

def Policy.asking (policy : Policy) (query : String → Except NodeError QueryResponse) : Policy :=
  { policy with detector := { policy.detector with query := query } }

def Policy.plain (maxChunkSize : UInt64) (maxAttempts : UInt32) : Policy :=
  ⟨maxChunkSize, maxAttempts, ⟨.json, false, fun _ => .error (.rpc "offline")⟩⟩

structure Turn (σ : Type) where
  signal : Signal
  step : Step σ

structure Ingestion (σ : Type) where
  fetcher : Fetcher σ
  /-- The ranges that wait before they are fetched again. -/
  delayed : List HeightRange
  /-- The ranges that workers are at. -/
  running : List HeightRange
  /-- What workers reported and the fetcher did not take yet, in the order in which it came. -/
  arrived : List Response
  history : List (Turn σ)

inductive Move where
  /-- A tick, and what the node answers about its latest height. -/
  | tick (remote : Except NodeError Height)
  | wake (range : HeightRange)
  /-- A worker is done with its range, and these were the node's answers. -/
  | finish (range : HeightRange) (answers : Answers)
  /-- The fetcher takes the response that came first. -/
  | receive (query : String → Except NodeError QueryResponse)

namespace Ingestion

variable {σ : Type}

def start (store : σ) (maxSlots : Nat) : Ingestion σ := ⟨.start store maxSlots, [], [], [], []⟩

def stopped (i : Ingestion σ) : Option FetchError := i.history.getLast?.bind (·.step.stopped)

def assigned (i : Ingestion σ) : List Assignment := i.history.flatMap (·.step.assigned)

/-- The ranges that were assigned for the first time, in order. -/
def reserved (i : Ingestion σ) : List HeightRange :=
  (i.assigned.filter fun a => !a.delayed).map (·.range)

def outcomes (i : Ingestion σ) : List (Commit.Outcome σ) := i.history.flatMap (·.step.outcomes)

def events (i : Ingestion σ) : List Event := i.history.flatMap (·.step.events)

def queried (i : Ingestion σ) : List String := i.history.flatMap (·.step.queried)

/-- The ranges that a response is still to come for, or that it waits for. -/
def outstanding (i : Ingestion σ) : List HeightRange :=
  i.delayed ++ i.running ++ i.arrived.map (·.range)

variable [Store σ]

def take (policy : Policy) (i : Ingestion σ) (signal : Signal) : Ingestion σ :=
  let step := i.fetcher.handle policy signal
  { i with
    fetcher := step.fetcher
    delayed := i.delayed ++ (step.assigned.filter (·.delayed)).map (·.range)
    running := i.running ++ (step.assigned.filter fun a => !a.delayed).map (·.range)
    history := i.history ++ [⟨signal, step⟩] }

def advance (policy : Policy) (i : Ingestion σ) (move : Move) : Ingestion σ :=
  if i.stopped.isSome then i
  else
    match move with
    | .tick remote => i.take policy (.tick remote)
    | .wake range =>
      if range ∈ i.delayed then
        { i with delayed := i.delayed.erase range, running := i.running ++ [range] }
      else i
    | .finish range answers =>
      if range ∈ i.running then
        { i with
          running := i.running.erase range
          arrived := i.arrived ++ [⟨range, answers.fetch range⟩] }
      else i
    | .receive query =>
      match i.arrived with
      | [] => i
      | response :: rest => take (policy.asking query) { i with arrived := rest } (.response response)

def run (policy : Policy) (moves : List Move) (i : Ingestion σ) : Ingestion σ :=
  moves.foldl (advance policy) i

section Take

variable (policy : Policy) (i : Ingestion σ) (signal : Signal)

@[simp] theorem fetcher_take :
    (i.take policy signal).fetcher = (i.fetcher.handle policy signal).fetcher := rfl

@[simp] theorem delayed_take :
    (i.take policy signal).delayed = i.delayed ++
      (((i.fetcher.handle policy signal).assigned.filter (·.delayed)).map (·.range)) := rfl

@[simp] theorem running_take :
    (i.take policy signal).running = i.running ++
      (((i.fetcher.handle policy signal).assigned.filter fun a => !a.delayed).map (·.range)) := rfl

@[simp] theorem arrived_take : (i.take policy signal).arrived = i.arrived := rfl

@[simp] theorem stopped_take :
    (i.take policy signal).stopped = (i.fetcher.handle policy signal).stopped := by
  simp [stopped, take]

@[simp] theorem outcomes_take :
    (i.take policy signal).outcomes = i.outcomes ++ (i.fetcher.handle policy signal).outcomes := by
  simp [outcomes, take]

@[simp] theorem events_take :
    (i.take policy signal).events = i.events ++ (i.fetcher.handle policy signal).events := by
  simp [events, take]

@[simp] theorem queried_take :
    (i.take policy signal).queried = i.queried ++ (i.fetcher.handle policy signal).queried := by
  simp [queried, take]

@[simp] theorem assigned_take :
    (i.take policy signal).assigned = i.assigned ++ (i.fetcher.handle policy signal).assigned := by
  simp [assigned, take]

@[simp] theorem reserved_take :
    (i.take policy signal).reserved = i.reserved ++
      (((i.fetcher.handle policy signal).assigned.filter fun a => !a.delayed).map (·.range)) := by
  simp [reserved, assigned, take]

@[simp] theorem reserved_take_response (response : Response) :
    (i.take policy (.response response)).reserved = i.reserved := by
  rw [reserved_take, Fetcher.handle, Fetcher.outright_respond, List.map_nil, List.append_nil]

end Take

variable {policy : Policy} {moves : List Move}

theorem run_wake (policy : Policy) (i : Ingestion σ) (going : i.stopped = none) :
    i.run policy (i.delayed.map .wake) = { i with delayed := [], running := i.running ++ i.delayed } := by
  obtain ⟨fetcher, delayed, running, arrived, history⟩ := i
  induction delayed generalizing running with
  | nil => simp [run]
  | cons range rest ih =>
    have step : advance policy ⟨fetcher, range :: rest, running, arrived, history⟩ (.wake range) =
        ⟨fetcher, rest, running ++ [range], arrived, history⟩ := by
      simp [advance, going]
    rw [List.map_cons, run, List.foldl_cons, step]
    rw [← run, ih (running ++ [range]) going]
    simp

/-- What all kinds of moves keep is kept by a move. -/
theorem advance_preserves (Inv : Ingestion σ → Prop) (i : Ingestion σ) (move : Move) (holds : Inv i)
    (tick : ∀ remote, move = .tick remote → i.stopped = none → Inv (i.take policy (.tick remote)))
    (wake : ∀ range, range ∈ i.delayed →
      Inv { i with delayed := i.delayed.erase range, running := i.running ++ [range] })
    (finish : ∀ range answers, move = .finish range answers → range ∈ i.running →
      Inv { i with
        running := i.running.erase range
        arrived := i.arrived ++ [⟨range, answers.fetch range⟩] })
    (receive : ∀ query response rest, i.arrived = response :: rest → i.stopped = none →
      Inv (take (policy.asking query) { i with arrived := rest } (.response response))) :
    Inv (i.advance policy move) := by
  unfold advance
  split
  · exact holds
  · next going =>
    have notStopped : i.stopped = none := by simpa using going
    cases move with
    | tick remote => exact tick remote rfl notStopped
    | wake range =>
      by_cases waiting : range ∈ i.delayed
      · simpa only [if_pos waiting] using wake range waiting
      · simpa only [if_neg waiting] using holds
    | finish range answers =>
      by_cases busy : range ∈ i.running
      · simpa only [if_pos busy] using finish range answers rfl busy
      · simpa only [if_neg busy] using holds
    | receive query =>
      cases queue : i.arrived with
      | nil => simpa only [queue] using holds
      | cons response rest => simpa only [queue] using receive query response rest queue notStopped

theorem run_preserves (Inv : Ingestion σ → Prop) {i : Ingestion σ} (initial : Inv i)
    (kept : ∀ (i : Ingestion σ) (move : Move), move ∈ moves → Inv i → Inv (i.advance policy move)) :
    Inv (i.run policy moves) := by
  induction moves generalizing i with
  | nil => exact initial
  | cons move rest ih =>
    exact ih (kept i move List.mem_cons_self initial) fun i move member =>
      kept i move (List.mem_cons_of_mem _ member)

theorem run_append (front back : List Move) (i : Ingestion σ) :
    i.run policy (front ++ back) = (i.run policy front).run policy back := List.foldl_append

theorem advance_of_stopped {i : Ingestion σ} {error : FetchError} (stopped : i.stopped = some error)
    (move : Move) : i.advance policy move = i := if_pos (by simp [stopped])

/-- A run that stopped has ended with the move that stopped it. -/
theorem stopped_run {i : Ingestion σ} (going : i.stopped = none) {error : FetchError}
    (stopped : (i.run policy moves).stopped = some error) :
    ∃ earlier move later, moves = earlier ++ move :: later ∧ (i.run policy earlier).stopped = none ∧
      i.run policy moves = (i.run policy earlier).advance policy move := by
  induction moves using List.reverseRecOn with
  | nil => cases going.symm.trans stopped
  | append_singleton moves move ih =>
    cases before : (i.run policy moves).stopped with
    | none => exact ⟨moves, move, [], rfl, before, run_append moves [move] i⟩
    | some e =>
      have same : i.run policy (moves ++ [move]) = i.run policy moves := by
        rw [run_append]
        exact advance_of_stopped before move
      rw [same] at stopped ⊢
      obtain ⟨earlier, last, later, rfl, awake, final⟩ := ih stopped
      exact ⟨earlier, last, later ++ [move], by simp, awake, final⟩

end Ingestion

end TokenIndexer
