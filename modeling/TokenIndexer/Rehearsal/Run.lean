import TokenIndexer.Ingest.Fetcher
import TokenIndexer.Rehearsal.Script

/-!
A run of the fetcher against a script in virtual time. At one instant all workers that can go on do so, in the
order in which they became able to; then the fetcher takes their responses in the order of completion; a tick
comes last.
-/

namespace TokenIndexer.Rehearsal

inductive Worker where
  | start (range : HeightRange)
  /-- One height arrives; `left` more follow from `next` on. -/
  | resume (range : HeightRange) (arrival : Except FetchFailure FetchedBlock) (left : Nat)
      (next : Height) (fetched : List FetchedBlock)

inductive Progress where
  | finished (response : Response)
  | waiting (wait : Nat) (worker : Worker)

namespace Worker

/-- Fetches heights until one takes time, with those fetched before, last first. -/
def proceed (source : BlockSource (StateM Calls)) (range : HeightRange) :
    Nat → Height → List FetchedBlock → StateM Calls Progress
  | 0, _, fetched => return .finished ⟨range, .ok ⟨fetched.reverse⟩⟩
  | left + 1, h, fetched => do
    let answer ← Fetch.height source h
    if answer.wait = 0 then
      match answer.outcome with
      | .error e => return .finished ⟨range, .error e⟩
      | .ok entry => proceed source range left (h + 1) (entry :: fetched)
    else return .waiting answer.wait (.resume range answer.outcome left (h + 1) fetched)

def wake (source : BlockSource (StateM Calls)) : Worker → StateM Calls Progress
  | .start range => proceed source range range.size.toNat range.first []
  | .resume range (.error e) _ _ _ => return .finished ⟨range, .error e⟩
  | .resume range (.ok entry) left next fetched =>
    proceed source range left next (entry :: fetched)

end Worker

structure Plan where
  script : Script
  policy : Policy
  ticker : Ticker
  retryDelay : Nat
  /-- When the run is called off. -/
  deadline : Nat

structure State (σ : Type) where
  now : Nat
  nextTick : Nat
  fetcher : Fetcher σ
  calls : Calls
  /-- Workers by the time at which they wake, those that wake together in the order in which they
  went to sleep. -/
  sleepers : List (Nat × Worker)
  events : List Event
  queried : List String

namespace State

variable {σ : Type}

def start (fetcher : Fetcher σ) : State σ := ⟨0, 0, fetcher, .none, [], [], []⟩

/-- Puts a worker to sleep, behind those that wake no later. -/
def sleep (time : Nat) (worker : Worker) (sleepers : List (Nat × Worker)) : List (Nat × Worker) :=
  sleepers.takeWhile (·.1 ≤ time) ++ (time, worker) :: sleepers.dropWhile (·.1 ≤ time)

def wake (plan : Plan) (worker : Worker) (state : State σ) : Option Response × State σ :=
  let (progress, calls) := (worker.wake plan.script.source).run state.calls
  let state := { state with calls := calls }
  match progress with
  | .finished response => (some response, state)
  | .waiting wait worker =>
    (none, { state with sleepers := sleep (state.now + wait) worker state.sleepers })

def wakeAll (plan : Plan) : List Worker → State σ → List Response × State σ
  | [], state => ([], state)
  | worker :: workers, state =>
    let (response, state) := state.wake plan worker
    let (responses, state) := wakeAll plan workers state
    (response.toList ++ responses, state)

def takeDue (state : State σ) : List Worker × State σ :=
  ((state.sleepers.takeWhile (·.1 ≤ state.now)).map (·.2),
    { state with sleepers := state.sleepers.dropWhile (·.1 ≤ state.now) })

def assign (plan : Plan) (state : State σ) (assignment : Assignment) : State σ :=
  let time := if assignment.delayed then state.now + plan.retryDelay else state.now
  { state with sleepers := sleep time (.start assignment.range) state.sleepers }

def follow (plan : Plan) (step : Step σ) (state : State σ) : State σ :=
  step.assigned.foldl (assign plan)
    { state with
      fetcher := step.fetcher
      events := state.events ++ step.events
      queried := state.queried ++ step.queried }

variable [Store σ]

/-- The fetcher takes responses, up to the first that stops it. -/
def respondAll (plan : Plan) : List Response → State σ → State σ × Option FetchError
  | [], state => (state, none)
  | response :: responses, state =>
    let step := state.fetcher.respond plan.policy response
    let state := state.follow plan step
    match step.stopped with
    | some error => (state, some error)
    | none => respondAll plan responses state

def remote (plan : Plan) (state : State σ) : Except NodeError Height × State σ :=
  if state.fetcher.asksForHeight then
    let (height, calls) := plan.script.latest.run state.calls
    (height, { state with calls := calls })
  else (.error (.rpc ""), state)

def tick (plan : Plan) (state : State σ) : State σ × Option FetchError :=
  let (height, state) := state.remote plan
  let step := state.fetcher.tick plan.policy height
  let state := state.follow plan step
  ({ state with nextTick := plan.ticker.after state.nextTick }, step.stopped)

def nextTime (state : State σ) : Nat :=
  match state.sleepers with
  | [] => state.nextTick
  | (time, _) :: _ => min time state.nextTick

/-- All that happens at the next instant, up to the workers that only become able to go on by it. -/
def turn (plan : Plan) (state : State σ) : State σ × Option FetchError :=
  let state := { state with now := max state.now state.nextTime }
  let (workers, state) := state.takeDue
  let (responses, state) := wakeAll plan workers state
  match respondAll plan responses state with
  | (state, some error) => (state, some error)
  | (state, none) => if state.nextTick ≤ state.now then state.tick plan else (state, none)

/-- Takes turns until the fetcher stops or the deadline is reached, at most so many. -/
def run (plan : Plan) : Nat → State σ → State σ × Option FetchError
  | 0, state => (state, none)
  | turns + 1, state =>
    if plan.deadline ≤ state.nextTime then (state, none)
    else
      match state.turn plan with
      | (state, some error) => (state, some error)
      | (state, none) => run plan turns state

end State

end TokenIndexer.Rehearsal
