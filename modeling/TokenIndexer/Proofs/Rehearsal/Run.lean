import TokenIndexer.Proofs.Ingest.Independence
import TokenIndexer.Proofs.Rehearsal.Worker

/-!
A rehearsal is one interleaving of the fetcher with its workers: what holds of all ingestion holds of a
rehearsal.
-/

namespace TokenIndexer.Rehearsal

def Script.Allows (script : Script) : Move → Prop
  | .tick remote => ∀ height, remote = .ok height → .ok height ∈ script.remote
  | .finish _ answers => answers.Follow script.chain
  | _ => True

theorem Script.mem_of_latest {script : Script} {calls : Calls} {height : Height}
    (reported : (script.latest.run calls).1 = .ok height) : .ok height ∈ script.remote := by
  change (script.remote[calls.latest]?).getD (script.remote.getLast?.getD (.error (.rpc ""))) =
    .ok height at reported
  cases next : script.remote[calls.latest]? with
  | some answer =>
    rw [next] at reported
    exact reported ▸ List.mem_of_getElem? next
  | none =>
    rw [next] at reported
    cases last : script.remote.getLast? with
    | some answer =>
      rw [last] at reported
      exact (show answer = _ from reported) ▸ List.mem_of_getLast? last
    | none =>
      rw [last] at reported
      cases reported

variable {σ : Type} [Store σ] {plan : Plan}

/-- Ingestion can go on from one state to another while the plan is followed. -/
def Reaches (plan : Plan) (i j : Ingestion σ) : Prop :=
  ∃ moves, (∀ move ∈ moves, plan.script.Allows move) ∧ j = i.run plan.policy moves

theorem Reaches.refl (i : Ingestion σ) : Reaches plan i i :=
  ⟨[], fun _ none => (nomatch none), rfl⟩

theorem Reaches.trans {i j k : Ingestion σ} (first : Reaches plan i j) (second : Reaches plan j k) :
    Reaches plan i k := by
  obtain ⟨moves, allowed, rfl⟩ := first
  obtain ⟨later, allowed', rfl⟩ := second
  refine ⟨moves ++ later, fun move member => ?_, (Ingestion.run_append moves later i).symm⟩
  rcases List.mem_append.1 member with early | late
  · exact allowed move early
  · exact allowed' move late

theorem reaches_advance (i : Ingestion σ) (move : Move) (allowed : plan.script.Allows move) :
    Reaches plan i (i.advance plan.policy move) := by
  refine ⟨[move], fun other member => ?_, rfl⟩
  rw [List.mem_singleton.1 member]
  exact allowed

theorem reaches_awake (i : Ingestion σ) (going : i.stopped = none) :
    Reaches plan i { i with delayed := [], running := i.running ++ i.delayed } := by
  rw [← Ingestion.run_wake plan.policy i going]
  refine ⟨i.delayed.map .wake, fun move member => ?_, rfl⟩
  obtain ⟨range, _, rfl⟩ := List.mem_map.1 member
  trivial

structure Shows (state : State σ) (i : Ingestion σ) : Prop where
  fetcher : i.fetcher = state.fetcher
  events : i.events = state.events
  queried : i.queried = state.queried

/-- The workers of ingestion are those of a rehearsal, the ones that are due and those that sleep. -/
structure Attends (plan : Plan) (due : List Worker) (responses : List Response) (state : State σ)
    (i : Ingestion σ) : Prop extends Shows state i where
  going : i.stopped = none
  delayed : i.delayed = []
  arrived : i.arrived = responses
  running : i.running.Perm ((due ++ state.sleepers.map (·.2)).map (·.range))
  sound : ∀ worker ∈ due ++ state.sleepers.map (·.2), worker.Sound plan.script.chain

namespace State

theorem perm_sleep (time : Nat) (worker : Worker) (sleepers : List (Nat × Worker)) :
    (sleep time worker sleepers).Perm ((time, worker) :: sleepers) := by
  unfold sleep
  apply List.perm_middle.trans
  rw [List.takeWhile_append_dropWhile]

omit [Store σ] in
theorem foldl_assign (plan : Plan) (assigned : List Assignment) (state : State σ) :
    ∃ sleepers, assigned.foldl (assign plan) state = { state with sleepers := sleepers } ∧
      (sleepers.map (·.2)).Perm
        (state.sleepers.map (·.2) ++ assigned.map fun a => Worker.start a.range) := by
  induction assigned generalizing state with
  | nil => exact ⟨state.sleepers, rfl, by simp⟩
  | cons first rest ih =>
    obtain ⟨sleepers, same, perm⟩ := ih (assign plan state first)
    refine ⟨sleepers, same, perm.trans ?_⟩
    have slept := (perm_sleep (if first.delayed then state.now + plan.retryDelay else state.now)
      (.start first.range) state.sleepers).map (·.2)
    apply (slept.append_right _).trans
    exact List.perm_middle.symm

omit [Store σ] in
theorem follow_eq (plan : Plan) (step : Step σ) (state : State σ) :
    ∃ sleepers, state.follow plan step =
        { state with
          fetcher := step.fetcher
          events := state.events ++ step.events
          queried := state.queried ++ step.queried
          sleepers := sleepers } ∧
      (sleepers.map (·.2)).Perm
        (state.sleepers.map (·.2) ++ step.assigned.map fun a => Worker.start a.range) :=
  foldl_assign plan step.assigned _

end State

section Wake

variable {worker : Worker} {due : List Worker} {responses : List Response} {state : State σ}
  {i : Ingestion σ}

omit [Store σ] in
theorem Attends.takeDue (attends : Attends plan [] responses state i) :
    Attends plan state.takeDue.1 responses state.takeDue.2 i := by
  have split : state.takeDue.1 ++ state.takeDue.2.sleepers.map (·.2) = state.sleepers.map (·.2) := by
    rw [State.takeDue, ← List.map_append, List.takeWhile_append_dropWhile]
  exact { attends with
    running := by
      rw [split]
      exact attends.running
    sound := by
      rw [split]
      exact attends.sound }

theorem Attends.wake (attends : Attends plan (worker :: due) responses state i) :
    ∃ j, Reaches plan i j ∧
      Attends plan due (responses ++ (state.wake plan worker).1.toList) (state.wake plan worker).2 j := by
  have sound := Worker.sound_wake (attends.sound worker List.mem_cons_self) state.calls
  unfold State.wake
  generalize (worker.wake plan.script.source).run state.calls = gone at sound
  obtain ⟨progress, calls⟩ := gone
  cases progress with
  | finished response =>
    obtain ⟨same, comes⟩ := sound
    obtain ⟨answers, follow, come⟩ := comes.answers
    have running : i.running.Perm
        (response.range :: (due ++ state.sleepers.map (·.2)).map (·.range)) := same ▸ attends.running
    have busy : response.range ∈ i.running := running.mem_iff.2 List.mem_cons_self
    have step : i.advance plan.policy (.finish response.range answers) =
        { i with running := i.running.erase response.range, arrived := i.arrived ++ [response] } := by
      simp [Ingestion.advance, attends.going, busy, come]
    refine ⟨_, reaches_advance i (.finish response.range answers) follow, ?_⟩
    rw [step]
    exact { attends with
      arrived := congrArg (· ++ [response]) attends.arrived
      running := List.cons_perm_iff_perm_erase.1 running.symm |>.2.symm
      sound := fun other member => attends.sound other (List.mem_cons_of_mem _ member) }
  | waiting wait later =>
    obtain ⟨same, still⟩ := sound
    have slept := (State.perm_sleep (state.now + wait) later state.sleepers).map (·.2)
    have workers : (due ++ (State.sleep (state.now + wait) later state.sleepers).map (·.2)).Perm
        (later :: (due ++ state.sleepers.map (·.2))) :=
      (slept.append_left due).trans List.perm_middle
    refine ⟨i, Reaches.refl i, ?_⟩
    exact { attends with
      arrived := attends.arrived.trans (List.append_nil _).symm
      running := by
        refine attends.running.trans ((workers.map (·.range)).trans ?_).symm
        rw [List.map_cons, same]
        exact List.Perm.refl _
      sound := by
        intro other member
        rcases List.mem_cons.1 (workers.mem_iff.1 member) with rfl | old
        · exact still
        · exact attends.sound other (List.mem_cons_of_mem _ old) }

theorem Attends.wakeAll (attends : Attends plan due responses state i) :
    ∃ j, Reaches plan i j ∧
      Attends plan [] (responses ++ (State.wakeAll plan due state).1) (State.wakeAll plan due state).2 j := by
  induction due generalizing responses state i with
  | nil =>
    refine ⟨i, Reaches.refl i, ?_⟩
    rw [State.wakeAll, List.append_nil]
    exact attends
  | cons worker due ih =>
    obtain ⟨j, first, woken⟩ := attends.wake
    obtain ⟨k, rest, done⟩ := ih woken
    refine ⟨k, first.trans rest, ?_⟩
    rw [List.append_assoc] at done
    exact done

end Wake

/-- What is left when the fetcher took its turn: a rehearsal that may go on unless the fetcher stopped. -/
def Arrives (plan : Plan) (responses : List Response) (i : Ingestion σ)
    (ends : State σ × Option FetchError) : Prop :=
  ∃ j, Reaches plan i j ∧ Shows ends.1 j ∧ j.stopped = ends.2 ∧
    (ends.2 = none → Attends plan [] responses ends.1 j)

section Turn

variable {responses : List Response} {state : State σ} {i : Ingestion σ}

theorem Attends.shows_take (attends : Attends plan [] responses state i) (signal : Signal) :
    Shows (state.follow plan (state.fetcher.handle plan.policy signal))
      (i.take plan.policy signal) := by
  obtain ⟨sleepers, follow, _⟩ := State.follow_eq plan (state.fetcher.handle plan.policy signal) state
  rw [follow]
  constructor
  · rw [Ingestion.fetcher_take, attends.fetcher]
  · rw [Ingestion.events_take, attends.fetcher, attends.events]
  · rw [Ingestion.queried_take, attends.fetcher, attends.queried]

theorem Attends.running_take (attends : Attends plan [] responses state i) (signal : Signal) :
    ((i.take plan.policy signal).running ++ (i.take plan.policy signal).delayed).Perm
      ((state.sleepers.map (·.2) ++ (state.fetcher.handle plan.policy signal).assigned.map
        fun a => Worker.start a.range).map (·.range)) := by
  rw [Ingestion.running_take, Ingestion.delayed_take, attends.delayed, attends.fetcher, List.nil_append]
  generalize (state.fetcher.handle plan.policy signal).assigned = assigned
  have both := (List.filter_append_perm (·.delayed) assigned).map (·.range)
  rw [List.map_append] at both
  have ranges : (assigned.map fun a => Worker.start a.range).map (·.range) = assigned.map (·.range) := by
    simp [Function.comp_def, Worker.range]
  rw [List.map_append, ranges, List.append_assoc]
  exact attends.running.append (List.perm_append_comm.trans both)

/-- Delays before retries are over at once. It is the worker that waits in a rehearsal. -/
theorem Attends.take (attends : Attends plan [] responses state i) (signal : Signal) :
    Arrives plan responses (i.take plan.policy signal)
      (state.follow plan (state.fetcher.handle plan.policy signal),
        (state.fetcher.handle plan.policy signal).stopped) := by
  have shows := attends.shows_take signal
  have stopped : (i.take plan.policy signal).stopped =
      (state.fetcher.handle plan.policy signal).stopped := by
    rw [Ingestion.stopped_take, attends.fetcher]
  by_cases going : (i.take plan.policy signal).stopped = none
  · refine ⟨_, reaches_awake _ going, { shows with }, stopped, fun _ => ?_⟩
    obtain ⟨sleepers, follow, slept⟩ :=
      State.follow_eq plan (state.fetcher.handle plan.policy signal) state
    rw [follow] at shows ⊢
    exact { shows with
      going := going
      delayed := rfl
      arrived := attends.arrived
      running := (attends.running_take signal).trans (slept.map (·.range)).symm
      sound := by
        intro worker member
        rcases List.mem_append.1 (slept.mem_iff.1 member) with old | new
        · exact attends.sound worker old
        · obtain ⟨assignment, _, rfl⟩ := List.mem_map.1 new
          trivial }
  · exact ⟨_, Reaches.refl _, shows, stopped, fun ends => absurd (stopped.trans ends) going⟩

theorem Attends.respond {response : Response} (attends : Attends plan [] (response :: responses) state i) :
    Arrives plan responses i
      (state.follow plan (state.fetcher.respond plan.policy response),
        (state.fetcher.respond plan.policy response).stopped) := by
  have dequeued : Attends plan [] responses state { i with arrived := responses } :=
    { attends with arrived := rfl }
  obtain ⟨j, onward, arrives⟩ := dequeued.take (.response response)
  refine ⟨j, ?_, arrives⟩
  have step : i.advance plan.policy (.receive plan.policy.detector.query) =
      Ingestion.take plan.policy { i with arrived := responses } (.response response) := by
    simp [Ingestion.advance, attends.going, attends.arrived, Policy.asking]
  rw [← step] at onward
  exact (reaches_advance i (.receive plan.policy.detector.query) trivial).trans onward

theorem Attends.respondAll (attends : Attends plan [] responses state i) :
    Arrives plan [] i (state.respondAll plan responses) := by
  induction responses generalizing state i with
  | nil => exact ⟨i, Reaches.refl i, attends.toShows, attends.going, fun _ => attends⟩
  | cons response rest ih =>
    obtain ⟨j, onward, shows, stopped, further⟩ := attends.respond
    rw [State.respondAll]
    cases outcome : (state.fetcher.respond plan.policy response).stopped with
    | some error => exact ⟨j, onward, shows, stopped.trans outcome, fun ends => (nomatch ends)⟩
    | none =>
      obtain ⟨k, later, arrives⟩ := ih (further outcome)
      exact ⟨k, onward.trans later, arrives⟩

theorem State.remote_eq (plan : Plan) (state : State σ) :
    ∃ answer calls, state.remote plan = (answer, { state with calls := calls }) ∧
      plan.script.Allows (.tick answer) := by
  unfold State.remote
  split
  · exact ⟨_, _, rfl, fun height reported => Script.mem_of_latest reported⟩
  · exact ⟨_, state.calls, rfl, fun height reported => (nomatch reported)⟩

theorem Attends.tick (attends : Attends plan [] responses state i) :
    Arrives plan responses i (state.tick plan) := by
  obtain ⟨answer, calls, asked, allowed⟩ := State.remote_eq plan state
  have asking : Attends plan [] responses { state with calls := calls } i := { attends with }
  obtain ⟨j, onward, shows, stopped, further⟩ := asking.take (.tick answer)
  have step : i.advance plan.policy (.tick answer) = i.take plan.policy (.tick answer) := by
    simp [Ingestion.advance, attends.going]
  rw [← step] at onward
  rw [State.tick, asked]
  exact ⟨j, (reaches_advance i (.tick answer) allowed).trans onward, { shows with }, stopped,
    fun ends => { further ends with }⟩

theorem Attends.turn (attends : Attends plan [] [] state i) : Arrives plan [] i (state.turn plan) := by
  have later : Attends plan [] [] { state with now := max state.now state.nextTime } i :=
    { attends with }
  obtain ⟨j, waking, woken⟩ := later.takeDue.wakeAll
  obtain ⟨k, responding, shows, stopped, further⟩ := woken.respondAll
  unfold State.turn
  simp only
  rw [List.nil_append] at shows stopped further
  generalize (State.respondAll plan _ _ : State σ × Option FetchError) = answered at shows stopped further ⊢
  obtain ⟨after, _ | error⟩ := answered
  · simp only
    split
    · obtain ⟨l, ticking, arrives⟩ := (further rfl).tick
      exact ⟨l, waking.trans (responding.trans ticking), arrives⟩
    · exact ⟨k, waking.trans responding, shows, stopped, further⟩
  · exact ⟨k, waking.trans responding, shows, stopped, fun ends => (nomatch ends)⟩

theorem Attends.run (attends : Attends plan [] [] state i) (turns : Nat) :
    Arrives plan [] i (state.run plan turns) := by
  induction turns generalizing state i with
  | zero => exact ⟨i, Reaches.refl i, attends.toShows, attends.going, fun _ => attends⟩
  | succ turns ih =>
    rw [State.run]
    split
    · exact ⟨i, Reaches.refl i, attends.toShows, attends.going, fun _ => attends⟩
    · obtain ⟨j, onward, shows, stopped, further⟩ := attends.turn
      generalize state.turn plan = turned at shows stopped further ⊢
      obtain ⟨after, _ | error⟩ := turned
      · obtain ⟨k, later, arrives⟩ := ih (further rfl)
        exact ⟨k, onward.trans later, arrives⟩
      · exact ⟨j, onward, shows, stopped, fun ends => (nomatch ends)⟩

end Turn

omit [Store σ] in
theorem attends_start (store : σ) (maxSlots : Nat) :
    Attends plan [] [] (State.start (.start store maxSlots)) (Ingestion.start store maxSlots) where
  fetcher := rfl
  events := rfl
  queried := rfl
  going := rfl
  delayed := rfl
  arrived := rfl
  running := List.Perm.nil
  sound := fun _ none => (nomatch none)

theorem exists_run (plan : Plan) (store : σ) (maxSlots turns : Nat) :
    ∃ moves, (∀ move ∈ moves, plan.script.Allows move) ∧
      let i := (Ingestion.start store maxSlots).run plan.policy moves
      let ends := (State.start (.start store maxSlots)).run plan turns
      Shows ends.1 i ∧ i.stopped = ends.2 := by
  obtain ⟨_, ⟨moves, allowed, rfl⟩, shows, stopped, _⟩ := (attends_start store maxSlots).run turns
  exact ⟨moves, allowed, shows, stopped⟩

/-- However it is timed, and whichever calls fail, a rehearsal fills the store from its script. -/
theorem filled_run [Store.Lawful σ] {taking : Taking} {store : σ}
    (filled : Filled plan.script.chain taking store) (maxSlots turns : Nat) :
    Filled plan.script.chain taking
      ((State.start (.start store maxSlots)).run plan turns).1.fetcher.store := by
  obtain ⟨moves, allowed, shows, _⟩ := exists_run plan store maxSlots turns
  have follows : Stint.Follows plan.script.chain ⟨plan.policy, maxSlots, moves⟩ := by
    intro move member
    cases move with
    | finish range answers => exact allowed (.finish range answers) member
    | tick remote => trivial
    | wake range => trivial
    | receive query => trivial
  have left := filled.run follows
  rw [Stint.run, shows.fetcher] at left
  exact left

end TokenIndexer.Rehearsal
