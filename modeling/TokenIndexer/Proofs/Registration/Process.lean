import Mathlib.Data.Bool.Count
import Mathlib.Data.List.Induction
import TokenIndexer.Proofs.Event.Subscription
import TokenIndexer.Registration.Task

namespace TokenIndexer

def Event.path? : Event → Option String
  | .newBlock .. => none
  | .tokenDetected candidate => some candidate.packagePath

namespace RegistrationTask

def call? (task : RegistrationTask) (event : Event) : Option String :=
  event.path?.filter fun path => !task.calls.contains path

inductive Phase where
  | waiting
  | handling (event : Event)
  | ended
  deriving DecidableEq

def Phase.event? : Phase → Option Event
  | handling event => some event
  | _ => none

structure Process where
  bus : Bus
  task : RegistrationTask
  phase : Phase
  cancelled : Bool
  /-- The events that the task is done with. -/
  handled : List Event
  /-- What the registrar answered, call by call. -/
  answers : List Bool
  deriving DecidableEq

inductive Move where
  /-- Somebody uses the bus. -/
  | bus (command : Bus.Command)
  | cancel
  /-- The task goes on. The call that it waits for, if there is one, comes back. -/
  | step (accepted : Bool)
  deriving DecidableEq

namespace Process

/-- The calls that were made, also the one that did not come back yet. -/
def calls (p : Process) : List String :=
  p.task.calls ++ (p.phase.event?.bind p.task.call?).toList

def consumed (p : Process) : List Event := p.handled ++ p.phase.event?.toList

def spawn (bus : Bus) : Process :=
  ⟨(bus.subscribeUnbounded [.tokenDetected]).2, .start, .waiting, false, [], []⟩

def finish (id : Nat) (p : Process) : Process := { p with phase := .ended, bus := p.bus.drop id }

def wake (id : Nat) (p : Process) : Process :=
  if p.cancelled then p.finish id
  else match p.bus.receive id with
    | (.event event, bus) => { p with bus := bus, phase := .handling event }
    | (.pending, _) => p
    | (.ended, _) => p.finish id

def settle (accepted : Bool) (event : Event) (p : Process) : Process :=
  { p with
    task := p.task.handle (fun _ => accepted) event
    phase := .waiting
    handled := p.handled ++ [event]
    answers := p.answers ++ ((p.task.call? event).map fun _ => accepted).toList }

def next (id : Nat) (p : Process) : Move → Process
  | .bus command => { p with bus := p.bus.step command }
  | .cancel => { p with cancelled := true }
  | .step accepted => match p.phase with
    | .waiting => p.wake id
    | .handling event => p.settle accepted event
    | .ended => p

/-- A task that was spawned on a bus. Its subscription is the latest one. -/
def run (bus : Bus) (moves : List Move) : Process :=
  moves.foldl (next bus.subscriptions.length) (spawn bus)

end Process

/-- Together the two halves of a turn are a step of the task. -/
theorem Process.step_eq {p : Process} {id : Nat} {event : Event} (active : p.cancelled = false)
    (found : (p.bus.receive id).1 = .event event) (accepted : Bool) :
    let after := (p.wake id).settle accepted event
    (after.task, after.bus) = p.task.step (fun _ => accepted) id p.bus := by
  unfold wake step
  rw [active]
  generalize p.bus.receive id = received at found ⊢
  obtain ⟨reception, bus⟩ := received
  cases found
  rfl

/-! ### Counting -/

theorem eraseDups_concat (paths : List String) (path : String) :
    (paths ++ [path]).eraseDups =
      paths.eraseDups ++ if path ∈ paths then [] else [path] := by
  rw [List.eraseDups_append]
  by_cases member : path ∈ paths
  · simp [List.removeAll, member]
  · simp [List.removeAll, member, List.eraseDups_cons]

theorem nodup_eraseDups (paths : List String) : paths.eraseDups.Nodup := by
  induction paths using List.reverseRecOn with
  | nil => exact List.nodup_nil
  | append_singleton paths path ih =>
    rw [eraseDups_concat]
    by_cases member : path ∈ paths
    · simpa [member] using ih
    · rw [if_neg member]
      refine List.nodup_append.2 ⟨ih, List.pairwise_singleton _ _, ?_⟩
      rintro other old _ last rfl
      exact member (List.mem_singleton.1 last ▸ List.mem_eraseDups.1 old)

theorem prefix_eraseDups {front paths : List String} (early : front <+: paths) :
    front.eraseDups <+: paths.eraseDups := by
  obtain ⟨back, rfl⟩ := early
  rw [List.eraseDups_append]
  exact List.prefix_append _ _

def paths (events : List Event) : List String := events.filterMap Event.path?

theorem paths_append (front back : List Event) : paths (front ++ back) = paths front ++ paths back :=
  List.filterMap_append

/-- What a task did is what comes of the packages that it is done with, each called for once. -/
structure Counted (handled : List Event) (answers : List Bool) (task : RegistrationTask) : Prop where
  calls : task.calls = (paths handled).eraseDups
  answered : answers.length = task.calls.length
  registered : task.registered = answers.count true
  failed : task.failed = answers.count false
  duplicates : task.duplicates + task.calls.length = (paths handled).length

theorem counted_start : Counted [] [] .start := ⟨rfl, rfl, rfl, rfl, rfl⟩

theorem register_congr {task : RegistrationTask} {accepts other : String → Bool} {path : String}
    (agree : path ∉ task.calls → accepts path = other path) :
    task.register accepts path = task.register other path := by
  unfold register
  by_cases known : path ∈ task.calls
  · simp only [List.contains_iff_mem.2 known, if_true]
  · rw [agree known]

theorem run_congr {accepts other : String → Bool} {events : List Event}
    (agree : ∀ path ∈ paths events, accepts path = other path) (task : RegistrationTask) :
    run accepts false task events = run other false task events := by
  change events.foldl (handle accepts) task = events.foldl (handle other) task
  induction events generalizing task with
  | nil => rfl
  | cons event rest ih =>
    cases event with
    | newBlock block results => exact ih agree task
    | tokenDetected candidate =>
      have same : task.handle accepts (.tokenDetected candidate) =
          task.handle other (.tokenDetected candidate) :=
        register_congr fun _ => agree _ List.mem_cons_self
      rw [List.foldl_cons, List.foldl_cons, same]
      exact ih (fun path member => agree path (List.mem_cons_of_mem _ member)) _

theorem Counted.call?_eq {handled : List Event} {answers : List Bool} {task : RegistrationTask}
    (counted : Counted handled answers task) (candidate : TokenCandidate) :
    task.call? (.tokenDetected candidate) =
      if candidate.packagePath ∈ paths handled then none else some candidate.packagePath := by
  change (some candidate.packagePath).filter _ = _
  rw [counted.calls]
  by_cases member : candidate.packagePath ∈ paths handled <;> simp [Option.filter, member]

namespace Process

variable {p : Process}

theorem calls_eq (counted : Counted p.handled p.answers p.task) :
    p.calls = (paths p.consumed).eraseDups := by
  unfold calls consumed
  rw [paths_append, counted.calls]
  cases p.phase with
  | handling event =>
    cases event with
    | newBlock block results =>
      change _ ++ [] = (_ ++ []).eraseDups
      rw [List.append_nil, List.append_nil]
    | tokenDetected candidate =>
      change _ ++ (p.task.call? _).toList = (_ ++ [candidate.packagePath]).eraseDups
      rw [counted.call?_eq, eraseDups_concat]
      split <;> rfl
  | _ => simp [Phase.event?, paths]

theorem settle_of_known {candidate : TokenCandidate} (known : candidate.packagePath ∈ p.task.calls)
    (accepted : Bool) :
    p.settle accepted (.tokenDetected candidate) =
      { p with
        task := { p.task with duplicates := p.task.duplicates + 1 }
        phase := .waiting
        handled := p.handled ++ [.tokenDetected candidate] } := by
  simp [settle, handle, register, call?, Event.path?, Option.filter, known]

theorem settle_of_new {candidate : TokenCandidate} (new : candidate.packagePath ∉ p.task.calls)
    (accepted : Bool) :
    p.settle accepted (.tokenDetected candidate) =
      { p with
        task :=
          { p.task with
            calls := p.task.calls ++ [candidate.packagePath]
            registered := p.task.registered + [accepted].count true
            failed := p.task.failed + [accepted].count false }
        phase := .waiting
        handled := p.handled ++ [.tokenDetected candidate]
        answers := p.answers ++ [accepted] } := by
  cases accepted <;> simp [settle, handle, register, call?, Event.path?, Option.filter, new]

theorem settle_of_block (block : Block) (results : List TxResult) (accepted : Bool) :
    p.settle accepted (.newBlock block results) =
      { p with phase := .waiting, handled := p.handled ++ [.newBlock block results] } := by
  simp [settle, handle, call?, Event.path?]

theorem counted_settle (counted : Counted p.handled p.answers p.task) (accepted : Bool) (event : Event) :
    let after := p.settle accepted event
    Counted after.handled after.answers after.task := by
  obtain ⟨calls, answered, registered, failed, duplicates⟩ := counted
  cases event with
  | newBlock block results =>
    have same : paths (p.handled ++ [.newBlock block results]) = paths p.handled :=
      (paths_append ..).trans (List.append_nil _)
    rw [settle_of_block]
    exact
      { calls := calls.trans (congrArg _ same.symm), answered, registered, failed
        duplicates := duplicates.trans (congrArg _ same.symm) }
  | tokenDetected candidate =>
    have more : paths (p.handled ++ [.tokenDetected candidate]) =
        paths p.handled ++ [candidate.packagePath] := paths_append ..
    by_cases known : candidate.packagePath ∈ p.task.calls
    · rw [settle_of_known known]
      rw [calls, List.mem_eraseDups] at known
      refine { calls := ?_, answered, registered, failed, duplicates := ?_ }
      · rw [more, eraseDups_concat, if_pos known, List.append_nil]
        exact calls
      · rw [more, List.length_append, ← duplicates]
        exact Nat.add_right_comm ..
    · rw [settle_of_new known]
      rw [calls, List.mem_eraseDups] at known
      refine { calls := ?_, answered := ?_, registered := ?_, failed := ?_, duplicates := ?_ }
      · rw [more, eraseDups_concat, if_neg known, ← calls]
      · rw [List.length_append, List.length_append, answered]
        rfl
      · rw [List.count_append, registered]
      · rw [List.count_append, failed]
      · rw [more, List.length_append, List.length_append, ← duplicates]
        rfl

/-- A registrar that answers by package would have made the task do the same. -/
theorem run_settle (counted : Counted p.handled p.answers p.task) {accepts : String → Bool}
    (before : p.task = RegistrationTask.run accepts false .start p.handled) (accepted : Bool)
    (event : Event) :
    ∃ accepts, (p.settle accepted event).task =
      RegistrationTask.run accepts false .start (p.handled ++ [event]) := by
  -- it answers as before, but for the package that is called for now
  let accepts' path := if p.task.call? event = some path then accepted else accepts path
  have agree : ∀ path ∈ paths p.handled, accepts path = accepts' path := by
    intro path member
    refine (if_neg fun called => ?_).symm
    have new := (Option.filter_eq_some_iff.1 called).2
    rw [counted.calls] at new
    simp [member] at new
  refine ⟨accepts', ?_⟩
  calc (p.settle accepted event).task
      = p.task.handle accepts' event := ?_
    _ = (RegistrationTask.run accepts' false .start p.handled).handle accepts' event := by
        rw [← run_congr agree, ← before]
    _ = RegistrationTask.run accepts' false .start (p.handled ++ [event]) :=
        (List.foldl_concat ..).symm
  cases event with
  | newBlock block results => rfl
  | tokenDetected candidate =>
    change p.task.register (fun _ => accepted) _ = p.task.register accepts' _
    refine register_congr fun new => ?_
    have called : p.task.call? (.tokenDetected candidate) = some candidate.packagePath := by
      simp [call?, Event.path?, Option.filter, new]
    exact (if_pos called).symm

end Process

end RegistrationTask

end TokenIndexer
