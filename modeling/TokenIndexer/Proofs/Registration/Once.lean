import Mathlib.Data.List.TakeWhile
import TokenIndexer.Proofs.Registration.Process

/-!
Every package is handed over once, however the steps of a registration task and what others do with the bus
follow each other.
-/

namespace TokenIndexer

/-- Whether a command leaves a subscription to the one who has it. -/
def Bus.Command.spares (id : Nat) : Bus.Command → Bool
  | cancel n => n ≠ id
  | receive n => n ≠ id
  | drop n => n ≠ id
  | _ => true

namespace RegistrationTask

namespace Move

def spares (id : Nat) : Move → Bool
  | bus command => command.spares id
  | _ => true

def path? : Move → Option String
  | bus (.signal event) => event.path?
  | _ => none

def isStep : Move → Bool
  | step _ => true
  | _ => false

end Move

def detected (bus : Bus) (moves : List Move) : List String :=
  if bus.closed then [] else (moves.takeWhile (· ≠ .bus .close)).filterMap Move.path?

namespace Process

theorem run_concat (bus : Bus) (moves : List Move) (move : Move) :
    run bus (moves ++ [move]) = (run bus moves).next bus.subscriptions.length move :=
  List.foldl_concat ..

variable {p : Process} {id : Nat}

theorem closed_wake (p : Process) : (p.wake id).bus.closed = p.bus.closed := by
  have received := p.bus.closed_receive id
  unfold wake
  split
  · rfl
  · split
    · next found =>
      rw [found] at received
      exact received
    · rfl
    · rfl

theorem closed_next (p : Process) (move : Move) :
    (p.next id move).bus.closed = (p.bus.closed || decide (move = .bus .close)) := by
  cases move with
  | bus command =>
    refine (p.bus.closed_step command).trans ?_
    simp only [Move.bus.injEq, eq_comm]
  | cancel => exact (Bool.or_false _).symm
  | step accepted =>
    refine Eq.trans ?_ (Bool.or_false _).symm
    unfold next
    cases p.phase with
    | waiting => exact p.closed_wake
    | handling event => rfl
    | ended => rfl

theorem closed_run (bus : Bus) (moves : List Move) :
    (run bus moves).bus.closed = (bus.closed || decide (.bus .close ∈ moves)) := by
  induction moves using List.reverseRecOn with
  | nil => exact (Bool.or_false _).symm
  | append_singleton moves move ih =>
    rw [run_concat, closed_next, ih, Bool.or_assoc, ← Bool.decide_or]
    simp only [List.mem_append, List.mem_singleton, eq_comm]

end Process

theorem detected_concat (bus : Bus) (moves : List Move) (move : Move) :
    detected bus (moves ++ [move]) = detected bus moves ++
      if (Process.run bus moves).bus.closed then [] else move.path?.toList := by
  rw [Process.closed_run, detected, detected]
  cases bus.closed with
  | true => rfl
  | false =>
    rw [Bool.false_or, if_neg Bool.false_ne_true, if_neg Bool.false_ne_true, List.takeWhile_append]
    by_cases closed : .bus .close ∈ moves
    · have short : (moves.takeWhile (· ≠ .bus .close)).length ≠ moves.length := by
        intro whole
        have same := (List.takeWhile_prefix _).eq_of_length whole
        have member := List.mem_takeWhile_imp (same ▸ closed)
        simp at member
      rw [if_neg short, if_pos (decide_eq_true closed), List.append_nil]
    · have whole : moves.takeWhile (· ≠ .bus .close) = moves := by
        refine List.takeWhile_eq_self_iff.2 fun move member => decide_eq_true ?_
        rintro rfl
        exact closed member
      rw [whole, if_pos rfl, if_neg (by simpa using closed), List.filterMap_append]
      by_cases now : move = .bus .close
      · subst now
        simp [Move.path?]
      · rw [List.takeWhile_cons, if_pos (decide_eq_true now)]
        cases path : move.path? <;> simp [path]

theorem prefix_detected (bus : Bus) (earlier later : List Move) :
    detected bus earlier <+: detected bus (earlier ++ later) := by
  induction later using List.reverseRecOn with
  | nil => simp
  | append_singleton later move ih =>
    rw [← List.append_assoc, detected_concat]
    exact ih.trans (List.prefix_append _ _)

namespace Process

def subscription (closed : Bool) (unread : List TokenCandidate) : Subscription :=
  ⟨[.tokenDetected], none, unread.map .tokenDetected, !closed, true⟩

/-- What a task took are the first of the packages that were detected, and while it goes on the others are held
for it. -/
structure Sound (id : Nat) (detected : List String) (p : Process) : Prop where
  counted : Counted p.handled p.answers p.task
  run : ∃ accepts, p.task = RegistrationTask.run accepts false .start p.handled
  early : paths p.consumed <+: detected
  present : p.phase ≠ .ended → ∃ unread,
    p.bus.subscriptions[id]? = some (subscription p.bus.closed unread) ∧
      paths p.consumed ++ unread.map (·.packagePath) = detected
  finished : p.phase = .ended → p.cancelled = false → p.bus.closed = true ∧ paths p.consumed = detected

theorem sound_spawn (bus : Bus) : (spawn bus).Sound bus.subscriptions.length [] where
  counted := counted_start
  run := ⟨fun _ => true, rfl⟩
  early := List.nil_prefix
  present _ := ⟨[], List.getElem?_concat_length, rfl⟩
  finished ended := nomatch ended

variable {p : Process} {id : Nat} {detected : List String}

theorem follow_subscription {command : Bus.Command} (spares : command.spares id) (closed : Bool)
    (unread : List TokenCandidate) : ∃ more,
      (subscription closed unread).follow id command =
        subscription (closed || decide (.close = command)) (unread ++ more) ∧
      more.map (·.packagePath) = if closed then [] else (Move.bus command).path?.toList := by
  have idle : subscription (closed || false) (unread ++ []) = subscription closed unread := by
    rw [Bool.or_false, List.append_nil]
  have nothing : [] = if closed then [] else (none : Option String).toList := (ite_self _).symm
  cases command with
  | subscribe kinds => exact ⟨[], idle.symm, nothing⟩
  | subscribeUnbounded kinds => exact ⟨[], idle.symm, nothing⟩
  | cancel n => exact ⟨[], (if_neg (of_decide_eq_true spares)).trans idle.symm, nothing⟩
  | receive n => exact ⟨[], (if_neg (of_decide_eq_true spares)).trans idle.symm, nothing⟩
  | drop n => exact ⟨[], (if_neg (of_decide_eq_true spares)).trans idle.symm, nothing⟩
  | close =>
    refine ⟨[], ?_, nothing⟩
    rw [List.append_nil, decide_eq_true rfl, Bool.or_true]
    rfl
  | signal event =>
    cases closed with
    | true => exact ⟨[], idle.symm, rfl⟩
    | false =>
      cases event with
      | newBlock block results => exact ⟨[], idle.symm, rfl⟩
      | tokenDetected candidate =>
        -- there is no limit, so there is room
        refine ⟨[candidate], ?_, rfl⟩
        simp [Subscription.follow, Subscription.offer, Subscription.full, subscription, Event.kind]

theorem Sound.bus (sound : p.Sound id detected) {command : Bus.Command} (spares : command.spares id) :
    ({ p with bus := p.bus.step command } : Process).Sound id
      (detected ++ if p.bus.closed then [] else (Move.bus command).path?.toList) where
  counted := sound.counted
  run := sound.run
  early := sound.early.trans (List.prefix_append _ _)
  present active := by
    obtain ⟨unread, held, split⟩ := sound.present active
    obtain ⟨more, followed, detected⟩ := follow_subscription spares p.bus.closed unread
    refine ⟨unread ++ more, ?_, ?_⟩
    · rw [Bus.subscription_step held, followed, Bus.closed_step]
    · rw [← detected, ← split, List.map_append, List.append_assoc]
      rfl
  finished ended active := by
    obtain ⟨closed, all⟩ := sound.finished ended active
    rw [if_pos closed, List.append_nil]
    exact ⟨(p.bus.closed_step command).trans (by rw [closed, Bool.true_or]), all⟩

theorem consumed_of_idle (idle : p.phase.event? = none) : p.consumed = p.handled := by
  rw [consumed, idle]
  exact List.append_nil _

inductive Found (id : Nat) (detected : List String) (p after : Process) : Prop where
  | finished (returned : after = p.finish id)
      (all : p.cancelled = false → p.bus.closed = true ∧ paths p.handled = detected)
  | nothing (same : after = p) (goes : p.bus.closed = false)
  | package (candidate : TokenCandidate) (rest : List TokenCandidate) (bus : Bus)
      (taken : after = { p with bus := bus, phase := .handling (.tokenDetected candidate) })
      (held : bus.subscriptions[id]? = some (subscription bus.closed rest))
      (next : paths p.handled ++ candidate.packagePath :: rest.map (·.packagePath) = detected)

theorem Sound.found (sound : p.Sound id detected) (waiting : p.phase = .waiting) :
    Found id detected p (p.wake id) := by
  obtain ⟨unread, held, split⟩ := sound.present (waiting ▸ nofun)
  rw [consumed_of_idle (waiting ▸ rfl)] at split
  have left := Bus.subscription_receive held id
  have received := Bus.reception_receive held
  have kept := p.bus.closed_receive id
  unfold Process.wake
  cases cancelled : p.cancelled with
  | true => exact .finished rfl fun active => nomatch cancelled.symm.trans active
  | false =>
    rw [if_pos rfl] at left
    generalize p.bus.receive id = found at left received kept ⊢
    obtain ⟨reception, bus⟩ := found
    change bus.closed = p.bus.closed at kept
    cases unread with
    | nil =>
      cases closed : p.bus.closed with
      | false =>
        rw [closed] at received
        cases received
        exact .nothing rfl closed
      | true =>
        rw [closed] at received
        cases received
        exact .finished rfl fun _ => ⟨closed, by simpa using split⟩
    | cons candidate rest =>
      cases received
      rw [← kept] at left
      refine .package candidate rest bus ?_ left split
      rw [cancelled]
      rfl

theorem Sound.wake (sound : p.Sound id detected) (waiting : p.phase = .waiting) :
    (p.wake id).Sound id detected := by
  cases sound.found waiting with
  | finished returned all =>
    rw [returned]
    have same : (p.finish id).consumed = p.handled := List.append_nil _
    refine { counted := sound.counted, run := sound.run, early := ?_,
             present := fun active => (active rfl).elim, finished := fun _ active => same ▸ all active }
    rw [same, ← consumed_of_idle (waiting ▸ rfl)]
    exact sound.early
  | nothing same _ =>
    rw [same]
    exact sound
  | package candidate rest bus taken held next =>
    rw [taken]
    have split : paths (p.handled ++ [.tokenDetected candidate]) ++ rest.map (·.packagePath) =
        detected := by
      rw [paths_append, List.append_assoc]
      exact next
    exact { counted := sound.counted, run := sound.run, early := ⟨_, split⟩,
            present := fun _ => ⟨rest, held, split⟩, finished := nofun }

theorem consumed_settle {event : Event} (handling : p.phase = .handling event) (accepted : Bool) :
    (p.settle accepted event).consumed = p.consumed := by
  unfold consumed
  rw [handling]
  exact List.append_nil _

theorem Sound.settle (sound : p.Sound id detected) {event : Event} (handling : p.phase = .handling event)
    (accepted : Bool) : (p.settle accepted event).Sound id detected := by
  have same := consumed_settle handling accepted
  obtain ⟨accepts, before⟩ := sound.run
  refine { counted := counted_settle sound.counted accepted event,
           run := run_settle sound.counted before accepted event,
           early := same ▸ sound.early, present := fun _ => ?_, finished := nofun }
  rw [same]
  exact sound.present (handling ▸ nofun)

theorem Sound.next (sound : p.Sound id detected) {move : Move} (spares : move.spares id) :
    (p.next id move).Sound id (detected ++ if p.bus.closed then [] else move.path?.toList) := by
  have nothing : detected ++ (if p.bus.closed then [] else []) = detected := by
    rw [ite_self, List.append_nil]
  cases move with
  | bus command => exact sound.bus spares
  | cancel =>
    change Sound id (detected ++ if p.bus.closed then [] else []) _
    rw [nothing]
    exact { sound with finished := fun _ active => nomatch active }
  | step accepted =>
    change Sound id (detected ++ if p.bus.closed then [] else []) _
    rw [nothing]
    unfold Process.next
    cases phase : p.phase with
    | waiting => exact sound.wake phase
    | handling event => exact sound.settle phase accepted
    | ended => exact sound

theorem sound_run (bus : Bus) {moves : List Move}
    (spares : ∀ move ∈ moves, move.spares bus.subscriptions.length) :
    (run bus moves).Sound bus.subscriptions.length (RegistrationTask.detected bus moves) := by
  induction moves using List.reverseRecOn with
  | nil =>
    have nothing : RegistrationTask.detected bus [] = [] := ite_self _
    rw [nothing]
    exact sound_spawn bus
  | append_singleton moves move ih =>
    rw [run_concat, detected_concat]
    have before := ih fun other member => spares other (List.mem_append_left _ member)
    exact before.next (spares move (List.mem_append_right _ List.mem_cons_self))

/-- How many steps are left when nothing more is detected. Every package takes two. -/
def left (detected : List String) (p : Process) : Nat :=
  match p.phase with
  | .waiting => 2 * (detected.length - (paths p.consumed).length) + 1
  | .handling _ => 2 * (detected.length - (paths p.consumed).length) + 2
  | .ended => 0

theorem Sound.left_next (sound : p.Sound id detected) (closed : p.bus.closed = true) (move : Move) :
    (p.next id move).left detected ≤ p.left detected - [move].countP (·.isStep) := by
  cases move with
  | bus command => exact Nat.le_refl _
  | cancel => exact Nat.le_refl _
  | step accepted =>
    unfold Process.next
    cases phase : p.phase with
    | waiting =>
      have before : p.left detected = 2 * (detected.length - (paths p.handled).length) + 1 := by
        unfold left
        rw [phase, consumed_of_idle (phase ▸ rfl)]
      rw [before]
      cases sound.found phase with
      | finished returned _ =>
        change (p.wake id).left detected ≤ _
        rw [returned]
        exact Nat.zero_le _
      -- on a closed bus a task never waits in vain
      | nothing _ goes => cases closed.symm.trans goes
      | package candidate rest bus taken _ next =>
        change (p.wake id).left detected ≤ _
        have after : (p.wake id).left detected =
            2 * (detected.length - ((paths p.handled).length + 1)) + 2 := by
          rw [taken, left, consumed, paths_append, List.length_append]
          rfl
        have within : (paths p.handled).length + 1 ≤ detected.length := by
          rw [← next, List.length_append, List.length_cons]
          omega
        change (p.wake id).left detected ≤ _ - 1
        omega
    | handling event =>
      have same : (p.settle accepted event).consumed = p.consumed := consumed_settle phase accepted
      change (p.settle accepted event).left detected ≤ p.left detected - 1
      unfold left
      rw [phase, same]
      exact Nat.le_refl _
    | ended =>
      change p.left detected ≤ _
      unfold left
      rw [phase]
      exact Nat.zero_le _

theorem Sound.ended_of_steps (sound : p.Sound id detected) (closed : p.bus.closed = true)
    {moves : List Move} (spares : ∀ move ∈ moves, move.spares id)
    (enough : p.left detected ≤ moves.countP (·.isStep)) :
    (moves.foldl (Process.next id) p).phase = .ended := by
  induction moves generalizing p with
  | nil =>
    have none : p.left detected = 0 := Nat.eq_zero_of_le_zero enough
    unfold left at none
    change p.phase = .ended
    cases phase : p.phase with
    | ended => rfl
    | _ =>
      rw [phase] at none
      cases none
  | cons move rest ih =>
    have after := sound.next (spares move List.mem_cons_self)
    rw [if_pos closed, List.append_nil] at after
    refine ih after ?_ (fun other member => spares other (List.mem_cons_of_mem _ member)) ?_
    · rw [closed_next, closed, Bool.true_or]
    · refine Nat.le_trans (sound.left_next closed move) ?_
      rw [← List.singleton_append, List.countP_append] at enough
      exact Nat.sub_le_of_le_add (Nat.add_comm _ _ ▸ enough)

end Process

/-- What the task did is what there was to do for packages, the registrar being called for each once. -/
structure Tallied (packages : List String) (p : Process) : Prop where
  calls : p.calls = packages.eraseDups
  answered : p.answers.length = packages.eraseDups.length
  attempted : p.task.registered + p.task.failed = packages.eraseDups.length
  failed : p.task.failed = p.answers.count false
  all : p.task.registered + p.task.failed + p.task.duplicates = packages.length

theorem tallied_of_ended {p : Process} (counted : Counted p.handled p.answers p.task)
    (ended : p.phase = .ended) : Tallied (paths p.consumed) p := by
  have taken : p.consumed = p.handled := Process.consumed_of_idle (ended ▸ rfl)
  have attempted : p.task.registered + p.task.failed = p.task.calls.length := by
    rw [counted.registered, counted.failed, List.count_true_add_count_false, counted.answered]
  rw [taken]
  refine { calls := ?_, answered := ?_, attempted := ?_, failed := counted.failed, all := ?_ }
  · rw [Process.calls_eq counted, taken]
  · rw [counted.answered, counted.calls]
  · rw [attempted, counted.calls]
  · rw [attempted, Nat.add_comm, counted.duplicates]

/-- What comes of a task, whatever is interleaved with its steps. -/
structure Once (bus : Bus) (moves : List Move) : Prop where
  /-- At every point the packages that were called for are the first ones. -/
  early : ∀ earlier, earlier <+: moves →
    (Process.run bus earlier).calls <+: (detected bus moves).eraseDups
  nodup : (Process.run bus moves).calls.Nodup
  /-- When it was not cancelled it returns with nothing left to do. -/
  complete : (Process.run bus moves).phase = .ended → (Process.run bus moves).cancelled = false →
    Tallied (detected bus moves) (Process.run bus moves)
  /-- Whenever it returns it did what there was to do for the events that it took. -/
  tallied : (Process.run bus moves).phase = .ended →
    Tallied (paths (Process.run bus moves).consumed) (Process.run bus moves) ∧
      paths (Process.run bus moves).consumed <+: detected bus moves
  /-- It does return once the bus is closed. -/
  returns : ∀ earlier later, moves = earlier ++ later → (Process.run bus earlier).bus.closed = true →
    2 * (detected bus moves).length + 2 ≤ later.countP (·.isStep) →
      (Process.run bus moves).phase = .ended
  /-- What it did is what it does with the same events at one go, for some registrar. -/
  run : ∃ accepts, (Process.run bus moves).task =
    RegistrationTask.run accepts false .start (Process.run bus moves).handled

theorem once_run (bus : Bus) {moves : List Move}
    (spares : ∀ move ∈ moves, move.spares bus.subscriptions.length) : Once bus moves := by
  have sound := Process.sound_run bus spares
  have upTo : ∀ earlier later, moves = earlier ++ later →
      (Process.run bus earlier).Sound bus.subscriptions.length (detected bus earlier) := by
    rintro earlier later rfl
    exact Process.sound_run bus fun move member => spares move (List.mem_append_left _ member)
  refine { early := ?_, nodup := ?_, complete := ?_, tallied := ?_, returns := ?_, run := sound.run }
  · rintro earlier ⟨later, rfl⟩
    have before := upTo earlier later rfl
    rw [Process.calls_eq before.counted]
    exact prefix_eraseDups (before.early.trans (prefix_detected bus earlier later))
  · rw [Process.calls_eq sound.counted]
    exact nodup_eraseDups _
  · intro ended active
    rw [← (sound.finished ended active).2]
    exact tallied_of_ended sound.counted ended
  · intro ended
    exact ⟨tallied_of_ended sound.counted ended, sound.early⟩
  · rintro earlier later rfl closed enough
    have known := (prefix_detected bus earlier later).length_le
    have bound : (Process.run bus earlier).left (detected bus earlier) ≤
        2 * (detected bus earlier).length + 2 := by
      unfold Process.left
      split <;> omega
    have ended := (upTo earlier later rfl).ended_of_steps closed
      (fun move member => spares move (List.mem_append_right _ member)) (by omega)
    rw [Process.run, List.foldl_append]
    exact ended

/-- One package is detected again, and another is refused; a third comes when the bus is closed. The other
subscription is full by then. -/
theorem once_interleaved :
    let bus := (Bus.opened 0).run [.subscribe [.tokenDetected]]
    let candidate (path : String) : TokenCandidate := ⟨path, 1, "creator", []⟩
    let signal (path : String) : Move := .bus (.signal (.tokenDetected (candidate path)))
    let moves : List Move := [signal "first", .bus (.signal (.newBlock ⟨1, [], "plain", "", "", []⟩ [])),
      .step true, signal "first", signal "second", .step true, .step true, .bus (.drop 0), .step true,
      .bus .close, signal "third", .step true, .step false, .step true]
    (∀ move ∈ moves, move.spares bus.subscriptions.length) ∧ Once bus moves ∧
      (Process.run bus moves).phase = .ended ∧
      (Process.run bus moves).task = ⟨["first", "second"], 1, 1, 1⟩ := by
  intro bus candidate signal moves
  exact ⟨by decide, once_run bus (by decide), by decide, by decide⟩

end RegistrationTask

end TokenIndexer
