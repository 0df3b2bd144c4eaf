import TokenIndexer.Event

namespace TokenIndexer

namespace Subscription

def follow (id : Nat) (s : Subscription) : Bus.Command → Subscription
  | .subscribe _ => s
  | .subscribeUnbounded _ => s
  | .cancel n => if n = id then s.unregister else s
  | .close => s.unregister
  | .signal event => s.offer event
  | .receive n => if n = id then { s with buffer := s.buffer.tail } else s
  | .drop n => if n = id then s.abandon else s

def reception? (id : Nat) (s : Subscription) : Bus.Command → Option Event
  | .receive n => if n = id then s.buffer.head? else none
  | _ => none

def reads (id : Nat) : List Bus.Command → Subscription → List Event
  | [], _ => []
  | command :: rest, s => (s.reception? id command).toList ++ reads id rest (s.follow id command)

end Subscription

namespace Reception

def event? : Reception → Option Event
  | event e => some e
  | pending => none
  | ended => none

end Reception

namespace Bus

def reception? (bus : Bus) (id : Nat) : Command → Option Event
  | .receive n => if n = id then (bus.receive n).1.event? else none
  | _ => none

def received (id : Nat) : List Command → Bus → List Event
  | [], _ => []
  | command :: rest, bus => (bus.reception? id command).toList ++ received id rest (bus.step command)

def held (bus : Bus) (id : Nat) : List Event := (bus.subscriptions[id]?.map (·.buffer)).getD []

theorem run_append (bus : Bus) (front back : List Command) :
    bus.run (front ++ back) = (bus.run front).run back := List.foldl_append

theorem received_append (bus : Bus) (id : Nat) (front back : List Command) :
    bus.received id (front ++ back) = bus.received id front ++ (bus.run front).received id back := by
  induction front generalizing bus with
  | nil => rfl
  | cons command rest ih =>
    rw [List.cons_append, received, received, ih, List.append_assoc]
    rfl

/-! ### The bus itself -/

def Command.makes : Command → Bool
  | subscribe _ => true
  | subscribeUnbounded _ => true
  | _ => false

section Frame

variable (bus : Bus)

theorem receive_eq (n : Nat) : ∃ change, (bus.receive n).2 = bus.update n change := by
  have none : bus = bus.update n fun s => s := by
    rw [update, show (fun s : Subscription => s) = id from rfl, List.modify_id]
  unfold receive
  split
  · exact ⟨_, none⟩
  · split
    · exact ⟨_, rfl⟩
    · exact ⟨_, none⟩

theorem closed_receive (n : Nat) : (bus.receive n).2.closed = bus.closed := by
  obtain ⟨change, received⟩ := bus.receive_eq n
  exact congrArg (·.closed) received

theorem capacity_step (command : Command) : (bus.step command).capacity = bus.capacity := by
  cases command with
  | receive n =>
    obtain ⟨change, received⟩ := bus.receive_eq n
    exact congrArg (·.capacity) received
  | _ => rfl

theorem closed_step (command : Command) :
    (bus.step command).closed = (bus.closed || decide (.close = command)) := by
  cases command with
  | receive n => exact (bus.closed_receive n).trans (Bool.or_false _).symm
  | close => exact (Bool.or_true _).symm
  | _ => exact (Bool.or_false _).symm

theorem length_step (command : Command) :
    (bus.step command).subscriptions.length = bus.subscriptions.length + [command].countP (·.makes) := by
  cases command with
  | receive n =>
    obtain ⟨change, received⟩ := bus.receive_eq n
    exact (congrArg (·.subscriptions.length) received).trans (List.length_modify ..)
  | subscribe kinds => exact List.length_append
  | subscribeUnbounded kinds => exact List.length_append
  | cancel n => exact List.length_modify ..
  | drop n => exact List.length_modify ..
  | close => exact List.length_map _
  | signal event => exact List.length_map _

theorem capacity_run (commands : List Command) : (bus.run commands).capacity = bus.capacity := by
  induction commands generalizing bus with
  | nil => rfl
  | cons command rest ih => exact (ih (bus.step command)).trans (bus.capacity_step command)

theorem closed_run (commands : List Command) :
    (bus.run commands).closed = (bus.closed || decide (.close ∈ commands)) := by
  induction commands generalizing bus with
  | nil => exact (Bool.or_false _).symm
  | cons command rest ih =>
    refine (ih (bus.step command)).trans ?_
    rw [closed_step, Bool.or_assoc, ← Bool.decide_or]
    simp only [List.mem_cons]

theorem length_run (commands : List Command) :
    (bus.run commands).subscriptions.length = bus.subscriptions.length + commands.countP (·.makes) := by
  induction commands generalizing bus with
  | nil => rfl
  | cons command rest ih =>
    refine (ih (bus.step command)).trans ?_
    rw [length_step, Nat.add_assoc, ← List.countP_append, List.singleton_append]

theorem received_of_absent {id : Nat} {commands : List Command}
    (absent : (bus.run commands).subscriptions.length ≤ id) : bus.received id commands = [] := by
  induction commands generalizing bus with
  | nil => rfl
  | cons command rest ih =>
    have before : bus.subscriptions[id]? = none := by
      rw [length_run] at absent
      exact List.getElem?_eq_none (Nat.le_trans (Nat.le_add_right _ _) absent)
    have nothing : bus.reception? id command = none := by
      cases command with
      | receive n =>
        change (if n = id then _ else _) = none
        split
        · next same =>
          subst same
          rw [receive, before]
          rfl
        · rfl
      | _ => rfl
    rw [received, nothing, ih (bus.step command) absent]
    rfl

end Frame

/-! ### One of its subscriptions -/

section Update

variable {bus : Bus} {id : Nat} {s : Subscription}

theorem subscription_update (present : bus.subscriptions[id]? = some s) (n : Nat)
    (change : Subscription → Subscription) :
    (bus.update n change).subscriptions[id]? = some (if n = id then change s else s) := by
  change (bus.subscriptions.modify n change)[id]? = _
  rw [List.getElem?_modify, present]
  rfl

theorem subscription_register (present : bus.subscriptions[id]? = some s) (kinds : List EventKind)
    (limit : Option Nat) : (bus.register kinds limit).2.subscriptions[id]? = some s := by
  change (bus.subscriptions ++ [_])[id]? = some s
  rw [List.getElem?_append_left (List.getElem?_eq_some_iff.1 present).1, present]

theorem subscription_receive (present : bus.subscriptions[id]? = some s) (n : Nat) :
    (bus.receive n).2.subscriptions[id]? =
      some (if n = id then { s with buffer := s.buffer.tail } else s) := by
  unfold receive
  cases other : bus.subscriptions[n]? with
  | none =>
    have differs : n ≠ id := by
      rintro rfl
      cases present.symm.trans other
    rw [if_neg differs]
    exact present
  | some s' =>
    dsimp only
    cases held : s'.buffer with
    | cons event rest =>
      dsimp only
      rw [subscription_update present]
      by_cases same : n = id
      · subst same
        cases present.symm.trans other
        rw [if_pos rfl, if_pos rfl, held]
        rfl
      · rw [if_neg same, if_neg same]
    | nil =>
      dsimp only
      rw [present]
      by_cases same : n = id
      · subst same
        cases present.symm.trans other
        obtain ⟨kinds, limit, buffer, registered, received⟩ := s
        cases held
        rw [if_pos rfl]
        rfl
      · rw [if_neg same]

/-- The others do not matter to a subscription. -/
theorem subscription_step (present : bus.subscriptions[id]? = some s) (command : Command) :
    (bus.step command).subscriptions[id]? = some (s.follow id command) := by
  cases command with
  | subscribe kinds => exact subscription_register present kinds _
  | subscribeUnbounded kinds => exact subscription_register present kinds _
  | cancel n => exact subscription_update present n _
  | close =>
    change (bus.subscriptions.map Subscription.unregister)[id]? = _
    rw [List.getElem?_map, present]
    rfl
  | signal event =>
    change (bus.subscriptions.map (Subscription.offer event))[id]? = _
    rw [List.getElem?_map, present]
    rfl
  | receive n => exact subscription_receive present n
  | drop n => exact subscription_update present n _

theorem reception_receive (present : bus.subscriptions[id]? = some s) :
    (bus.receive id).1 = match s.buffer with
      | event :: _ => .event event
      | [] => if s.registered then .pending else .ended := by
  unfold receive
  rw [present]
  dsimp only
  cases s.buffer <;> rfl

theorem reception?_eq (present : bus.subscriptions[id]? = some s) (command : Command) :
    bus.reception? id command = s.reception? id command := by
  cases command with
  | receive n =>
    change (if n = id then _ else _) = if n = id then _ else _
    by_cases same : n = id
    · subst same
      rw [if_pos rfl, if_pos rfl, reception_receive present]
      cases s.buffer with
      | cons event rest => rfl
      | nil => cases s.registered <;> rfl
    · rw [if_neg same, if_neg same]
  | _ => rfl

theorem subscription_run (present : bus.subscriptions[id]? = some s) (commands : List Command) :
    (bus.run commands).subscriptions[id]? = some (commands.foldl (Subscription.follow id) s) := by
  induction commands generalizing bus s with
  | nil => exact present
  | cons command rest ih => exact ih (subscription_step present command)

theorem received_eq (present : bus.subscriptions[id]? = some s) (commands : List Command) :
    bus.received id commands = s.reads id commands := by
  induction commands generalizing bus s with
  | nil => rfl
  | cons command rest ih =>
    rw [received, Subscription.reads, reception?_eq present, ih (subscription_step present command)]

theorem held_run (present : bus.subscriptions[id]? = some s) (commands : List Command) :
    (bus.run commands).held id = (commands.foldl (Subscription.follow id) s).buffer := by
  rw [held, subscription_run present]
  rfl

end Update

end Bus

end TokenIndexer
