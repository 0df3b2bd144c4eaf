import Mathlib.Data.List.TakeWhile
import TokenIndexer.Proofs.Event.Subscription

/-! A subscription is a queue of its own, and the other subscriptions might as well not exist. -/

namespace TokenIndexer

/-- What is done to a queue: an event is offered to it, or the oldest that it holds is taken. -/
inductive Access where
  | put (event : Event)
  | take

namespace Access

def offer? : Access → Option Event
  | put event => some event
  | take => none

/-- What a queue lets in that holds so many events at first. It turns one away only when it is full. -/
def accepted (limit : Option Nat) : Nat → List Access → List Event
  | _, [] => []
  | held, put event :: rest =>
    if limit.any (· ≤ held) then accepted limit held rest
    else event :: accepted limit (held + 1) rest
  | held, take :: rest => accepted limit (held - 1) rest

theorem accepted_sublist (limit : Option Nat) (held : Nat) (accesses : List Access) :
    (accepted limit held accesses).Sublist (accesses.filterMap offer?) := by
  fun_induction accepted limit held accesses with
  | case1 => exact List.Sublist.refl _
  | case2 held event rest full ih => exact ih.cons event
  | case3 held event rest room ih => exact ih.cons_cons event
  | case4 held rest ih => exact ih

theorem accepted_none (held : Nat) (accesses : List Access) :
    accepted none held accesses = accesses.filterMap offer? := by
  fun_induction accepted none held accesses with
  | case1 => rfl
  | case2 held event rest full ih => cases full
  | case3 held event rest room ih => rw [ih]; rfl
  | case4 held rest ih => exact ih

end Access

namespace Bus

namespace Command

def offer? (kinds : List EventKind) : Command → Option Event
  | signal event => if kinds.contains event.kind then some event else none
  | _ => none

def access? (kinds : List EventKind) (id : Nat) : Command → Option Access
  | signal event => if kinds.contains event.kind then some (.put event) else none
  | receive n => if n = id then some .take else none
  | _ => none

def ends (id : Nat) : Command → Bool
  | cancel n => n = id
  | close => true
  | drop n => n = id
  | _ => false

/-- What is done to the queue of a subscription for as long as the bus delivers to it. -/
def accesses (kinds : List EventKind) (id : Nat) (commands : List Command) : List Access :=
  (commands.takeWhile (!·.ends id)).filterMap (·.access? kinds id)

theorem accesses_of_ends {kinds : List EventKind} {id : Nat} {command : Command}
    (stops : command.ends id = true) (rest : List Command) : accesses kinds id (command :: rest) = [] := by
  rw [accesses, List.takeWhile_cons, stops]
  rfl

theorem accesses_cons {kinds : List EventKind} {id : Nat} {command : Command}
    (goes : command.ends id = false) (rest : List Command) :
    accesses kinds id (command :: rest) =
      (command.access? kinds id).toList ++ accesses kinds id rest := by
  rw [accesses, List.takeWhile_cons, goes, Bool.not_false, if_pos rfl, List.filterMap_cons]
  cases command.access? kinds id <;> rfl

/-- The command without what it is to other subscriptions, the one of the number being the first now. -/
def alone? (id : Nat) : Command → Option Command
  | subscribe _ => none
  | subscribeUnbounded _ => none
  | cancel n => if n = id then some (.cancel 0) else none
  | close => some .close
  | signal event => some (.signal event)
  | receive n => if n = id then some (.receive 0) else none
  | drop n => if n = id then some (.drop 0) else none

def making (bounded : Bool) (kinds : List EventKind) : Command :=
  if bounded then subscribe kinds else subscribeUnbounded kinds

def lifetime (id : Nat) (commands : List Command) : List Command := commands.takeWhile (· ≠ drop id)

def offered (kinds : List EventKind) (id : Nat) (commands : List Command) : List Event :=
  (commands.takeWhile (!·.ends id)).filterMap (·.offer? kinds)

theorem offered_eq (kinds : List EventKind) (id : Nat) (commands : List Command) :
    (accesses kinds id commands).filterMap Access.offer? = offered kinds id commands := by
  have same : ∀ command : Command, (command.access? kinds id).bind Access.offer? = command.offer? kinds := by
    intro command
    cases command with
    | signal event =>
      by_cases wanted : event.kind ∈ kinds <;> simp [access?, offer?, wanted, Access.offer?]
    | receive n => by_cases own : n = id <;> simp [access?, offer?, own, Access.offer?]
    | _ => rfl
  rw [accesses, List.filterMap_filterMap, offered]
  simp only [same]

theorem accesses_lifetime (kinds : List EventKind) (id : Nat) (commands : List Command) :
    accesses kinds id (lifetime id commands) = accesses kinds id commands := by
  induction commands with
  | nil => rfl
  | cons command rest ih =>
    rw [lifetime, List.takeWhile_cons]
    by_cases gone : command = drop id
    · have stops : command.ends id = true := gone ▸ decide_eq_true rfl
      rw [accesses_of_ends stops, if_neg (by simpa using gone)]
      rfl
    · rw [if_pos (decide_eq_true gone)]
      cases stops : command.ends id with
      | true => rw [accesses_of_ends stops, accesses_of_ends stops]
      | false => rw [accesses_cons stops, accesses_cons stops, ← lifetime, ih]

theorem accesses_eraseDups (kinds : List EventKind) (id : Nat) (commands : List Command) :
    accesses kinds.eraseDups id commands = accesses kinds id commands := by
  have same : ∀ command : Command, command.access? kinds.eraseDups id = command.access? kinds id := by
    intro command
    cases command with
    | signal event => simp [access?]
    | _ => rfl
  simp only [accesses, same]

end Command

def limitOf (buffer : Nat) (bounded : Bool) : Option Nat := if bounded then some (max buffer 1) else none

end Bus

namespace Subscription

open Bus (Command)

variable {id : Nat} {s : Subscription} {commands : List Command}

theorem reads_of_abandoned (gone : s.received = false) (blank : s.buffer = []) :
    s.reads id commands = [] := by
  induction commands generalizing s with
  | nil => rfl
  | cons command rest ih =>
    have stays : (s.follow id command).received = false ∧ (s.follow id command).buffer = [] := by
      cases command <;> simp only [follow, unregister, abandon, offer] <;> grind
    have nothing : s.reception? id command = none := by
      cases command <;> simp [reception?, blank]
    rw [reads, nothing, ih stays.1 stays.2]
    rfl

def attended (s : Subscription) : Bool := s.registered && s.received

theorem reads_lifetime (s : Subscription) :
    s.reads id commands = s.reads id (Command.lifetime id commands) := by
  induction commands generalizing s with
  | nil => rfl
  | cons command rest ih =>
    rw [Command.lifetime, List.takeWhile_cons]
    by_cases gone : command = .drop id
    · -- from here on nothing is held and nothing comes in
      subst gone
      have abandoned : s.follow id (.drop id) = s.abandon := if_pos rfl
      rw [reads, abandoned, reads_of_abandoned rfl rfl, if_neg (by simp)]
      rfl
    · rw [if_pos (decide_eq_true gone), reads, reads, ih]
      rfl

def admitted? (s : Subscription) : Command → Option Event
  | .signal event => if s.attended && s.kinds.contains event.kind && !s.full then some event else none
  | _ => none

def admits (id : Nat) : List Command → Subscription → List Event
  | [], _ => []
  | command :: rest, s => (s.admitted? command).toList ++ admits id rest (s.follow id command)

theorem received_follow (alive : s.received = true) {command : Command} (stays : command ≠ .drop id) :
    (s.follow id command).received = true := by
  cases command <;> simp only [follow, unregister, abandon, offer] <;> grind

/-- Until its receiver is gone it gives out what it holds and what comes in, in that order. -/
theorem conserved_step (alive : s.received = true) {command : Command} (stays : command ≠ .drop id) :
    (s.reception? id command).toList ++ (s.follow id command).buffer =
      s.buffer ++ (s.admitted? command).toList := by
  cases command with
  | signal event =>
    simp only [reception?, follow, offer, admitted?, attended, alive]
    cases s.registered <;> cases s.kinds.contains event.kind <;> cases s.full <;> simp
  | receive n =>
    unfold reception? follow admitted?
    by_cases own : n = id
    · cases s.buffer <;> simp [own]
    · simp [own]
  | cancel n =>
    unfold reception? follow admitted?
    by_cases own : n = id <;> simp [own, unregister]
  | drop n =>
    have other : n ≠ id := fun same => stays (same ▸ rfl)
    simp [reception?, follow, admitted?, other]
  | _ => simp [reception?, follow, admitted?, unregister]

theorem conserved_run (alive : s.received = true) (stays : .drop id ∉ commands) :
    s.reads id commands ++ (commands.foldl (follow id) s).buffer = s.buffer ++ s.admits id commands := by
  induction commands generalizing s with
  | nil => exact (List.append_nil _).symm
  | cons command rest ih =>
    obtain ⟨here, later⟩ := not_or.1 (mt List.mem_cons.2 stays)
    have now := conserved_step alive (Ne.symm here)
    have then' := ih (received_follow alive (Ne.symm here)) later
    calc s.reads id (command :: rest) ++ ((command :: rest).foldl (follow id) s).buffer
        = (s.reception? id command).toList ++ ((s.follow id command).reads id rest ++
            (rest.foldl (follow id) (s.follow id command)).buffer) := List.append_assoc ..
      _ = (s.reception? id command).toList ++ (s.follow id command).buffer ++
            (s.follow id command).admits id rest := by rw [then', List.append_assoc]
      _ = s.buffer ++ s.admits id (command :: rest) := by rw [now, List.append_assoc]; rfl

theorem offer_of_attended (attended : s.attended = true) (event : Event) :
    s.offer event =
      if s.kinds.contains event.kind && !s.full then { s with buffer := s.buffer ++ [event] } else s := by
  obtain ⟨registered, received⟩ := Bool.and_eq_true_iff.1 attended
  rw [offer, registered, received, Bool.true_and]
  cases s.kinds.contains event.kind <;> cases s.full <;> rfl

theorem admits_of_unattended (unattended : s.attended = false) : s.admits id commands = [] := by
  induction commands generalizing s with
  | nil => rfl
  | cons command rest ih =>
    have stays : (s.follow id command).attended = false := by
      unfold attended at unattended ⊢
      cases command <;> simp only [follow, unregister, abandon, offer] <;> grind
    have nothing : s.admitted? command = none := by
      cases command <;> simp [admitted?, unattended]
    rw [admits, nothing, ih stays]
    rfl

/-- While it is attended, what comes in is what a queue of its size lets in. -/
theorem admits_of_attended (attended : s.attended = true) :
    s.admits id commands =
      Access.accepted s.limit s.buffer.length (Command.accesses s.kinds id commands) := by
  induction commands generalizing s with
  | nil => rfl
  | cons command rest ih =>
    rw [admits]
    cases command with
    | subscribe kinds => exact ih attended
    | subscribeUnbounded kinds => exact ih attended
    | close => exact admits_of_unattended rfl
    | cancel n =>
      by_cases own : n = id
      · have stops : (Command.cancel n).ends id = true := decide_eq_true own
        rw [Command.accesses_of_ends stops, follow, if_pos own]
        exact admits_of_unattended rfl
      · have goes : (Command.cancel n).ends id = false := decide_eq_false own
        rw [Command.accesses_cons goes, follow, if_neg own]
        exact ih attended
    | drop n =>
      by_cases own : n = id
      · have stops : (Command.drop n).ends id = true := decide_eq_true own
        rw [Command.accesses_of_ends stops, follow, if_pos own]
        exact admits_of_unattended (Bool.and_false _)
      · have goes : (Command.drop n).ends id = false := decide_eq_false own
        rw [Command.accesses_cons goes, follow, if_neg own]
        exact ih attended
    | receive n =>
      rw [Command.accesses_cons rfl, Command.access?, follow]
      by_cases own : n = id
      · have taken := ih (s := { s with buffer := s.buffer.tail }) attended
        rw [List.length_tail] at taken
        rw [if_pos own, if_pos own]
        exact taken
      · rw [if_neg own, if_neg own]
        exact ih attended
    | signal event =>
      rw [Command.accesses_cons rfl, Command.access?, follow, offer_of_attended attended, admitted?,
        attended, Bool.true_and]
      cases s.kinds.contains event.kind with
      | false => exact ih attended
      | true =>
        -- whether there is room only depends on how many events are held
        have limited : s.limit.any (· ≤ s.buffer.length) = s.full := rfl
        cases full : s.full with
        | true =>
          rw [full] at limited
          simpa [Access.accepted, limited] using ih attended
        | false =>
          rw [full] at limited
          have longer := ih (s := { s with buffer := s.buffer ++ [event] }) attended
          simpa [Access.accepted, limited] using longer

/-- To the subscription it is the same when the others do nothing. -/
theorem follow_alone (id : Nat) (s : Subscription) (command : Command) :
    s.follow id command = (command.alone? id).elim s (s.follow 0) ∧
      s.reception? id command = (command.alone? id).bind (s.reception? 0) := by
  cases command with
  | cancel n => by_cases own : n = id <;> simp [follow, reception?, Command.alone?, own]
  | receive n => by_cases own : n = id <;> simp [follow, reception?, Command.alone?, own]
  | drop n => by_cases own : n = id <;> simp [follow, reception?, Command.alone?, own]
  | _ => exact ⟨rfl, rfl⟩

theorem reads_alone (s : Subscription) (commands : List Command) :
    s.reads id commands = s.reads 0 (commands.filterMap (·.alone? id)) := by
  induction commands generalizing s with
  | nil => rfl
  | cons command rest ih =>
    obtain ⟨followed, received⟩ := s.follow_alone id command
    rw [reads, followed, received, ih]
    cases kept : command.alone? id with
    | none => rw [List.filterMap_cons_none kept]; rfl
    | some kept' => rw [List.filterMap_cons_some kept]; rfl

theorem foldl_alone (s : Subscription) (commands : List Command) :
    commands.foldl (follow id) s = (commands.filterMap (·.alone? id)).foldl (follow 0) s := by
  induction commands generalizing s with
  | nil => rfl
  | cons command rest ih =>
    rw [List.foldl_cons, (s.follow_alone id command).1, ih]
    cases kept : command.alone? id with
    | none => rw [List.filterMap_cons_none kept]; rfl
    | some kept' => rw [List.filterMap_cons_some kept]; rfl

end Subscription

namespace Bus

def delivered (buffer id : Nat) (before : List Command) (making : Command) (after : List Command) :
    List Event :=
  (opened buffer).received id (before ++ making :: after) ++
    ((opened buffer).run (before ++ making :: Command.lifetime id after)).held id

def number (before : List Command) : Nat := before.countP (·.makes)

def fresh (buffer : Nat) (before : List Command) (bounded : Bool) (kinds : List EventKind) : Subscription :=
  ⟨kinds.eraseDups, limitOf buffer bounded, [], !decide (.close ∈ before), true⟩

variable (buffer : Nat) (before : List Command) (bounded : Bool) (kinds : List EventKind) (after : List Command)

theorem subscription_making :
    (((opened buffer).run before).step (.making bounded kinds)).subscriptions[number before]? =
      some (fresh buffer before bounded kinds) := by
  have closed := closed_run (opened buffer) before
  have capacity := capacity_run (opened buffer) before
  have length := length_run (opened buffer) before
  generalize (opened buffer).run before = bus at closed capacity length ⊢
  have index : number before = bus.subscriptions.length := by
    rw [length]
    exact (Nat.zero_add _).symm
  have made : (bus.step (.making bounded kinds)).subscriptions =
      bus.subscriptions ++ [⟨kinds.eraseDups, limitOf buffer bounded, [], !bus.closed, true⟩] := by
    cases bounded with
    | true =>
      change _ = bus.subscriptions ++ [⟨_, some (opened buffer).capacity, _, _, _⟩]
      rw [← capacity]
      rfl
    | false => rfl
  rw [made, index, closed]
  exact List.getElem?_concat_length

theorem received_making :
    (opened buffer).received (number before) (before ++ .making bounded kinds :: after) =
      (fresh buffer before bounded kinds).reads (number before) after := by
  rw [received_append, received_of_absent, received, received_eq (subscription_making ..)]
  · cases bounded <;> rfl
  · rw [length_run]
    exact Nat.le_of_eq (Nat.zero_add _)

theorem held_making :
    ((opened buffer).run (before ++ .making bounded kinds :: after)).held (number before) =
      (after.foldl (Subscription.follow (number before)) (fresh buffer before bounded kinds)).buffer := by
  rw [run_append]
  exact held_run (subscription_making ..) after

theorem delivered_making :
    delivered buffer (number before) before (.making bounded kinds) after =
      Access.accepted (limitOf buffer bounded) 0
        (if .close ∈ before then [] else Command.accesses kinds (number before) after) := by
  have stays : .drop (number before) ∉ Command.lifetime (number before) after := by
    intro member
    simpa using List.mem_takeWhile_imp member
  rw [delivered, received_making, held_making, Subscription.reads_lifetime,
    Subscription.conserved_run rfl stays]
  change Subscription.admits _ _ _ = _
  by_cases closed : .close ∈ before
  · rw [if_pos closed]
    exact Subscription.admits_of_unattended (by simp [fresh, Subscription.attended, closed])
  · rw [if_neg closed, Subscription.admits_of_attended (by simp [fresh, Subscription.attended, closed]),
      ← Command.accesses_lifetime kinds, ← Command.accesses_eraseDups kinds]
    rfl

theorem number_alone (id : Nat) (commands : List Command) :
    number (commands.filterMap (·.alone? id)) = 0 := by
  refine List.countP_eq_zero.2 fun command member => ?_
  obtain ⟨command', _, kept⟩ := List.mem_filterMap.1 member
  cases command' <;> grind [Command.alone?, Command.makes]

theorem fresh_alone (id : Nat) :
    fresh buffer (before.filterMap (·.alone? id)) bounded kinds = fresh buffer before bounded kinds := by
  have closed : .close ∈ before.filterMap (·.alone? id) ↔ .close ∈ before := by
    refine List.mem_filterMap.trans ⟨?_, fun member => ⟨_, member, rfl⟩⟩
    rintro ⟨command, member, kept⟩
    cases command <;> grind [Command.alone?]
  rw [fresh, fresh, decide_eq_decide.2 closed]

/-- What a subscription is to whoever receives from it, when it is the one of a number and is made after some
commands and before others. -/
structure OwnQueue (buffer id : Nat) (before : List Command) (making : Command) (kinds : List EventKind)
    (limit : Option Nat) (after : List Command) : Prop where
  whole : delivered buffer id before making after =
    Access.accepted limit 0 (if .close ∈ before then [] else Command.accesses kinds id after)
  /-- Order is kept and nothing comes twice. -/
  ordered : ((opened buffer).received id (before ++ making :: after)).Sublist
    (if .close ∈ before then [] else Command.offered kinds id after)
  lossless : limit = none → delivered buffer id before making after =
    if .close ∈ before then [] else Command.offered kinds id after
  /-- It is the same when no other was ever made. -/
  alone : (opened buffer).received id (before ++ making :: after) =
    (opened buffer).received 0 (before.filterMap (·.alone? id) ++ making :: after.filterMap (·.alone? id))
  alone_held : ((opened buffer).run (before ++ making :: after)).held id =
    ((opened buffer).run
      (before.filterMap (·.alone? id) ++ making :: after.filterMap (·.alone? id))).held 0

theorem ownQueue_run :
    OwnQueue buffer (number before) before (.making bounded kinds) kinds (limitOf buffer bounded) after := by
  have whole := delivered_making buffer before bounded kinds after
  have offered :
      (if .close ∈ before then [] else Command.accesses kinds (number before) after).filterMap
          Access.offer? =
        if .close ∈ before then [] else Command.offered kinds (number before) after := by
    split
    · rfl
    · exact Command.offered_eq ..
  refine { whole := whole, ordered := ?_, lossless := ?_, alone := ?_, alone_held := ?_ }
  · rw [← offered]
    refine List.Sublist.trans ?_ (Access.accepted_sublist (limitOf buffer bounded) 0 _)
    rw [← whole]
    exact List.sublist_append_left ..
  · intro unlimited
    rw [whole, unlimited, Access.accepted_none, offered]
  · have only := received_making buffer (before.filterMap (·.alone? (number before))) bounded kinds
      (after.filterMap (·.alone? (number before)))
    rw [number_alone, fresh_alone] at only
    rw [only, received_making, Subscription.reads_alone]
  · have only := held_making buffer (before.filterMap (·.alone? (number before))) bounded kinds
      (after.filterMap (·.alone? (number before)))
    rw [number_alone, fresh_alone] at only
    rw [only, held_making, Subscription.foldl_alone]

end Bus

end TokenIndexer
