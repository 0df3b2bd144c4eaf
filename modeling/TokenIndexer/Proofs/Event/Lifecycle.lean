import Mathlib.Algebra.Group.Nat.Defs
import Mathlib.Data.List.Induction
import Mathlib.Data.List.Nodup
import TokenIndexer.Proofs.Event.OwnQueue

/-! The life of a subscription on the bus, from its making to its end. -/

namespace TokenIndexer

namespace Bus

namespace Command

variable {kinds : List EventKind} {id : Nat} {command : Command} {after : List Command}

def removes (kinds : List EventKind) (id : Nat) (since : List Command) : Command → Prop
  | cancel n => n = id
  | close => True
  | signal event => event.kind ∈ kinds ∧ drop id ∈ since
  | _ => False

def Removed (kinds : List EventKind) (id : Nat) (after : List Command) : Prop :=
  ∃ since command rest, after = since ++ command :: rest ∧ command.removes kinds id since

theorem not_removed_nil : ¬ Removed kinds id [] := by
  rintro ⟨since, command, rest, shape, -⟩
  simp at shape

theorem removed_concat :
    Removed kinds id (after ++ [command]) ↔ Removed kinds id after ∨ command.removes kinds id after := by
  constructor
  · rintro ⟨since, remover, rest, shape, removes⟩
    rcases List.eq_nil_or_concat rest with rfl | ⟨front, last, rfl⟩
    · obtain ⟨rfl, same⟩ := List.append_inj' shape rfl
      cases same
      exact .inr removes
    · have earlier : after ++ [command] = (since ++ remover :: front) ++ [last] := by
        rw [shape]
        simp
      obtain ⟨rfl, -⟩ := List.append_inj' earlier rfl
      exact .inl ⟨since, remover, front, rfl, removes⟩
  · rintro (⟨since, remover, rest, rfl, removes⟩ | removes)
    · exact ⟨since, remover, rest ++ [command], by simp, removes⟩
    · exact ⟨after, command, [], rfl, removes⟩

theorem removed_eraseDups : Removed kinds.eraseDups id after ↔ Removed kinds id after := by
  have same (since : List Command) (command : Command) :
      command.removes kinds.eraseDups id since ↔ command.removes kinds id since := by
    cases command with
    | signal event => simp [removes]
    | _ => exact Iff.rfl
  simp only [Removed, same]

theorem exists_making (makes : command.makes = true) : ∃ bounded kinds, command = making bounded kinds := by
  cases command with
  | subscribe kinds => exact ⟨true, kinds, rfl⟩
  | subscribeUnbounded kinds => exact ⟨false, kinds, rfl⟩
  | _ => cases makes

end Command

end Bus

namespace Subscription

open Bus (Command)

variable {id : Nat} {s : Subscription} {commands : List Command}

theorem kinds_follow (s : Subscription) (command : Command) : (s.follow id command).kinds = s.kinds := by
  cases command <;> simp only [follow, unregister, abandon, offer] <;> grind

theorem received_follow_iff (command : Command) :
    (s.follow id command).received = true ↔ s.received = true ∧ command ≠ .drop id := by
  cases command <;> simp only [follow, unregister, abandon, offer] <;> grind

theorem registered_follow_iff {since : List Command} (present : s.received = true ↔ .drop id ∉ since)
    (command : Command) :
    (s.follow id command).registered = true ↔
      s.registered = true ∧ ¬ command.removes s.kinds id since := by
  cases command with
  | cancel n => by_cases own : n = id <;> simp [follow, Command.removes, unregister, own]
  | receive n => by_cases own : n = id <;> simp [follow, Command.removes, own]
  | drop n => by_cases own : n = id <;> simp [follow, Command.removes, abandon, own]
  | close => simp [follow, Command.removes, unregister]
  | signal event =>
    simp only [follow, offer, Command.removes]
    cases registered : s.registered <;> cases received : s.received <;>
      by_cases wanted : event.kind ∈ s.kinds <;> by_cases full : s.full <;> simp_all
  | _ => simp [follow, Command.removes]

theorem kinds_foldl (s : Subscription) : (commands.foldl (follow id) s).kinds = s.kinds := by
  induction commands generalizing s with
  | nil => rfl
  | cons command rest ih => exact (ih _).trans (s.kinds_follow command)

theorem received_foldl_iff (alive : s.received = true) :
    (commands.foldl (follow id) s).received = true ↔ .drop id ∉ commands := by
  induction commands using List.reverseRecOn with
  | nil => simpa using alive
  | append_singleton front command ih =>
    rw [List.foldl_concat, received_follow_iff, ih, List.mem_append, List.mem_singleton, not_or, ne_comm]

/-- A subscription stays registered until the first command that takes it off the bus. -/
theorem registered_foldl_iff (alive : s.received = true) :
    (commands.foldl (follow id) s).registered = true ↔
      s.registered = true ∧ ¬ Command.Removed s.kinds id commands := by
  induction commands using List.reverseRecOn with
  | nil => simp [Command.not_removed_nil]
  | append_singleton front command ih =>
    rw [List.foldl_concat, registered_follow_iff (received_foldl_iff alive), ih, kinds_foldl,
      Command.removed_concat, not_or, and_assoc]

theorem off_follow (off : s.registered = false) {command : Command} (stays : command ≠ .drop id) :
    (s.follow id command).registered = false ∧
      (s.follow id command).buffer = if command = .receive id then s.buffer.tail else s.buffer := by
  cases command <;> simp only [follow, unregister, abandon, offer] <;> grind

theorem blank_foldl (id : Nat) (commands : List Command) (off : s.registered = false) (blank : s.buffer = []) :
    (commands.foldl (follow id) s).registered = false ∧ (commands.foldl (follow id) s).buffer = [] := by
  induction commands generalizing s with
  | nil => exact ⟨off, blank⟩
  | cons command rest ih =>
    have still : (s.follow id command).registered = false ∧ (s.follow id command).buffer = [] := by
      cases command <;> simp only [follow, unregister, abandon, offer] <;> grind
    exact ih still.1 still.2

end Subscription

namespace Bus

variable {buffer id : Nat} {before after commands : List Command} {bounded : Bool} {kinds : List EventKind}
  {bus : Bus} {s : Subscription}

/-! ### Numbers -/

def handsOut? (bus : Bus) : Command → Option Nat
  | .subscribe kinds => some (bus.subscribe kinds).1
  | .subscribeUnbounded kinds => some (bus.subscribeUnbounded kinds).1
  | _ => none

def handedOut : List Command → Bus → List Nat
  | [], _ => []
  | command :: rest, bus => (bus.handsOut? command).toList ++ handedOut rest (bus.step command)

theorem handedOut_eq (bus : Bus) (commands : List Command) :
    bus.handedOut commands = List.range' bus.subscriptions.length (number commands) := by
  induction commands generalizing bus with
  | nil => rfl
  | cons command rest ih =>
    rw [handedOut, ih, length_step]
    cases command <;> simp [handsOut?, number, Command.makes, subscribe, subscribeUnbounded, register,
      List.range'_succ]

theorem nodup_words {count : Nat} (few : count ≤ 2 ^ 64) :
    ((List.range count).map UInt64.ofNat).Nodup := by
  apply List.Nodup.map_on _ List.nodup_range
  intro a inside b inside' same
  have word {n : Nat} (member : n ∈ List.range count) : (UInt64.ofNat n).toNat = n :=
    UInt64.toNat_ofNat_of_lt' (Nat.lt_of_lt_of_le (List.mem_range.1 member) few)
  rw [← word inside, ← word inside', same]

theorem exists_of_lt_number (made : id < number commands) :
    ∃ before bounded kinds after,
      commands = before ++ .making bounded kinds :: after ∧ number before = id := by
  induction commands using List.reverseRecOn with
  | nil => cases made
  | append_singleton front command ih =>
    rw [number, List.countP_append, List.countP_singleton] at made
    change id < number front + _ at made
    by_cases earlier : id < number front
    · obtain ⟨before, bounded, kinds, after, rfl, same⟩ := ih earlier
      exact ⟨before, bounded, kinds, after ++ [command], by simp, same⟩
    · -- it is the last command that hands this number out
      have makes : command.makes = true := by
        apply Decidable.byContradiction
        intro other
        rw [if_neg other] at made
        exact earlier made
      rw [if_pos makes] at made
      obtain ⟨bounded, kinds, rfl⟩ := Command.exists_making makes
      exact ⟨front, bounded, kinds, [], rfl, by omega⟩

/-! ### Who is registered -/

/-- Whether, after some commands, there is a subscription of a number that was made on an open bus and that
no command took off it since. -/
def Registered (commands : List Command) (id : Nat) : Prop :=
  ∃ before bounded kinds after, commands = before ++ .making bounded kinds :: after ∧ number before = id ∧
    .close ∉ before ∧ ¬ Command.Removed kinds id after

theorem present_making (buffer : Nat) (before : List Command) (bounded : Bool) (kinds : List EventKind)
    (after : List Command) :
    ((opened buffer).run (before ++ .making bounded kinds :: after)).subscriptions[number before]? =
      some (after.foldl (Subscription.follow (number before)) (fresh buffer before bounded kinds)) := by
  rw [run_append]
  exact subscription_run (subscription_making ..) after

theorem isRegistered_making :
    ((opened buffer).run (before ++ .making bounded kinds :: after)).isRegistered (number before) = true ↔
      .close ∉ before ∧ ¬ Command.Removed kinds (number before) after := by
  rw [isRegistered, present_making, Option.any_some, Subscription.registered_foldl_iff rfl, fresh,
    Command.removed_eraseDups]
  simp

theorem exists_of_isRegistered (registered : bus.isRegistered id = true) :
    ∃ s, bus.subscriptions[id]? = some s := by
  unfold isRegistered at registered
  cases present : bus.subscriptions[id]? with
  | none => simp [present] at registered
  | some s => exact ⟨s, rfl⟩

theorem lt_number_of_isRegistered
    (registered : ((opened buffer).run commands).isRegistered id = true) : id < number commands := by
  obtain ⟨s, present⟩ := exists_of_isRegistered registered
  have bound := (List.getElem?_eq_some_iff.1 present).1
  rw [length_run] at bound
  simpa [opened, number] using bound

theorem isRegistered_iff :
    ((opened buffer).run commands).isRegistered id = true ↔ Registered commands id := by
  constructor
  · intro registered
    obtain ⟨before, bounded, kinds, after, rfl, rfl⟩ :=
      exists_of_lt_number (lt_number_of_isRegistered registered)
    obtain ⟨opened, kept⟩ := isRegistered_making.1 registered
    exact ⟨before, bounded, kinds, after, rfl, rfl, opened, kept⟩
  · rintro ⟨before, bounded, kinds, after, rfl, rfl, opened, kept⟩
    exact isRegistered_making.2 ⟨opened, kept⟩

theorem not_registered_of_closed (closed : .close ∈ commands) : ¬ Registered commands id := by
  rintro ⟨before, bounded, kinds, after, rfl, -, opened, kept⟩
  rcases List.mem_append.1 closed with early | late
  · exact opened early
  · rcases List.mem_cons.1 late with same | since
    · cases bounded <;> cases same
    · obtain ⟨front, rest, rfl⟩ := List.append_of_mem since
      exact kept ⟨front, .close, rest, rfl, trivial⟩

theorem registeredCount_eq (bus : Bus) :
    bus.registeredCount = (List.range bus.subscriptions.length).countP bus.isRegistered := by
  have places (l : List Subscription) :
      l.countP (·.registered) = (List.range l.length).countP fun i => l[i]?.any (·.registered) := by
    induction l with
    | nil => rfl
    | cons s rest ih =>
      rw [List.countP_cons, ih, List.length_cons, List.range_succ_eq_map, List.countP_cons,
        List.countP_map]
      rfl
  exact places bus.subscriptions

/-! ### What is still received -/

def answer? (bus : Bus) (id : Nat) : Command → Option Reception
  | .receive n => if n = id then some (bus.receive n).1 else none
  | _ => none

def answers (id : Nat) : List Command → Bus → List Reception
  | [], _ => []
  | command :: rest, bus => (bus.answer? id command).toList ++ answers id rest (bus.step command)

/-- What is found by so many who receive from a subscription that nothing is delivered to any more: the
events that it holds, in order, and then the end. -/
def leftOver (held : List Event) (count : Nat) : List Reception :=
  (List.range count).map fun i => held[i]?.elim .ended .event

theorem leftOver_succ (held : List Event) (count : Nat) :
    leftOver held (count + 1) = held.head?.elim .ended .event :: leftOver held.tail count := by
  rw [leftOver, List.range_succ_eq_map, List.map_cons, List.map_map, List.head?_eq_getElem?, leftOver]
  congr 1
  apply List.map_congr_left
  intro i _
  rw [Function.comp_apply, List.getElem?_tail]

theorem answers_of_off (present : bus.subscriptions[id]? = some s) (off : s.registered = false)
    (stays : .drop id ∉ commands) :
    bus.answers id commands = leftOver s.buffer (commands.count (.receive id)) := by
  induction commands generalizing bus s with
  | nil => rfl
  | cons command rest ih =>
    obtain ⟨here, later⟩ := not_or.1 (mt List.mem_cons.2 stays)
    obtain ⟨offStill, left⟩ := Subscription.off_follow off (Ne.symm here)
    rw [answers, ih (subscription_step present command) offStill later, left]
    by_cases own : command = .receive id
    · subst own
      have found : (bus.receive id).1 = s.buffer.head?.elim .ended .event := by
        rw [reception_receive present, off]
        cases s.buffer <;> rfl
      rw [List.count_cons_self, leftOver_succ, if_pos rfl, answer?, if_pos rfl, found]
      rfl
    · have nothing : bus.answer? id command = none := by
        cases command with
        | receive n => exact if_neg fun same => own (congrArg _ same)
        | _ => rfl
      rw [List.count_cons_of_ne own, nothing, if_neg own]
      rfl

theorem drop_not_mem_lifetime (id : Nat) (commands : List Command) :
    .drop id ∉ Command.lifetime id commands := by
  intro member
  simpa using List.mem_takeWhile_imp member

theorem receive_of_late (closed : .close ∈ before) :
    (((opened buffer).run (before ++ .making bounded kinds :: after)).receive (number before)).1 = .ended := by
  have off : (fresh buffer before bounded kinds).registered = false := by simp [fresh, closed]
  obtain ⟨offStill, blank⟩ := Subscription.blank_foldl (number before) after off rfl
  rw [reception_receive (present_making ..), offStill, blank]
  rfl

/-! ### The whole life -/

/-- What holds of the subscriptions to a bus after some commands. -/
structure Lifecycle (buffer : Nat) (commands : List Command) : Prop where
  /-- Numbers are words of 64 bits, and none is handed out twice. -/
  distinct : (((opened buffer).handedOut commands).map UInt64.ofNat).Nodup
  registered : ∀ id, ((opened buffer).run commands).isRegistered id = true ↔ Registered commands id
  cancelled : ∀ id, (((opened buffer).run commands).cancel id).1 = true ↔ Registered commands id
  counted : ((opened buffer).run commands).registeredCount =
    (List.range (number commands)).countP ((opened buffer).run commands).isRegistered
  closed : .close ∈ commands → ((opened buffer).run commands).registeredCount = 0
  late : ∀ before bounded kinds after, commands = before ++ .making bounded kinds :: after →
    .close ∈ before → (((opened buffer).run commands).receive (number before)).1 = .ended
  /-- What was held when a subscription was cancelled, or the bus closed, is received in order for as long as
  there is a receiver, and the end after it. -/
  drained : ∀ front removal back id, commands = front ++ removal :: back → Registered front id →
    removal = .cancel id ∨ removal = .close →
      ((opened buffer).run (front ++ [removal])).answers id (Command.lifetime id back) =
        leftOver (((opened buffer).run front).held id) ((Command.lifetime id back).count (.receive id))

theorem lifecycle_run (buffer : Nat) {commands : List Command} (few : number commands < 2 ^ 64) :
    Lifecycle buffer commands := by
  have count : ((opened buffer).run commands).subscriptions.length = number commands := by
    rw [length_run]
    exact Nat.zero_add _
  refine ⟨?_, fun _ => isRegistered_iff, fun _ => isRegistered_iff, ?_, ?_, ?_, ?_⟩
  · rw [handedOut_eq, opened, List.length_nil, ← List.range_eq_range']
    exact nodup_words (Nat.le_of_lt few)
  · rw [registeredCount_eq, count]
  · intro closed
    rw [registeredCount_eq, List.countP_eq_zero]
    intro id _ registered
    exact not_registered_of_closed closed (isRegistered_iff.1 registered)
  · rintro before bounded kinds after rfl closed
    exact receive_of_late closed
  · rintro front removal back id rfl registered removes
    obtain ⟨s, present⟩ := exists_of_isRegistered (isRegistered_iff.2 registered)
    have unregistered : s.follow id removal = s.unregister := by
      rcases removes with rfl | rfl
      · exact if_pos rfl
      · rfl
    have removed := subscription_step present removal
    rw [unregistered] at removed
    rw [run_append, held, present]
    have drained := answers_of_off removed rfl (drop_not_mem_lifetime id back)
    exact drained

/-- Two subscriptions, of which one is cancelled while it holds an event and the other loses its receiver. -/
theorem lifecycle_of_two :
    let token : Event := .tokenDetected ⟨"p", 1, "c", []⟩
    let front : List Command := [.subscribe [.tokenDetected], .subscribeUnbounded [.tokenDetected],
      .signal token, .drop 1]
    let back : List Command := [.signal token, .receive 0, .receive 0, .close]
    number (front ++ .cancel 0 :: back) < 2 ^ 64 ∧ Lifecycle 4 (front ++ .cancel 0 :: back) ∧
      Registered front 0 ∧
      ((opened 4).run (front ++ [.cancel 0])).answers 0 (Command.lifetime 0 back) = [.event token, .ended] := by
  intro token front back
  have few : number (front ++ .cancel 0 :: back) < 2 ^ 64 := by decide
  have life := lifecycle_run 4 few
  have registered : Registered front 0 := (lifecycle_run 4 (by decide)).registered 0 |>.1 (by decide)
  refine ⟨few, life, registered, ?_⟩
  exact life.drained front _ back 0 rfl registered (.inl rfl)

end Bus

end TokenIndexer
