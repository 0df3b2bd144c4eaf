import TokenIndexer.Block

/-!
Events, and the bus that hands them to subscriptions. Each subscription has a buffer of its own, and
publishing never waits.
-/

namespace TokenIndexer

inductive EventKind where
  /-- A block and its results were committed. -/
  | newBlock
  /-- A deployed package looks like a token contract. -/
  | tokenDetected
  deriving DecidableEq, Repr

namespace EventKind

def all : List EventKind := [.newBlock, .tokenDetected]

def name : EventKind → String
  | .newBlock => "newBlock"
  | .tokenDetected => "tokenDetected"

end EventKind

/-- A deployed package whose exported functions hold the token interface. -/
structure TokenCandidate where
  packagePath : String
  height : Height
  creator : String
  functions : List String
  deriving DecidableEq

inductive Event where
  | newBlock (block : Block) (results : List TxResult)
  | tokenDetected (candidate : TokenCandidate)
  deriving DecidableEq

def Event.kind : Event → EventKind
  | .newBlock .. => .newBlock
  | .tokenDetected .. => .tokenDetected

structure Subscription where
  kinds : List EventKind
  /-- How many events are held, when there is a limit. -/
  limit : Option Nat
  buffer : List Event
  /-- Whether the bus still delivers to it. -/
  registered : Bool
  /-- Whether somebody may still receive from it. -/
  received : Bool
  deriving DecidableEq

namespace Subscription

def full (s : Subscription) : Bool := s.limit.any (· ≤ s.buffer.length)

/-- The subscription after an event was published. One whose receiver is gone is removed by the
first event that it would have got. -/
def offer (event : Event) (s : Subscription) : Subscription :=
  if s.registered && s.kinds.contains event.kind then
    if s.received then
      if s.full then s else { s with buffer := s.buffer ++ [event] }
    else { s with registered := false }
  else s

def unregister (s : Subscription) : Subscription := { s with registered := false }

def abandon (s : Subscription) : Subscription := { s with received := false, buffer := [] }

end Subscription

structure Bus where
  /-- How many events a bounded subscription holds. -/
  capacity : Nat
  /-- All subscriptions ever made, by number. -/
  subscriptions : List Subscription
  closed : Bool
  deriving DecidableEq

inductive Reception where
  | event (event : Event)
  /-- Nothing yet. -/
  | pending
  /-- Nothing any more. -/
  | ended
  deriving DecidableEq

namespace Bus

def opened (buffer : Nat) : Bus := ⟨max buffer 1, [], false⟩

/-- The bus with one more subscription, and its number. On a closed bus it is at its end from the
start. -/
def register (bus : Bus) (kinds : List EventKind) (limit : Option Nat) : Nat × Bus :=
  (bus.subscriptions.length,
    { bus with subscriptions := bus.subscriptions ++ [⟨kinds.eraseDups, limit, [], !bus.closed, true⟩] })

def subscribe (bus : Bus) (kinds : List EventKind) : Nat × Bus :=
  bus.register kinds (some bus.capacity)

def subscribeUnbounded (bus : Bus) (kinds : List EventKind) : Nat × Bus := bus.register kinds none

def update (bus : Bus) (id : Nat) (change : Subscription → Subscription) : Bus :=
  { bus with subscriptions := bus.subscriptions.modify id change }

def isRegistered (bus : Bus) (id : Nat) : Bool := bus.subscriptions[id]?.any (·.registered)

def cancel (bus : Bus) (id : Nat) : Bool × Bus :=
  (bus.isRegistered id, bus.update id Subscription.unregister)

def close (bus : Bus) : Bus :=
  { bus with subscriptions := bus.subscriptions.map Subscription.unregister, closed := true }

def signal (bus : Bus) (event : Event) : Bus :=
  { bus with subscriptions := bus.subscriptions.map (Subscription.offer event) }

def drop (bus : Bus) (id : Nat) : Bus := bus.update id Subscription.abandon

def registeredCount (bus : Bus) : Nat := bus.subscriptions.countP (·.registered)

def receive (bus : Bus) (id : Nat) : Reception × Bus :=
  match bus.subscriptions[id]? with
  | none => (.ended, bus)
  | some s =>
    match s.buffer with
    | event :: rest => (.event event, bus.update id fun s => { s with buffer := rest })
    | [] => (if s.registered then .pending else .ended, bus)

def drain (bus : Bus) (id : Nat) : List Event × Bus :=
  match bus.subscriptions[id]? with
  | none => ([], bus)
  | some s => (s.buffer, bus.update id fun s => { s with buffer := [] })

/-! ### Histories -/

inductive Command where
  | subscribe (kinds : List EventKind)
  | subscribeUnbounded (kinds : List EventKind)
  | cancel (id : Nat)
  | close
  | signal (event : Event)
  | receive (id : Nat)
  | drop (id : Nat)
  deriving DecidableEq

def step (bus : Bus) : Command → Bus
  | .subscribe kinds => (bus.subscribe kinds).2
  | .subscribeUnbounded kinds => (bus.subscribeUnbounded kinds).2
  | .cancel id => (bus.cancel id).2
  | .close => bus.close
  | .signal event => bus.signal event
  | .receive id => (bus.receive id).2
  | .drop id => bus.drop id

def run (bus : Bus) (commands : List Command) : Bus := commands.foldl step bus

end Bus

end TokenIndexer
