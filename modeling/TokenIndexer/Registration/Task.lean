import TokenIndexer.Event

namespace TokenIndexer

structure RegistrationTask where
  /-- The packages that were handed over, in order. -/
  calls : List String
  registered : Nat
  failed : Nat
  /-- Candidates that were passed over, because their package was handled before. -/
  duplicates : Nat
  deriving DecidableEq

namespace RegistrationTask

def start : RegistrationTask := ⟨[], 0, 0, 0⟩

/-- Handles a candidate, given which packages the registrar accepts. A package that was refused is
not tried again. -/
def register (accepts : String → Bool) (task : RegistrationTask) (packagePath : String) :
    RegistrationTask :=
  if task.calls.contains packagePath then { task with duplicates := task.duplicates + 1 }
  else if accepts packagePath then
    { task with calls := task.calls ++ [packagePath], registered := task.registered + 1 }
  else { task with calls := task.calls ++ [packagePath], failed := task.failed + 1 }

def handle (accepts : String → Bool) (task : RegistrationTask) : Event → RegistrationTask
  | .newBlock .. => task
  | .tokenDetected candidate => task.register accepts candidate.packagePath

/-- The task after a list of events; one that is cancelled takes no further event. -/
def run (accepts : String → Bool) (cancelled : Bool) (task : RegistrationTask)
    (events : List Event) : RegistrationTask :=
  if cancelled then task else events.foldl (handle accepts) task

def step (accepts : String → Bool) (id : Nat) (task : RegistrationTask) (bus : Bus) :
    RegistrationTask × Bus :=
  match bus.receive id with
  | (.event event, bus) => (task.handle accepts event, bus)
  | (_, bus) => (task, bus)

end RegistrationTask

end TokenIndexer
