import TokenIndexer.Rehearsal.Run
import TokenIndexer.Startup

namespace TokenIndexer.Rehearsal

structure Surroundings (σ : Type) where
  environment : Environment
  /-- What became of the settings file that the arguments name. -/
  file : Option String → SettingsFile
  /-- Whether a store can be opened in a directory. -/
  opened : String → Except StoreError Unit
  script : Script
  store : σ
  /-- When the run is called off. -/
  deadline : Nat

structure Performance (σ : Type) where
  ending : ProgramEnd
  /-- The log, once it was set up. -/
  logger : Option Logger
  store : σ

variable {σ : Type} [Store σ]

/-- The fetcher's part, with at most so many turns. -/
def ingest (around : Surroundings σ) (turns : Nat) (settings : Settings)
    (prepared : Startup.Prepared) : Performance σ :=
  let plan : Plan :=
    { script := around.script
      policy := Startup.policy settings around.script.query
      ticker := prepared.ticker
      retryDelay := settings.fetcher.retryDelay.toNat
      deadline := around.deadline }
  let fetcher := Fetcher.start around.store settings.fetcher.maxSlots.toNat
  let (state, stopped) := (State.start fetcher).run plan turns
  ⟨.ofFetcher stopped, some (Startup.logger settings), state.fetcher.store⟩

def program (around : Surroundings σ) (turns : Nat) (words : List String) : Performance σ :=
  match Arguments.read words with
  | .error stop => ⟨.ofStop stop, none, around.store⟩
  | .ok arguments =>
    match Startup.configure arguments around.environment (around.file arguments.config) with
    | .error e => ⟨.failed e, none, around.store⟩
    | .ok settings =>
      match Startup.prepare (around.opened settings.store.datadir) settings with
      | .error ending => ⟨ending, some (Startup.logger settings), around.store⟩
      | .ok prepared => ingest around turns settings prepared

end TokenIndexer.Rehearsal
