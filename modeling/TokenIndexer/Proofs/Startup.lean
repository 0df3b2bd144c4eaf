import TokenIndexer.Proofs.Ingest.Steps
import TokenIndexer.Proofs.Settings.Precedence
import TokenIndexer.Startup

/-!
Settings that were loaded and a fetcher that runs with them. A period of zero is the one thing that validation
lets through and the parts of the fetcher do not put up with.
-/

namespace TokenIndexer

namespace Settings

variable {settings : Settings}

theorem bounded_of_checkFetcherBound {field : String} {value : UInt64}
    (checked : checkFetcherBound field value = .ok ()) : 1 ≤ value ∧ value ≤ fetcherLimit := by
  rw [checkFetcherBound] at checked
  split at checked
  · next bounded => exact bounded
  · cases checked

theorem holds_of_require {holds : Bool} {field reason : String}
    (required : require holds field reason = .ok ()) : holds = true := by
  rw [require] at required
  split at required
  · next given => exact given
  · cases required

theorem fetcher_of_validate (valid : settings.validate = .ok ()) :
    1 ≤ settings.fetcher.maxSlots ∧ 1 ≤ settings.fetcher.maxChunkSize ∧
      settings.fetcher.maxAttempts ≠ 0 := by
  obtain ⟨_, -, valid⟩ := exists_of_bind_ok valid
  obtain ⟨_, -, valid⟩ := exists_of_bind_ok valid
  obtain ⟨_, slots, valid⟩ := exists_of_bind_ok valid
  obtain ⟨_, chunk, valid⟩ := exists_of_bind_ok valid
  obtain ⟨_, attempts, -⟩ := exists_of_bind_ok valid
  exact ⟨(bounded_of_checkFetcherBound slots).1, (bounded_of_checkFetcherBound chunk).1,
    of_decide_eq_true (holds_of_require attempts)⟩

theorem validate_of_load {file : SettingsFile} {overrides : List Override}
    (loaded : load file overrides = .ok settings) : settings.validate = .ok () := by
  obtain ⟨table, -, loaded⟩ := exists_of_bind_ok loaded
  obtain ⟨final, -, loaded⟩ := exists_of_bind_ok loaded
  rw [ofTable] at loaded
  split at loaded
  · cases loaded
  · obtain ⟨⟨⟩, valid, rfl⟩ := exists_of_map_ok loaded
    exact valid

end Settings

namespace Fetcher

variable {σ : Type}

theorem firstMissing_pos (f : Fetcher σ) {stored remote : Height} (behind : stored < remote) :
    0 < f.firstMissing stored := by
  have next : 0 < stored + 1 := by
    have bound := remote.toNat_le
    have below := UInt64.lt_iff_toNat_lt.1 behind
    rw [UInt64.lt_iff_toNat_lt, Height.toNat_succ (by omega)]
    exact Nat.succ_pos _
  rw [firstMissing]
  split
  · next height _ =>
    change 0 < if height ≤ stored + 1 then stored + 1 else height
    split
    · exact next
    · next above => exact UInt64.lt_trans next (UInt64.not_le.1 above)
  · exact next

/-- A failure is the last one that the fetcher puts up with as soon as they are as many as may be. -/
theorem stopped_of_failure [Store σ] (policy : Policy) {f : Fetcher σ} {range : HeightRange}
    (failure : FetchFailure) {attempts : UInt32} {counted : SlotBuffer}
    (counts : f.slots.fail? range.first = some (attempts, counted)) :
    (f.respond policy ⟨range, .error failure⟩).stopped ≠ none ↔ policy.maxAttempts ≤ attempts := by
  simp only [respond, counts]
  split
  · next spent => simp [stop, spent]
  · next left => simp [idle, left]

end Fetcher

/-- What the parts of the fetcher count on, apart from the period of the ticks. -/
structure Settings.Workable (settings : Settings) : Prop where
  room : Fetcher.responseRoom settings.fetcher.maxSlots.toNat = settings.fetcher.maxSlots.toNat
  slots : ∀ {σ : Type} (store : σ),
    (Fetcher.start store settings.fetcher.maxSlots.toNat).slots.limit = settings.fetcher.maxSlots.toNat
  /-- A tick that finds room, and heights that are neither stored nor reserved, reserves some of them. -/
  progress : ∀ {σ : Type} [Store σ] (query : String → Except NodeError QueryResponse) (f : Fetcher σ)
    (stored remote : Height), f.slots.isFull = false → f.stored = .ok stored → stored < remote →
      f.firstMissing stored ≤ remote → (f.tick (Startup.policy settings query) (.ok remote)).assigned ≠ []
  /-- The first failure of a range is the last one only if the settings allow no other. -/
  patience : ∀ {σ : Type} [Store σ] (query : String → Except NodeError QueryResponse) (f : Fetcher σ)
    (range : HeightRange) (failure : FetchFailure) (counted : SlotBuffer),
      f.slots.fail? range.first = some (1, counted) →
        ((f.respond (Startup.policy settings query) ⟨range, .error failure⟩).stopped ≠ none ↔
          settings.fetcher.maxAttempts = 1)

namespace Startup

variable {settings : Settings}

theorem workable_of_validate (valid : settings.validate = .ok ()) : settings.Workable := by
  obtain ⟨slots, chunk, attempts⟩ := Settings.fetcher_of_validate valid
  have slots : 1 ≤ settings.fetcher.maxSlots.toNat := UInt64.le_iff_toNat_le.1 slots
  constructor
  · exact Nat.max_eq_left slots
  · exact fun _ => Nat.max_eq_left slots
  · intro σ _ query f stored remote vacant read behind missing
    have sized : settings.fetcher.maxChunkSize ≠ 0 := by
      intro zero
      rw [zero] at chunk
      exact absurd chunk (by decide)
    rw [Fetcher.tick_eq_reserving _ vacant read rfl behind missing]
    intro none
    exact SlotBuffer.reserve_ne_nil vacant (f.firstMissing_pos behind) missing sized
      (List.map_eq_nil_iff.1 none)
  · intro σ _ query f range failure counted fails
    rw [Fetcher.stopped_of_failure _ _ fails]
    constructor
    · intro spent
      apply UInt32.le_antisymm spent
      exact UInt32.le_iff_toNat_le.2 (UInt32.lt_iff_toNat_lt.1 (UInt32.pos_iff_ne_zero.2 attempts))
    · intro single
      exact UInt32.le_of_eq single

theorem prepare_of_connect {opened : Except StoreError Unit} {registrar : Registrar}
    (connected : connect opened settings = .ok registrar) :
    prepare opened settings = (match Ticker.every? settings.fetcher.pollInterval.toNat with
      | some ticker => .ok ⟨registrar, ticker⟩
      | none => .error .brokenDown) := by
  rw [prepare, connected]
  rfl

theorem prepare_ok {opened : Except StoreError Unit} {registrar : Registrar}
    (connected : connect opened settings = .ok registrar) (paced : settings.fetcher.pollInterval ≠ 0) :
    ∃ ticker, prepare opened settings = .ok ⟨registrar, ticker⟩ ∧
      ticker.period = settings.fetcher.pollInterval.toNat := by
  have positive : 0 < settings.fetcher.pollInterval.toNat :=
    Nat.pos_of_ne_zero fun zero => paced (UInt64.toNat_inj.1 zero)
  rw [prepare_of_connect connected, Ticker.every?, dif_pos positive]
  exact ⟨_, rfl, rfl⟩

/-- The program breaks down for want of a period, and not before its parts are connected. -/
theorem prepare_eq_brokenDown {opened : Except StoreError Unit} :
    prepare opened settings = .error .brokenDown ↔
      settings.fetcher.pollInterval = 0 ∧ ∃ registrar, connect opened settings = .ok registrar := by
  cases connected : connect opened settings with
  | error failure =>
    have failed : prepare opened settings = .error (.failed failure) := by
      rw [prepare, connected]
      rfl
    simp [failed]
  | ok registrar =>
    by_cases unpaced : settings.fetcher.pollInterval = 0
    · simp [prepare_of_connect connected, unpaced, Ticker.every?]
    · obtain ⟨ticker, started, -⟩ := prepare_ok connected unpaced
      simp [started, unpaced]

/-- Loaded settings can be run with unless they name a period of zero, and then they cannot. -/
theorem workable_of_load {file : SettingsFile} {overrides : List Override} {settings : Settings}
    (loaded : Settings.load file overrides = .ok settings) :
    settings.Workable ∧
      (∀ opened, prepare opened settings = .error .brokenDown ↔
        settings.fetcher.pollInterval = 0 ∧ ∃ registrar, connect opened settings = .ok registrar) ∧
      (settings.fetcher.pollInterval ≠ 0 → ∀ opened registrar, connect opened settings = .ok registrar →
        ∃ ticker, prepare opened settings = .ok ⟨registrar, ticker⟩ ∧
          ticker.period = settings.fetcher.pollInterval.toNat) := by
  constructor
  · exact workable_of_validate (Settings.validate_of_load loaded)
  constructor
  · intro opened
    exact prepare_eq_brokenDown
  · intro paced opened registrar connected
    exact prepare_ok connected paced

/-- A period of zero is let through by validation. -/
theorem brokenDown_without_period :
    ∃ settings, Settings.load .unnamed [.ofName "client.remote_url" (.string "http://[::1]"),
        .ofName "fetcher.poll_interval_ms" (.int 0)] = .ok settings ∧
      prepare (.ok ()) settings = .error .brokenDown := by
  have evaluated : (Settings.load .unnamed [.ofName "client.remote_url" (.string "http://[::1]"),
      .ofName "fetcher.poll_interval_ms" (.int 0)]).toOption =
      some ⟨⟨"http://[::1]", "dev", 10000⟩, .default, ⟨100, 100, 0, 5, 1000⟩, .default, .default, .default,
        .default⟩ := by decide +kernel
  have loaded := ok_of_toOption evaluated
  refine ⟨_, loaded, ((workable_of_load loaded).2.1 (.ok ())).2 ⟨rfl, .dryRun "_gnoswap_register", ?_⟩⟩
  exact ok_of_toOption (by decide +kernel)

end Startup

end TokenIndexer
