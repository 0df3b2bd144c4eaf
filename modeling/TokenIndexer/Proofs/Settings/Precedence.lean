import TokenIndexer.CommandLine
import TokenIndexer.Proofs.Settings.File
import TokenIndexer.Proofs.Settings.Override

/-!
Which layer a setting is taken from: an explicit flag, the last generic override of it, the environment, the
settings file, the default. A generic override of something around a setting replaces all that was said before
it, so that nothing is promised for the settings within.
-/

namespace TokenIndexer

theorem ok_of_mapError {ε ε' α : Type} {f : ε → ε'} {x : Except ε α} {a : α}
    (mapped : x.mapError f = .ok a) : x = .ok a := by
  cases x with
  | error _ => cases mapped
  | ok _ =>
    cases mapped
    rfl

theorem ok_of_toOption {ε α : Type} {x : Except ε α} {a : α} (given : x.toOption = some a) : x = .ok a := by
  cases x with
  | error _ => cases given
  | ok _ =>
    cases given
    rfl

theorem Setting.path_injective {setting other : Setting} (same : setting.path = other.path) :
    setting = other := by
  cases setting <;> cases other <;> first | rfl | simp [path, place] at same

theorem Setting.eq_of_path_prefix {setting other : Setting} (leads : setting.path <+: other.path) :
    setting = other :=
  path_injective (leads.eq_of_length rfl)

namespace Override

/-! ### Layers -/

def Sets (o : Override) (setting : Setting) (value : setting.kind.Value) : Prop :=
  o.path = setting.path ∧ setting.kind.read? o.value = some value

theorem sets_ofName {name : String} {setting : Setting} {assigned : Toml} {value : setting.kind.Value}
    (names : pathOf name = setting.path) (reads : setting.kind.read? assigned = some value) :
    (ofName name assigned).Sets setting value :=
  ⟨names, reads⟩

/-- Overrides that set some of the settings, each to one value. -/
structure Layer (overrides : List Override) (said? : (setting : Setting) → Option setting.kind.Value) :
    Prop where
  sets : ∀ o ∈ overrides, ∃ setting value, said? setting = some value ∧ o.Sets setting value
  exists_of_said : ∀ {setting value}, said? setting = some value →
    ∃ o ∈ overrides, o.Sets setting value

namespace Layer

variable {overrides : List Override} {said? : (setting : Setting) → Option setting.kind.Value}
  {before after : Toml.Table} {setting : Setting} {held : setting.kind.Value}

theorem said_of_leads (layer : Layer overrides said?) {o : Override} (inside : o ∈ overrides)
    (leads : o.path <+: setting.path) :
    ∃ value, said? setting = some value ∧ o.Sets setting value := by
  obtain ⟨other, value, said, sets⟩ := layer.sets o inside
  have same : other = setting := Setting.eq_of_path_prefix (sets.1 ▸ leads)
  subst same
  exact ⟨value, said, sets⟩

theorem eq_of_said (layer : Layer overrides said?) (applied : applyAll overrides before = .ok after)
    (holds : setting.valueIn after = some held) {value : setting.kind.Value}
    (said : said? setting = some value) : held = value := by
  apply eq_of_applyAll applied _ _ holds
  · intro o inside leads
    obtain ⟨other, otherSaid, sets⟩ := layer.said_of_leads inside leads
    have same : other = value := Option.some.inj (otherSaid.symm.trans said)
    exact same ▸ sets
  · obtain ⟨o, inside, sets⟩ := layer.exists_of_said said
    exact ⟨o, inside, sets.1⟩

theorem valueIn_of_not_said (layer : Layer overrides said?)
    (applied : applyAll overrides before = .ok after) (holds : setting.valueIn after = some held)
    (silent : said? setting = none) : setting.valueIn before = some held := by
  apply valueIn_applyAll_apart applied _ holds
  intro o inside leads
  obtain ⟨value, said, -⟩ := layer.said_of_leads inside leads
  rw [silent] at said
  cases said

end Layer

end Override

/-! ### The layers of a command line -/

namespace Setting

theorem pathOf_remoteUrl : Override.pathOf "client.remote_url" = remoteUrl.path := by decide
theorem pathOf_datadir : Override.pathOf "db.datadir" = datadir.path := by decide
theorem pathOf_maxSlots : Override.pathOf "fetcher.max_slots" = maxSlots.path := by decide
theorem pathOf_maxChunkSize : Override.pathOf "fetcher.max_chunk_size" = maxChunkSize.path := by decide
theorem pathOf_json : Override.pathOf "logging.json_format" = json.path := by decide

end Setting

def Environment.variable? (environment : Environment) :
    (setting : Setting) → Option setting.kind.Value
  | .remoteUrl => environment.remoteUrl
  | .datadir => environment.datadir
  | _ => none

namespace Arguments

def flag? (arguments : Arguments) : (setting : Setting) → Option setting.kind.Value
  | .remoteUrl => arguments.remoteUrl
  | .datadir => arguments.datadir
  | .maxSlots => arguments.maxSlots
  | .maxChunkSize => arguments.maxChunkSize
  | .json => if arguments.jsonLogs then some true else none
  | _ => none

theorem mem_textOverride {name : String} {value : Option String} {o : Override} :
    o ∈ textOverride name value ↔ ∃ text, value = some text ∧ o = .ofName name (.string text) := by
  cases value <;> simp [textOverride]

theorem mem_textOverride_of {name text : String} {value : Option String} (given : value = some text) :
    .ofName name (.string text) ∈ textOverride name value :=
  mem_textOverride.2 ⟨text, given, rfl⟩

theorem word64?_ofUInt64 {n : UInt64} (small : n.toNat ≤ Int64.maxValue.toInt) :
    (Toml.int (Int64.ofUInt64 n)).word64? = some n := by
  have bound : n.toNat ≤ 9223372036854775807 := Int.ofNat_le.1 small
  have signed : (Int64.ofUInt64 n).toInt = n.toNat :=
    BitVec.toInt_eq_toNat_of_lt (by change 2 * n.toNat < _; omega)
  rw [Toml.word64?, Toml.natUpTo?, signed, if_pos (by simp only [UInt64.size]; omega), Option.map_some]
  simp

theorem flagOverride_ok {name flag : String} {value : Option UInt64} {made : List Override}
    (fits : flagOverride name flag value = .ok made) :
    value = none ∧ made = [] ∨
      ∃ n assigned, value = some n ∧ made = [.ofName name assigned] ∧ assigned.word64? = some n := by
  cases value with
  | none =>
    cases fits
    exact .inl ⟨rfl, rfl⟩
  | some n =>
    obtain ⟨assigned, within, rfl⟩ := exists_of_map_ok fits
    rw [flagValue] at within
    split at within
    · next small =>
      cases within
      exact .inr ⟨n, _, rfl, rfl, word64?_ofUInt64 small⟩
    · cases within

theorem flagOverrides_ok {arguments : Arguments} {flags : List Override}
    (made : arguments.flagOverrides = .ok flags) :
    ∃ slots chunk, flagOverride "fetcher.max_slots" "max-slots" arguments.maxSlots = .ok slots ∧
      flagOverride "fetcher.max_chunk_size" "max-chunk-size" arguments.maxChunkSize = .ok chunk ∧
      flags = textOverride "db.datadir" arguments.datadir ++
        textOverride "client.remote_url" arguments.remoteUrl ++ slots ++ chunk ++
        if arguments.jsonLogs then [.ofName "logging.json_format" (.bool true)] else [] := by
  obtain ⟨slots, slotsMade, made⟩ := exists_of_bind_ok made
  obtain ⟨chunk, chunkMade, made⟩ := exists_of_bind_ok made
  cases made
  exact ⟨slots, chunk, slotsMade, chunkMade, rfl⟩

theorem sets_of_mem_flagOverrides {arguments : Arguments} {flags : List Override}
    (made : arguments.flagOverrides = .ok flags) {o : Override} (inside : o ∈ flags) :
    ∃ setting value, arguments.flag? setting = some value ∧ o.Sets setting value := by
  obtain ⟨slots, chunk, slotsMade, chunkMade, rfl⟩ := flagOverrides_ok made
  simp only [List.mem_append, or_assoc] at inside
  rcases inside with directory | url | ofSlots | ofChunk | json
  · obtain ⟨text, given, rfl⟩ := mem_textOverride.1 directory
    exact ⟨.datadir, text, given, Override.sets_ofName Setting.pathOf_datadir rfl⟩
  · obtain ⟨text, given, rfl⟩ := mem_textOverride.1 url
    exact ⟨.remoteUrl, text, given, Override.sets_ofName Setting.pathOf_remoteUrl rfl⟩
  · rcases flagOverride_ok slotsMade with ⟨-, rfl⟩ | ⟨n, assigned, given, rfl, reads⟩
    · cases ofSlots
    · cases List.mem_singleton.1 ofSlots
      exact ⟨.maxSlots, n, given, Override.sets_ofName Setting.pathOf_maxSlots reads⟩
  · rcases flagOverride_ok chunkMade with ⟨-, rfl⟩ | ⟨n, assigned, given, rfl, reads⟩
    · cases ofChunk
    · cases List.mem_singleton.1 ofChunk
      exact ⟨.maxChunkSize, n, given, Override.sets_ofName Setting.pathOf_maxChunkSize reads⟩
  · split at json
    · next given =>
      cases List.mem_singleton.1 json
      exact ⟨.json, true, if_pos given, Override.sets_ofName Setting.pathOf_json rfl⟩
    · cases json

theorem exists_flagOverride {arguments : Arguments} {flags : List Override}
    (made : arguments.flagOverrides = .ok flags) {setting : Setting} {value : setting.kind.Value}
    (said : arguments.flag? setting = some value) : ∃ o ∈ flags, o.Sets setting value := by
  obtain ⟨slots, chunk, slotsMade, chunkMade, rfl⟩ := flagOverrides_ok made
  simp only [List.append_assoc]
  cases setting with
  | datadir =>
    refine ⟨.ofName "db.datadir" (.string value), ?_, Override.sets_ofName Setting.pathOf_datadir rfl⟩
    exact List.mem_append_left _ (mem_textOverride_of said)
  | remoteUrl =>
    refine ⟨.ofName "client.remote_url" (.string value), ?_,
      Override.sets_ofName Setting.pathOf_remoteUrl rfl⟩
    exact List.mem_append_right _ (List.mem_append_left _ (mem_textOverride_of said))
  | maxSlots =>
    rcases flagOverride_ok slotsMade with ⟨missing, -⟩ | ⟨n, assigned, given, rfl, reads⟩
    · cases missing.symm.trans said
    · have same : n = value := Option.some.inj (given.symm.trans said)
      exact ⟨.ofName "fetcher.max_slots" assigned, by simp,
        Override.sets_ofName Setting.pathOf_maxSlots (same ▸ reads)⟩
  | maxChunkSize =>
    rcases flagOverride_ok chunkMade with ⟨missing, -⟩ | ⟨n, assigned, given, rfl, reads⟩
    · cases missing.symm.trans said
    · have same : n = value := Option.some.inj (given.symm.trans said)
      exact ⟨.ofName "fetcher.max_chunk_size" assigned, by simp,
        Override.sets_ofName Setting.pathOf_maxChunkSize (same ▸ reads)⟩
  | json =>
    change (if arguments.jsonLogs then some true else none) = some value at said
    split at said
    · next given =>
      cases said
      exact ⟨.ofName "logging.json_format" (.bool true), by simp [given],
        Override.sets_ofName Setting.pathOf_json rfl⟩
    · cases said
  | _ => cases said

theorem layer_flagOverrides {arguments : Arguments} {flags : List Override}
    (made : arguments.flagOverrides = .ok flags) : Override.Layer flags arguments.flag? where
  sets _ inside := sets_of_mem_flagOverrides made inside
  exists_of_said said := exists_flagOverride made said

end Arguments

theorem Environment.layer_overrides (environment : Environment) :
    Override.Layer environment.overrides environment.variable? := by
  constructor
  · intro o inside
    rcases List.mem_append.1 inside with url | directory
    · obtain ⟨text, given, rfl⟩ := Arguments.mem_textOverride.1 url
      exact ⟨.remoteUrl, text, given, Override.sets_ofName Setting.pathOf_remoteUrl rfl⟩
    · obtain ⟨text, given, rfl⟩ := Arguments.mem_textOverride.1 directory
      exact ⟨.datadir, text, given, Override.sets_ofName Setting.pathOf_datadir rfl⟩
  · intro setting value said
    cases setting with
    | remoteUrl =>
      refine ⟨.ofName "client.remote_url" (.string value), ?_,
        Override.sets_ofName Setting.pathOf_remoteUrl rfl⟩
      exact List.mem_append_left _ (Arguments.mem_textOverride_of said)
    | datadir =>
      refine ⟨.ofName "db.datadir" (.string value), ?_, Override.sets_ofName Setting.pathOf_datadir rfl⟩
      exact List.mem_append_right _ (Arguments.mem_textOverride_of said)
    | _ => cases said

/-! ### Precedence -/

/-- Where a setting comes from, given the generic overrides of the command line in their order. -/
structure Setting.Layered (setting : Setting) (arguments : Arguments) (environment : Environment)
    (file : SettingsFile) (generic : List Override) (settings : Settings) : Prop where
  of_flag : ∀ value, arguments.flag? setting = some value → setting.get settings = value
  /-- The last override of a setting counts, when none after it is of something around it. -/
  of_override : arguments.flag? setting = none → ∀ earlier o later, generic = earlier ++ o :: later →
    o.path = setting.path → (∀ other ∈ later, ¬ other.path <+: setting.path) →
      setting.kind.read? o.value = some (setting.get settings)
  of_environment : arguments.flag? setting = none → (∀ o ∈ generic, ¬ o.path <+: setting.path) →
    ∀ value, environment.variable? setting = some value → setting.get settings = value
  of_file : arguments.flag? setting = none → (∀ o ∈ generic, ¬ o.path <+: setting.path) →
    environment.variable? setting = none → file.Gives setting (setting.get settings)
  /-- In a file of lines that is the value of the setting's line, or the default where it has none. -/
  of_line : arguments.flag? setting = none → (∀ o ∈ generic, ¬ o.path <+: setting.path) →
    environment.variable? setting = none → ∀ listing : SettingsFile.Listing,
      file = .contents (Utf8.encode listing.text) →
        (listing.said? setting).elim setting.default? setting.kind.read? = some (setting.get settings)

namespace Arguments

variable {arguments : Arguments} {environment : Environment} {file : SettingsFile}

theorem valueIn_of_ofTable {table : Toml.Table} {settings : Settings}
    (read : Settings.ofTable table = .ok settings) (setting : Setting) :
    setting.valueIn table = some (setting.get settings) := by
  rw [Settings.ofTable] at read
  split at read
  · cases read
  · next found =>
    obtain ⟨-, -, rfl⟩ := exists_of_map_ok read
    exact Setting.valueIn_of_ofToml? found setting

theorem exists_layered {settings : Settings} (loaded : arguments.load environment file = .ok settings) :
    ∃ generic, arguments.overrides.mapM Override.parse = .ok generic ∧
      ∀ setting : Setting, setting.Layered arguments environment file generic settings := by
  obtain ⟨all, allMade, loaded⟩ := exists_of_bind_ok loaded
  obtain ⟨generic, parsed, allMade⟩ := exists_of_bind_ok allMade
  obtain ⟨flags, flagsMade, ⟨⟩⟩ := exists_of_bind_ok allMade
  obtain ⟨table, read, loaded⟩ := exists_of_bind_ok (ok_of_mapError loaded)
  obtain ⟨final, applied, loaded⟩ := exists_of_bind_ok loaded
  obtain ⟨afterEnvironment, environmentApplied, applied⟩ := Override.applyAll_append applied
  obtain ⟨afterGeneric, genericApplied, flagsApplied⟩ := Override.applyAll_append applied
  refine ⟨generic, ok_of_mapError parsed, ?_⟩
  intro setting
  have flagsLayer := layer_flagOverrides flagsMade
  have holds := valueIn_of_ofTable loaded setting
  -- What no layer above decides stands already in the table below that layer.
  have belowFlags (silent : arguments.flag? setting = none) :=
    flagsLayer.valueIn_of_not_said flagsApplied holds silent
  have belowGeneric (silent : arguments.flag? setting = none)
      (apart : ∀ o ∈ generic, ¬ o.path <+: setting.path) :=
    Override.valueIn_applyAll_apart genericApplied apart (belowFlags silent)
  have gives (silent : arguments.flag? setting = none) (apart : ∀ o ∈ generic, ¬ o.path <+: setting.path)
      (unset : environment.variable? setting = none) : file.Gives setting (setting.get settings) :=
    SettingsFile.gives_of_baseTable read
      (environment.layer_overrides.valueIn_of_not_said environmentApplied (belowGeneric silent apart) unset)
  constructor
  · intro value said
    exact flagsLayer.eq_of_said flagsApplied holds said
  · rintro silent earlier o later rfl own apart
    exact Override.read?_of_applyAll genericApplied own apart (belowFlags silent)
  · intro silent apart value said
    exact environment.layer_overrides.eq_of_said environmentApplied (belowGeneric silent apart) said
  · exact gives
  · rintro silent apart unset listing rfl
    exact (gives silent apart unset).of_lines

theorem flagOverride_error {name flag : String} {n : UInt64} (large : Int64.maxValue.toInt < n.toNat) :
    flagOverride name flag (some n) = .error (.flagOutOfRange flag n) := by
  rw [flagOverride, flagValue, if_neg (by omega)]
  rfl

theorem exists_error_of_large {n : UInt64}
    (given : arguments.maxSlots = some n ∨ arguments.maxChunkSize = some n)
    (large : Int64.maxValue.toInt < n.toNat) : ∃ error, arguments.load environment file = .error error := by
  cases loaded : arguments.load environment file with
  | error error => exact ⟨error, rfl⟩
  | ok settings =>
    exfalso
    obtain ⟨all, allMade, -⟩ := exists_of_bind_ok loaded
    obtain ⟨generic, -, allMade⟩ := exists_of_bind_ok allMade
    obtain ⟨flags, flagsMade, -⟩ := exists_of_bind_ok allMade
    obtain ⟨slots, chunk, slotsMade, chunkMade, -⟩ := flagOverrides_ok flagsMade
    rcases given with given | given
    · rw [given, flagOverride_error large] at slotsMade
      cases slotsMade
    · rw [given, flagOverride_error large] at chunkMade
      cases chunkMade

/-- Settings that load are layered, and a number that is too large for the settings keeps them from
loading. -/
theorem precedence (arguments : Arguments) (environment : Environment) (file : SettingsFile) :
    (∀ settings, arguments.load environment file = .ok settings →
      ∃ generic, arguments.overrides.mapM Override.parse = .ok generic ∧
        ∀ setting : Setting, setting.Layered arguments environment file generic settings) ∧
    (∀ n, arguments.maxSlots = some n ∨ arguments.maxChunkSize = some n →
      Int64.maxValue.toInt < n.toNat → ∃ error, arguments.load environment file = .error error) := by
  constructor
  · intro settings loaded
    exact exists_layered loaded
  · intro n given large
    exact exists_error_of_large given large

/-- A load with something on every layer, and a flag that nothing helps. -/
theorem precedence_of_layers :
    (∃ listing : SettingsFile.Listing, listing.text = "[client]\nremote_url = \"http://a\"\n" ++
        "chain_id = \"test3\"\n[fetcher]\nmax_slots = 2\nmax_chunk_size = 10\n" ∧
      ∃ settings, ({ empty with maxChunkSize := some 40, overrides :=
          ["fetcher.max_slots=4", "fetcher.max_chunk_size=7", "fetcher.max_slots=6"] } : Arguments).load
            ⟨some "http://b", none⟩ (.contents (Utf8.encode listing.text)) = .ok settings ∧
        settings.fetcher.maxChunkSize = 40 ∧ settings.fetcher.maxSlots = 6 ∧
        settings.client.remoteUrl = "http://b" ∧ settings.client.chainId = "test3" ∧
        settings.fetcher.pollInterval = 1000) ∧
    (9223372036854775807 < (9223372036854775808 : UInt64).toNat ∧
      ∃ error, ({ empty with maxSlots := some 9223372036854775808 } : Arguments).load ⟨none, none⟩
        .unnamed = .error error) := by
  obtain ⟨listing, spelled, chain, poll⟩ : ∃ listing : SettingsFile.Listing, listing.text =
      "[client]\nremote_url = \"http://a\"\nchain_id = \"test3\"\n[fetcher]\nmax_slots = 2\nmax_chunk_size = 10\n" ∧
        listing.said? .chainId = some (.string "test3") ∧ listing.said? .pollInterval = none :=
    ⟨⟨[("client", [("remote_url", .string "http://a"), ("chain_id", .string "test3")]),
      ("fetcher", [("max_slots", .int 2), ("max_chunk_size", .int 10)])],
      by decide, by decide⟩, by decide +kernel, rfl, rfl⟩
  refine ⟨⟨listing, spelled, ?_⟩, by decide, (precedence _ _ _).2 _ (.inl rfl) (by decide)⟩
  have evaluated : (({ empty with maxChunkSize := some 40, overrides :=
      ["fetcher.max_slots=4", "fetcher.max_chunk_size=7", "fetcher.max_slots=6"] } : Arguments).load
        ⟨some "http://b", none⟩ (.contents (Utf8.encode listing.text))).toOption =
      some ⟨⟨"http://b", "test3", 10000⟩, .default, ⟨6, 40, 1000, 5, 1000⟩, .default, .default, .default,
        .default⟩ := by
    rw [spelled]
    decide +kernel
  have said : ((["fetcher.max_slots=4", "fetcher.max_chunk_size=7", "fetcher.max_slots=6"].mapM
      Override.parse).toOption.map (·.map fun o => (o.path, o.value.word64?))) =
      some [(["fetcher", "max_slots"], some 4), (["fetcher", "max_chunk_size"], some 7),
        (["fetcher", "max_slots"], some 6)] := by decide +kernel
  have loaded := ok_of_toOption evaluated
  obtain ⟨generic, parsed, layered⟩ := (precedence _ _ _).1 _ loaded
  rw [parsed] at said
  have listed := Option.some.inj said
  obtain ⟨first, second, third, rfl⟩ : ∃ first second third, generic = [first, second, third] :=
    List.length_eq_three.1 (by simpa using congrArg List.length listed)
  simp only [List.map_cons, List.map_nil, List.cons.injEq, Prod.mk.injEq] at listed
  obtain ⟨⟨firstPath, -⟩, ⟨secondPath, -⟩, ⟨thirdPath, thirdValue⟩, -⟩ := listed
  have apart (setting : Setting) (slots : .maxSlots ≠ setting) (chunk : .maxChunkSize ≠ setting) :
      ∀ o ∈ [first, second, third], ¬ o.path <+: setting.path := by
    simp only [List.forall_mem_cons, firstPath, secondPath, thirdPath]
    exact ⟨fun leads => slots (Setting.eq_of_path_prefix leads),
      fun leads => chunk (Setting.eq_of_path_prefix leads),
      fun leads => slots (Setting.eq_of_path_prefix leads), nofun⟩
  have last := (layered .maxSlots).of_override rfl [first, second] third [] rfl thirdPath nofun
  have chainLine := (layered .chainId).of_line rfl (apart _ nofun nofun) rfl listing rfl
  have pollLine := (layered .pollInterval).of_line rfl (apart _ nofun nofun) rfl listing rfl
  rw [chain] at chainLine
  rw [poll] at pollLine
  exact ⟨_, loaded, (layered .maxChunkSize).of_flag (40 : UInt64) rfl,
    Option.some.inj (last.symm.trans thirdValue),
    (layered .remoteUrl).of_environment rfl (apart _ nofun nofun) "http://b" rfl,
    (Option.some.inj chainLine).symm, (Option.some.inj pollLine).symm⟩

end Arguments

end TokenIndexer
