import TokenIndexer.Proofs.Store.Memory
import TokenIndexer.Proofs.Store.Serial

/-! The store in trees of bytes and the store in memory stand in for one another. -/

namespace TokenIndexer

structure Batch.Recordable (batch : Batch) : Prop where
  blocks : ∀ b ∈ batch.blocks, (Block.codec.write b).isSome
  results : ∀ r ∈ batch.results, (TxResult.codec.write r).isSome

theorem Batch.recordable_empty : Batch.empty.Recordable :=
  ⟨fun _ none => (nomatch none), fun _ none => (nomatch none)⟩

theorem Batch.Recordable.withBlock {batch : Batch} (recordable : batch.Recordable) {b : Block}
    (fits : (Block.codec.write b).isSome) : (batch.withBlock b).Recordable := by
  refine ⟨fun other member => ?_, recordable.results⟩
  rcases List.mem_append.1 member with old | new
  · exact recordable.blocks other old
  · rw [List.mem_singleton.1 new]
    exact fits

theorem Batch.Recordable.withResult {batch : Batch} (recordable : batch.Recordable) {r : TxResult}
    (fits : (TxResult.codec.write r).isSome) : (batch.withResult r).Recordable := by
  refine ⟨recordable.blocks, fun other member => ?_⟩
  rcases List.mem_append.1 member with old | new
  · exact recordable.results other old
  · rw [List.mem_singleton.1 new]
    exact fits

def Session.Command.recordable : Session.Command → Bool
  | .setBlock _ b => (Block.codec.write b).isSome
  | .setResult _ r => (TxResult.codec.write r).isSome
  | _ => true

namespace KeyedStore

theorem encode_of_isSome {α β : Type} {codec : Codec α} {value : α} (fits : (codec.write value).isSome)
    (b : β) : (encode codec value).map (fun _ => b) = .ok b := by
  obtain ⟨bytes, written⟩ := Option.isSome_iff_exists.1 fits
  rw [encode, written]
  rfl

end KeyedStore

namespace MemoryStore

theorem marks_withBlocks (blocks : List Block) (store : MemoryStore) :
    (blocks.foldl withBlock store).latest = store.latest ∧
      (blocks.foldl withBlock store).markerLog = store.markerLog := by
  induction blocks generalizing store with
  | nil => exact ⟨rfl, rfl⟩
  | cons b rest ih => exact ih (store.withBlock b)

theorem marks_withResults (results : List TxResult) (store : MemoryStore) :
    (results.foldl withResult store).latest = store.latest ∧
      (results.foldl withResult store).markerLog = store.markerLog := by
  induction results generalizing store with
  | nil => exact ⟨rfl, rfl⟩
  | cons r rest ih => exact ih (store.withResult r)

theorem latest_withBatch (store : MemoryStore) (batch : Batch) :
    (store.withBatch batch).latest = batch.marker.or store.latest := by
  have kept := (marks_withResults batch.results (batch.blocks.foldl withBlock store)).1.trans
    (marks_withBlocks batch.blocks store).1
  unfold withBatch
  cases batch.marker with
  | none => exact kept
  | some h => rfl

theorem markerLog_withBatch (store : MemoryStore) (batch : Batch) :
    (store.withBatch batch).markerLog = store.markerLog ++ batch.marker.toList := by
  have kept := (marks_withResults batch.results (batch.blocks.foldl withBlock store)).2.trans
    (marks_withBlocks batch.blocks store).2
  unfold withBatch
  cases batch.marker with
  | none => exact kept.trans (List.append_nil _).symm
  | some h => exact congrArg (· ++ [h]) kept

theorem commit_of_faultless {store : MemoryStore} (faultless : store.faults = .none) (batch : Batch) :
    Store.commit store batch = .ok (store.withBatch batch) := by
  change (if store.faults.commit then _ else _) = _
  rw [faultless]
  rfl

theorem block_of_faultless {store : MemoryStore} (faultless : store.faults = .none) (b : Block) :
    (Store.Lawful.taking store).block b = true := by
  change decide (b.height ∉ store.faults.blocks) = true
  rw [faultless]
  rfl

end MemoryStore

namespace Session

/-- Sessions of both stores that answered the same commands alike. -/
structure Matched (keyed : Session KeyedStore) (memory : Session MemoryStore) : Prop where
  batches : keyed.batches = memory.batches
  recordable : ∀ id batch, keyed.open? id = some batch → batch.Recordable
  sound : keyed.store.Sound
  sound' : memory.store.Sound
  contents : keyed.store.contents = memory.store.contents
  latest : keyed.store.latest = .ok memory.store.latest
  /-- The store in memory is at the last marker that it took. -/
  marked : memory.store.latest = memory.store.markerLog.getLast?
  faultless : memory.store.faults = .none

variable {keyed : Session KeyedStore} {memory : Session MemoryStore}

theorem matched_opened : Matched (opened KeyedStore.empty) (opened MemoryStore.empty) where
  batches := rfl
  recordable _ _ present := nomatch present
  sound := KeyedStore.blank_empty.sound
  sound' := MemoryStore.blank_empty.sound
  contents := rfl
  latest := rfl
  marked := rfl
  faultless := rfl

theorem Matched.open?_eq (matched : Matched keyed memory) (id : Nat) :
    memory.open? id = keyed.open? id := by
  rw [open?, open?, matched.batches]

theorem Matched.replace (matched : Matched keyed memory) {id : Nat} {before : Batch}
    (present : keyed.open? id = some before) {now : Option Batch}
    (fits : ∀ batch, now = some batch → batch.Recordable) :
    Matched (keyed.replace id now) (memory.replace id now) where
  batches := congrArg (·.set id now) matched.batches
  recordable other batch holds := by
    rw [open?_replace present] at holds
    split at holds
    · exact fits batch holds
    · exact matched.recordable other batch holds
  sound := matched.sound
  sound' := matched.sound'
  contents := matched.contents
  latest := matched.latest
  marked := matched.marked
  faultless := matched.faultless

theorem Matched.write (matched : Matched keyed memory) (id : Nat) (change : Batch → Batch)
    {add : KeyedStore → Batch → Except StoreError Batch}
    {add' : MemoryStore → Batch → Except StoreError Batch}
    (accepted : ∀ batch, add keyed.store batch = .ok (change batch))
    (accepted' : ∀ batch, add' memory.store batch = .ok (change batch))
    (fits : ∀ batch, batch.Recordable → (change batch).Recordable) :
    Matched (keyed.write id add).1 (memory.write id add').1 ∧
      (keyed.write id add).2 = .ok () ∧ (memory.write id add').2 = .ok () := by
  have same := matched.open?_eq id
  cases present : keyed.open? id with
  | none =>
    rw [present] at same
    rw [write_of_none present, write_of_none same]
    exact ⟨matched, rfl, rfl⟩
  | some batch =>
    rw [present] at same
    rw [write_of_ok present (accepted batch), write_of_ok same (accepted' batch)]
    refine ⟨matched.replace present fun written now => ?_, rfl, rfl⟩
    rw [← Option.some.inj now]
    exact fits batch (matched.recordable id batch present)

/-- A batch may follow when its marker is above all that the store in memory took. -/
theorem Matched.forward (matched : Matched keyed memory) {batch : Batch}
    (ascending : (memory.store.markerLog ++ batch.marker.toList).Pairwise (· < ·)) :
    keyed.store.Forward batch := by
  intro new marked
  rw [marked, Option.toList_some] at ascending
  rw [matched.latest, matched.marked]
  cases last : memory.store.markerLog.getLast? with
  | none => exact .inl rfl
  | some current =>
    refine .inr ⟨current, rfl, ?_⟩
    exact (List.pairwise_append.1 ascending).2.2 current (List.mem_of_getLast? last) new
      List.mem_cons_self

theorem Matched.commit (matched : Matched keyed memory) (id : Nat)
    (ascending : (memory.commit id).1.store.markerLog.Pairwise (· < ·)) :
    Matched (keyed.commit id).1 (memory.commit id).1 ∧
      (keyed.commit id).2 = .ok () ∧ (memory.commit id).2 = .ok () := by
  have same := matched.open?_eq id
  cases present : keyed.open? id with
  | none =>
    rw [present] at same
    rw [commit_of_none present, commit_of_none same]
    exact ⟨matched, rfl, rfl⟩
  | some batch =>
    rw [present] at same
    have taken' := MemoryStore.commit_of_faultless matched.faultless batch
    rw [commit_of_ok same taken'] at ascending ⊢
    change (memory.store.withBatch batch).markerLog.Pairwise _ at ascending
    rw [MemoryStore.markerLog_withBatch] at ascending
    have taken : Store.commit keyed.store batch = .ok _ :=
      KeyedStore.commit_eq_ok_iff.2 ⟨matched.forward ascending, rfl⟩
    rw [commit_of_ok present taken]
    have fits := matched.recordable id batch present
    obtain ⟨sound, written, _⟩ := Store.Lawful.commit_ok matched.sound fits.blocks fits.results taken
    obtain ⟨sound', written', _⟩ := Store.Lawful.commit_ok matched.sound'
      (fun b _ => MemoryStore.block_of_faultless matched.faultless b) (fun _ _ => rfl) taken'
    have ended : Matched (keyed.replace id none) (memory.replace id none) :=
      matched.replace present fun _ none => (nomatch none)
    refine ⟨{ batches := ended.batches, recordable := ended.recordable, sound := sound, sound' := sound',
              contents := ?_, latest := ?_, marked := ?_, faultless := ?_ }, rfl, rfl⟩
    · exact (written.trans (congrArg (·.write batch.blocks batch.results) matched.contents)).trans
        written'.symm
    · change (keyed.store.holding batch _).latest = .ok (memory.store.withBatch batch).latest
      rw [MemoryStore.latest_withBatch]
      cases batch.marker with
      | none => exact matched.latest
      | some new => exact KeyedStore.latest_holding batch
    · change (memory.store.withBatch batch).latest = (memory.store.withBatch batch).markerLog.getLast?
      rw [MemoryStore.latest_withBatch, MemoryStore.markerLog_withBatch, matched.marked]
      cases batch.marker with
      | none => simp
      | some new => simp
    · exact (MemoryStore.wrote_withBatch memory.store batch).faults.trans matched.faultless

theorem Matched.step (matched : Matched keyed memory) {command : Command} (fits : command.recordable)
    (ascending : (memory.step command).1.store.markerLog.Pairwise (· < ·)) :
    Matched (keyed.step command).1 (memory.step command).1 ∧
      (keyed.step command).2 = .ok () ∧ (memory.step command).2 = .ok () := by
  cases command with
  | begin =>
    refine ⟨{ matched with batches := congrArg (· ++ [some Batch.empty]) matched.batches,
                           recordable := ?_ }, rfl, rfl⟩
    intro id batch present
    rw [open?_begin] at present
    split at present
    · cases present
      exact Batch.recordable_empty
    · exact matched.recordable id batch present
  | setBlock id b =>
    refine matched.write id (·.withBlock b) (fun _ => KeyedStore.encode_of_isSome fits _) ?_ ?_
    · intro batch
      change (if b.height ∈ memory.store.faults.blocks then _ else _) = _
      rw [matched.faultless]
      rfl
    · intro batch all
      exact all.withBlock fits
  | setResult id r =>
    refine matched.write id (·.withResult r) (fun _ => KeyedStore.encode_of_isSome fits _)
      (fun _ => rfl) ?_
    intro batch all
    exact all.withResult fits
  | setMarker id h =>
    refine matched.write id (·.withMarker h) (fun _ => rfl) ?_ fun batch all =>
      ⟨all.blocks, all.results⟩
    intro batch
    change (if memory.store.faults.marker then _ else _) = _
    rw [matched.faultless]
    rfl
  | commit id => exact matched.commit id ascending
  | discard id =>
    refine ⟨{ matched with batches := congrArg (·.set id none) matched.batches, recordable := ?_ },
      rfl, rfl⟩
    intro other batch present
    change (keyed.replace id none).open? other = _ at present
    rw [open?_replace_none] at present
    split at present
    · cases present
    · exact matched.recordable other batch present

theorem markerLog_step (memory : Session MemoryStore) (command : Command) :
    memory.store.markerLog <+: (memory.step command).1.store.markerLog := by
  cases took : memory.taken? command with
  | none => simp [store_step_of_none took]
  | some batch =>
    rw [MemoryStore.commit_eq_ok (eq_commit_of_taken? took).1, MemoryStore.markerLog_withBatch]
    exact List.prefix_append _ _

/-- What comes of a history on either store. -/
structure Interchangeable {σ τ : Type} [Store σ] [Store τ] (store : σ) (other : τ)
    (commands : List Command) : Prop where
  outcomes : (opened store).outcomes commands = (opened other).outcomes commands
  succeeded : ∀ outcome ∈ (opened store).outcomes commands, outcome = .ok ()
  latest : Store.latest ((opened store).run commands).store =
    Store.latest ((opened other).run commands).store
  alike : ∀ h, Alike ((opened store).run commands).store ((opened other).run commands).store h

theorem Matched.latest_eq (matched : Matched keyed memory) :
    Store.latest keyed.store = Store.latest memory.store := by
  change keyed.store.latest = if memory.store.faults.reads then _ else _
  rw [matched.latest, matched.faultless]
  rfl

theorem matched_run {commands : List Command} (recordable : ∀ command ∈ commands, command.recordable)
    (ascending : ((opened MemoryStore.empty).run commands).store.markerLog.Pairwise (· < ·)) :
    Matched ((opened KeyedStore.empty).run commands) ((opened MemoryStore.empty).run commands) ∧
      Interchangeable KeyedStore.empty MemoryStore.empty commands := by
  induction commands using List.reverseRecOn with
  | nil =>
    refine ⟨matched_opened, rfl, fun _ none => (nomatch none), rfl, fun h => ?_⟩
    exact alike_of_contents KeyedStore.blank_empty.sound MemoryStore.blank_empty.sound rfl h
  | append_singleton commands command ih =>
    have before := ascending
    rw [run_concat] at before
    obtain ⟨matched, interchangeable⟩ :=
      ih (fun other member => recordable other (List.mem_append_left _ member))
        (before.sublist (markerLog_step _ command).sublist)
    obtain ⟨after, done, done'⟩ :=
      matched.step (recordable command (List.mem_append_right _ List.mem_cons_self)) before
    rw [← run_concat, ← run_concat] at after
    refine ⟨after, ?_, ?_, after.latest_eq, fun h => ?_⟩
    · rw [outcomes_concat, outcomes_concat, interchangeable.outcomes, done, done']
    · rw [outcomes_concat, done]
      intro outcome member
      rcases List.mem_append.1 member with old | last
      · exact interchangeable.succeeded outcome old
      · exact List.mem_singleton.1 last
    · exact alike_of_contents after.sound after.sound' after.contents h

theorem interchangeable_run {commands : List Command}
    (recordable : ∀ command ∈ commands, command.recordable)
    (ascending : ((opened MemoryStore.empty).run commands).store.markerLog.Pairwise (· < ·))
    {earlier : List Command} (past : earlier <+: commands) :
    Interchangeable KeyedStore.empty MemoryStore.empty earlier := by
  obtain ⟨later, rfl⟩ := past
  induction later using List.reverseRecOn with
  | nil =>
    rw [List.append_nil] at recordable ascending
    exact (matched_run recordable ascending).2
  | append_singleton later command ih =>
    rw [← List.append_assoc] at recordable ascending
    rw [run_concat] at ascending
    exact ih (fun other member => recordable other (List.mem_append_left _ member))
      (ascending.sublist (markerLog_step _ command).sublist)

/-- Two batches are open at once and write to the same keys; a third is given up. -/
theorem interchangeable_overwritten :
    let early : Block := ⟨1, [], "plain", "", "", []⟩
    let late : Block := ⟨1, [9], "plain", "", "", []⟩
    let result (index : UInt32) (data : Bytes) : TxResult := ⟨1, index, ⟨[]⟩, ⟨none, data, "", "", 0, 0⟩⟩
    let commands : List Command := [.begin, .begin, .setBlock 1 late, .setBlock 0 late, .setBlock 0 early,
      .setResult 0 (result 256 []), .setResult 0 (result 1 [5]), .setMarker 0 1, .commit 0,
      .setResult 1 (result 256 [7]), .setMarker 1 2, .commit 1, .begin, .setBlock 2 early, .discard 2]
    (∀ command ∈ commands, command.recordable) ∧
      ((opened MemoryStore.empty).run commands).store.markerLog.Pairwise (· < ·) ∧
        Interchangeable KeyedStore.empty MemoryStore.empty commands ∧
          ((opened KeyedStore.empty).run commands).store.block 1 = .ok (some late) ∧
            ((opened KeyedStore.empty).run commands).store.resultsAt 1 =
              .ok [result 1 [5], result 256 [7]] := by
  intro early late result commands
  have recordable : ∀ command ∈ commands, command.recordable := by decide +kernel
  have ascending : ((opened MemoryStore.empty).run commands).store.markerLog.Pairwise (· < ·) := by
    decide +kernel
  have interchangeable := interchangeable_run recordable ascending (List.prefix_refl commands)
  exact ⟨recordable, ascending, interchangeable, by decide +kernel, by decide +kernel⟩

end Session

end TokenIndexer
