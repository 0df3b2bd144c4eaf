import TokenIndexer.Proofs.Store.History
import TokenIndexer.Proofs.Store.Keyed

/-!
Batches that are open at the same time do not meet: the store is what the batches that it took make of it when
each is applied alone, in the order of their commits.
-/

namespace TokenIndexer.KeyedStore

open Session

variable {store : KeyedStore} {batch : Batch} {new : Height}

def holding (store : KeyedStore) (batch : Batch) (marks : Ordered Bytes Bytes) : KeyedStore :=
  ⟨insertAll Block.codec (fun b => heightKey b.height) batch.blocks store.blocks,
    insertAll TxResult.codec (fun r => resultKey r.height r.index) batch.results store.results, marks⟩

theorem commit_of_unmarked (unmarked : batch.marker = none) :
    store.commit batch = .ok (store.holding batch store.marks) := by
  unfold commit
  rw [unmarked]
  rfl

theorem commit_of_marked (marked : batch.marker = some new) :
    store.commit batch = (moveLatest new store.marks).map (store.holding batch) := by
  unfold commit
  rw [marked]
  rfl

theorem commit_of_unreadable {error : StoreError} (marked : batch.marker = some new)
    (unreadable : store.latest = .error error) : store.commit batch = .error error := by
  change get heightOfBytes latestKey store.marks = .error error at unreadable
  rw [commit_of_marked marked, moveLatest, unreadable]
  rfl

theorem commit_of_blank (marked : batch.marker = some new) (blank : store.latest = .ok none) :
    store.commit batch =
      .ok (store.holding batch (Ordered.insert latestKey (heightKey new) store.marks)) := by
  change get heightOfBytes latestKey store.marks = .ok none at blank
  rw [commit_of_marked marked, moveLatest, blank]
  rfl

theorem commit_of_le {current : Height} (marked : batch.marker = some new)
    (read : store.latest = .ok (some current)) (behind : new ≤ current) :
    store.commit batch = .error (.heightRegression current new) := by
  change get heightOfBytes latestKey store.marks = .ok (some current) at read
  rw [commit_of_marked marked, moveLatest, read]
  simp only [bind, Except.bind, if_pos behind]
  rfl

theorem commit_of_lt {current : Height} (marked : batch.marker = some new)
    (read : store.latest = .ok (some current)) (above : current < new) :
    store.commit batch =
      .ok (store.holding batch (Ordered.insert latestKey (heightKey new) store.marks)) := by
  change get heightOfBytes latestKey store.marks = .ok (some current) at read
  rw [commit_of_marked marked, moveLatest, read]
  simp only [bind, Except.bind, if_neg (UInt64.not_le.2 above)]
  rfl

def Forward (store : KeyedStore) (batch : Batch) : Prop :=
  ∀ new, batch.marker = some new →
    store.latest = .ok none ∨ ∃ current, store.latest = .ok (some current) ∧ current < new

theorem commit_eq_ok_iff {after : KeyedStore} :
    store.commit batch = .ok after ↔ store.Forward batch ∧ after = store.holding batch
      (batch.marker.elim store.marks fun new => Ordered.insert latestKey (heightKey new) store.marks) := by
  cases marked : batch.marker with
  | none =>
    rw [commit_of_unmarked marked, Except.ok.injEq, Option.elim_none, eq_comm]
    refine (and_iff_right ?_).symm
    intro new same
    cases marked.symm.trans same
  | some new =>
    have forward : store.Forward batch ↔
        store.latest = .ok none ∨ ∃ current, store.latest = .ok (some current) ∧ current < new := by
      simp only [Forward, marked, Option.some.injEq, forall_eq']
    rw [forward, Option.elim_some]
    cases read : store.latest with
    | error e =>
      rw [commit_of_unreadable marked read]
      simp
    | ok latest =>
      cases latest with
      | none =>
        rw [commit_of_blank marked read]
        simp [eq_comm]
      | some current =>
        rcases UInt64.lt_or_le current new with above | behind
        · rw [commit_of_lt marked read above]
          simp [above, eq_comm]
        · rw [commit_of_le marked read behind]
          simp [behind]

/-- A batch with what a command writes to the one of a number; what has no record is refused. -/
def written (id : Nat) (batch : Batch) : Command → Batch
  | .setBlock n b => if n = id ∧ (Block.codec.write b).isSome then batch.withBlock b else batch
  | .setResult n r => if n = id ∧ (TxResult.codec.write r).isSome then batch.withResult r else batch
  | .setMarker n h => if n = id then batch.withMarker h else batch
  | .begin => batch
  | .commit _ => batch
  | .discard _ => batch

theorem eq_of_open?_write {session : Session KeyedStore} {n id : Nat}
    {add : KeyedStore → Batch → Except StoreError Batch}
    (present : (session.write n add).1.open? id = some batch) :
    ∃ before, session.open? id = some before ∧
      batch = if n = id then (add session.store before).toOption.getD before else before := by
  rw [open?_write] at present
  obtain ⟨before, old, same⟩ := Option.map_eq_some_iff.1 present
  exact ⟨before, old, same.symm⟩

theorem getD_encode {α : Type} (codec : Codec α) (value : α) (before after : Batch) :
    ((encode codec value).map fun _ => after).toOption.getD before =
      if (codec.write value).isSome then after else before := by
  rw [encode_toOption]
  split <;> rfl

/-- An open batch was opened just now, or it was open and the command wrote to it. -/
theorem open?_step_cases {session : Session KeyedStore} {command : Command} {id : Nat}
    (present : (session.step command).1.open? id = some batch) :
    command = .begin ∧ id = session.batches.length ∧ batch = .empty ∨
      ∃ before, session.open? id = some before ∧ batch = written id before command := by
  cases command with
  | begin =>
    rw [open?_begin] at present
    split at present
    · next new =>
      cases present
      exact .inl ⟨rfl, new, rfl⟩
    · exact .inr ⟨batch, present, rfl⟩
  | setBlock n b =>
    obtain ⟨before, old, rfl⟩ := eq_of_open?_write present
    refine .inr ⟨before, old, ?_⟩
    rw [written, ite_and, ← getD_encode]
    rfl
  | setResult n r =>
    obtain ⟨before, old, rfl⟩ := eq_of_open?_write present
    refine .inr ⟨before, old, ?_⟩
    rw [written, ite_and, ← getD_encode]
    rfl
  | setMarker n h =>
    obtain ⟨before, old, rfl⟩ := eq_of_open?_write present
    exact .inr ⟨before, old, rfl⟩
  | commit n =>
    change (session.commit n).1.open? id = _ at present
    rw [open?_commit] at present
    split at present
    · cases present
    · exact .inr ⟨batch, present, rfl⟩
  | discard n =>
    change (session.replace n none).open? id = _ at present
    rw [open?_replace_none] at present
    split at present
    · cases present
    · exact .inr ⟨batch, present, rfl⟩

theorem length_step (session : Session KeyedStore) (command : Command) :
    (session.step command).1.batches.length = session.batches.length + [command].count .begin := by
  cases command with
  | begin => simp [step]
  | setBlock n b => exact length_write ..
  | setResult n r => exact length_write ..
  | setMarker n h => exact length_write ..
  | commit n => exact length_commit ..
  | discard n => exact List.length_set

theorem length_run (commands : List Command) (store : KeyedStore) :
    ((opened store).run commands).batches.length = commands.count .begin := by
  induction commands using List.reverseRecOn with
  | nil => rfl
  | append_singleton commands command ih => rw [run_concat, length_step, ih, List.count_append]

theorem written_of_open? {commands : List Command} {id : Nat}
    (present : ((opened store).run commands).open? id = some batch) :
    ∃ earlier later, commands = earlier ++ .begin :: later ∧ earlier.count .begin = id ∧
      batch = later.foldl (written id) .empty := by
  induction commands using List.reverseRecOn generalizing batch with
  | nil => cases present
  | append_singleton commands command ih =>
    rw [run_concat] at present
    rcases open?_step_cases present with ⟨rfl, rfl, rfl⟩ | ⟨before, old, rfl⟩
    · exact ⟨commands, [], rfl, (length_run commands store).symm, rfl⟩
    · obtain ⟨earlier, later, rfl, number, rfl⟩ := ih old
      exact ⟨earlier, later ++ [command], by simp, number, by simp⟩

theorem latest_holding (batch : Batch) :
    (store.holding batch (Ordered.insert latestKey (heightKey new) store.marks)).latest = .ok (some new) := by
  change get heightOfBytes latestKey (Ordered.insert latestKey (heightKey new) store.marks) = _
  rw [get, Ordered.find?_insert, if_pos rfl]
  simp only [heightOfBytes_heightKey, Except.map]

end TokenIndexer.KeyedStore
