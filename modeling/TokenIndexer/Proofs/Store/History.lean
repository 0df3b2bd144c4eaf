import Mathlib.Data.List.Induction
import TokenIndexer.Store.Session

namespace TokenIndexer.Session

variable {σ : Type} {session : Session σ} {id : Nat} {contents : Batch}

section Batches

variable {add : σ → Batch → Except StoreError Batch}

theorem lt_of_open? (present : session.open? id = some contents) : id < session.batches.length := by
  rw [open?, Option.join_eq_some_iff] at present
  exact (List.getElem?_eq_some_iff.1 present).1

theorem open?_replace (present : session.open? id = some contents) (now : Option Batch) (other : Nat) :
    (session.replace id now).open? other = if other = id then now else session.open? other := by
  have within := lt_of_open? present
  change ((session.batches.set id now)[other]?).join = _
  rw [List.getElem?_set]
  by_cases same : id = other
  · subst same
    simp [within]
  · simp [same, Ne.symm same, open?]

theorem open?_replace_none (session : Session σ) (id other : Nat) :
    (session.replace id none).open? other = if other = id then none else session.open? other := by
  change ((session.batches.set id none)[other]?).join = _
  rw [List.getElem?_set]
  by_cases same : id = other
  · subst same
    rw [if_pos rfl, if_pos rfl]
    split <;> rfl
  · rw [if_neg same, if_neg (Ne.symm same)]
    rfl

theorem write_of_none (ended : session.open? id = none) : session.write id add = (session, .ok ()) := by
  rw [write, ended]

theorem write_of_ok {written : Batch} (present : session.open? id = some contents)
    (added : add session.store contents = .ok written) :
    session.write id add = (session.replace id (some written), .ok ()) := by
  simp only [write, present, added]

theorem write_of_error {error : StoreError} (present : session.open? id = some contents)
    (refused : add session.store contents = .error error) :
    session.write id add = (session, .error error) := by
  simp only [write, present, refused]

theorem store_write (session : Session σ) (id : Nat) (add : σ → Batch → Except StoreError Batch) :
    (session.write id add).1.store = session.store := by
  cases present : session.open? id with
  | none => rw [write_of_none present]
  | some contents =>
    cases added : add session.store contents with
    | error e => rw [write_of_error present added]
    | ok written =>
      rw [write_of_ok present added]
      rfl

theorem open?_write (session : Session σ) (id : Nat) (add : σ → Batch → Except StoreError Batch)
    (other : Nat) :
    (session.write id add).1.open? other =
      (session.open? other).map fun contents =>
        if id = other then (add session.store contents).toOption.getD contents else contents := by
  by_cases same : id = other
  · subst same
    cases present : session.open? id with
    | none =>
      rw [write_of_none present]
      exact present
    | some contents =>
      cases added : add session.store contents with
      | error e =>
        rw [write_of_error present added, present]
        simp [added, Except.toOption]
      | ok written =>
        rw [write_of_ok present added, open?_replace present]
        simp [added, Except.toOption]
  · simp only [if_neg same, Option.map_id']
    cases present : session.open? id with
    | none => rw [write_of_none present]
    | some contents =>
      cases added : add session.store contents with
      | error e => rw [write_of_error present added]
      | ok written =>
        rw [write_of_ok present added, open?_replace present, if_neg (Ne.symm same)]

theorem length_write (session : Session σ) (id : Nat) (add : σ → Batch → Except StoreError Batch) :
    (session.write id add).1.batches.length = session.batches.length := by
  unfold write
  split
  · rfl
  · split
    · exact List.length_set
    · rfl

end Batches

variable [Store σ]

theorem commit_of_none (ended : session.open? id = none) : session.commit id = (session, .ok ()) := by
  rw [commit, ended]

theorem commit_of_ok {after : σ} (present : session.open? id = some contents)
    (took : Store.commit session.store contents = .ok after) :
    session.commit id = ({ session.replace id none with store := after }, .ok ()) := by
  simp only [commit, present, took]

theorem commit_of_error {error : StoreError} (present : session.open? id = some contents)
    (refused : Store.commit session.store contents = .error error) :
    session.commit id = (session.replace id none, .error error) := by
  simp only [commit, present, refused]

def run (commands : List Command) (session : Session σ) : Session σ :=
  commands.foldl (fun session command => (session.step command).1) session

def outcomes : List Command → Session σ → List (Except StoreError Unit)
  | [], _ => []
  | command :: rest, session => (session.step command).2 :: outcomes rest (session.step command).1

def taken? (session : Session σ) : Command → Option Batch
  | .commit id => if (session.commit id).2.isOk then session.open? id else none
  | _ => none

/-- The batches that are committed with success in the course of commands, in order. -/
def taken : List Command → Session σ → List Batch
  | [], _ => []
  | command :: rest, session => (session.taken? command).toList ++ taken rest (session.step command).1

theorem run_concat (commands : List Command) (command : Command) (session : Session σ) :
    session.run (commands ++ [command]) = ((session.run commands).step command).1 := by
  rw [run, List.foldl_append]
  rfl

theorem outcomes_concat (commands : List Command) (command : Command) (session : Session σ) :
    session.outcomes (commands ++ [command]) =
      session.outcomes commands ++ [((session.run commands).step command).2] := by
  induction commands generalizing session with
  | nil => rfl
  | cons first rest ih =>
    rw [List.cons_append, outcomes, outcomes, ih, List.cons_append]
    rfl

theorem taken_concat (commands : List Command) (command : Command) (session : Session σ) :
    session.taken (commands ++ [command]) =
      session.taken commands ++ ((session.run commands).taken? command).toList := by
  induction commands generalizing session with
  | nil => simp [taken, run]
  | cons first rest ih =>
    rw [List.cons_append, taken, taken, ih, List.append_assoc]
    rfl

theorem store_step_of_none {command : Command} (none : session.taken? command = none) :
    (session.step command).1.store = session.store := by
  cases command with
  | begin => rfl
  | setBlock id block => exact store_write ..
  | setResult id result => exact store_write ..
  | setMarker id height => exact store_write ..
  | discard id => rfl
  | commit id =>
    change (session.commit id).1.store = _
    cases present : session.open? id with
    | none => rw [commit_of_none present]
    | some contents =>
      cases outcome : Store.commit session.store contents with
      | error e =>
        rw [commit_of_error present outcome]
        rfl
      | ok after =>
        rw [taken?, commit_of_ok present outcome, present] at none
        cases none

/-- A batch is taken by its commit alone, which then succeeds. -/
theorem eq_commit_of_taken? {command : Command} (took : session.taken? command = some contents) :
    Store.commit session.store contents = .ok (session.step command).1.store ∧
      (session.step command).2 = .ok () ∧ ∃ id, command = .commit id := by
  cases command with
  | commit id =>
    obtain ⟨succeeds, present⟩ := Option.ite_none_right_eq_some.1 took
    cases outcome : Store.commit session.store contents with
    | error e =>
      rw [commit_of_error present outcome] at succeeds
      cases succeeds
    | ok after =>
      have ended : session.step (.commit id) =
          ({ session.replace id none with store := after }, .ok ()) := commit_of_ok present outcome
      rw [ended]
      exact ⟨rfl, rfl, id, rfl⟩
  | _ => cases took

theorem open?_begin (session : Session σ) (id : Nat) :
    (session.step .begin).1.open? id =
      if id = session.batches.length then some .empty else session.open? id := by
  change ((session.batches ++ [some .empty])[id]?).join = _
  rcases Nat.lt_trichotomy id session.batches.length with within | last | beyond
  · rw [List.getElem?_append_left within, if_neg (Nat.ne_of_lt within)]
    rfl
  · simp [last]
  · have none : session.open? id = Option.none := by
      rw [open?, List.getElem?_eq_none (Nat.le_of_lt beyond)]
      rfl
    rw [if_neg (Nat.ne_of_gt beyond), none, List.getElem?_eq_none (by simpa using Nat.succ_le_of_lt beyond)]
    rfl

theorem open?_commit (session : Session σ) (id other : Nat) :
    (session.commit id).1.open? other = if other = id then none else session.open? other := by
  cases present : session.open? id with
  | none =>
    rw [commit_of_none present]
    split
    · next same => rw [same, present]
    · rfl
  | some contents =>
    cases outcome : Store.commit session.store contents with
    | error e =>
      rw [commit_of_error present outcome]
      exact open?_replace_none session id other
    | ok after =>
      rw [commit_of_ok present outcome]
      exact open?_replace_none session id other

theorem length_commit (session : Session σ) (id : Nat) :
    (session.commit id).1.batches.length = session.batches.length := by
  unfold commit
  split
  · rfl
  · simp only
    split <;> exact List.length_set

end TokenIndexer.Session
