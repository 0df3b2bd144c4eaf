import TokenIndexer.Bytes
import TokenIndexer.Ingest.Fetch
import TokenIndexer.Node
import TokenIndexer.Ordered

/-!
A node that answers from a script. Calls are counted, because the same call may fail once and succeed later.
-/

namespace TokenIndexer.Rehearsal

structure ScriptedBlock where
  block : Block
  results : BlockResults
  /-- What the calls for the block come to, one after the other: none is a success. -/
  blockFaults : List (Option FetchFailure)
  /-- What all further ones come to. -/
  blockLater : Option FetchFailure
  resultFaults : List (Option FetchFailure)
  resultLater : Option FetchFailure
  /-- How long the block takes. -/
  delay : Nat

structure Script where
  /-- The heights that are reported, the last one for ever after. -/
  remote : List (Except NodeError Height)
  /-- By the height that is asked for; other heights have empty blocks. -/
  blocks : List (Height × ScriptedBlock)
  functions : List (String × Except NodeError QueryResponse)

structure Calls where
  latest : Nat
  block : Ordered Height Nat
  results : Ordered Height Nat

def Calls.none : Calls := ⟨0, [], []⟩

namespace ScriptedBlock

def plain (h : Height) (txs : List Tx) : ScriptedBlock where
  block := ⟨h, Word.bigEndian 8 h.toNat, "dev", "2024-01-01T00:00:00Z", "g1proposer", txs⟩
  results := ⟨h, txs.map fun _ => .empty⟩
  blockFaults := []
  blockLater := none
  resultFaults := []
  resultLater := none
  delay := 0

end ScriptedBlock

namespace Script

def blockAt (script : Script) (h : Height) : ScriptedBlock :=
  (script.blocks.lookup h).getD (.plain h [])

def outcome {α : Type} (faults : List (Option FetchFailure)) (later : Option FetchFailure)
    (count : Nat) (value : α) : Except FetchFailure α :=
  match (faults[count]?).getD later with
  | some failure => .error failure
  | none => .ok value

def countOf (h : Height) (counts : Ordered Height Nat) : Nat := (Ordered.find? h counts).getD 0

def counted (h : Height) (counts : Ordered Height Nat) : Ordered Height Nat :=
  Ordered.insert h (countOf h counts + 1) counts

def source (script : Script) : BlockSource (StateM Calls) where
  block h := do
    let calls ← get
    set { calls with block := counted h calls.block }
    let b := script.blockAt h
    return ⟨b.delay, outcome b.blockFaults b.blockLater (countOf h calls.block) b.block⟩
  results h := do
    let calls ← get
    set { calls with results := counted h calls.results }
    let b := script.blockAt h
    return .atOnce (outcome b.resultFaults b.resultLater (countOf h calls.results) b.results)

def latest (script : Script) : StateM Calls (Except NodeError Height) := do
  let calls ← get
  set { calls with latest := calls.latest + 1 }
  return (script.remote[calls.latest]?).getD (script.remote.getLast?.getD (.error (.rpc "")))

def unknownPackage : QueryResponse := { QueryResponse.empty with error := some "/vm.InvalidPkgPathError" }

def query (script : Script) (packagePath : String) : Except NodeError QueryResponse :=
  (script.functions.lookup packagePath).getD (.ok unknownPackage)

end Script

end TokenIndexer.Rehearsal
