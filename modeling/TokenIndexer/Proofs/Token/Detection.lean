import Mathlib.Data.List.Basic
import TokenIndexer.Proofs.Json.Document
import TokenIndexer.Proofs.Json.Shape
import TokenIndexer.Token.Detection

/-! Which candidates are found, and where. A message that is passed over takes none of the others with it. -/

namespace TokenIndexer.Functions

/-! ### Lists of functions -/

/-- A signature that names its function: among the members of an object, which may have any others, or as the
only item of an array. -/
inductive Signature : Json → String → Prop where
  | object {members : List (Literal × Json)} {name : String} (keys : ∀ member ∈ members, member.1.isSome = true)
    (named : Json.membersAt "FuncName" members = [.text name]) : Signature (.object members) name
  | array (name : String) : Signature (.array [.text name]) name

theorem name?_object {members : List (Literal × Json)} {name : String} :
    name? (.object members) = some name ↔
      (∀ member ∈ members, member.1.isSome = true) ∧ Json.membersAt "FuncName" members = [.text name] := by
  rw [name?, Json.slots?, Json.slotsOfMembers?]
  split
  · next keys =>
    have each : ∀ member ∈ members, member.1.isSome = true := List.all_eq_true.1 keys
    simp only [List.mapM_cons, List.mapM_nil, Json.slotOf?, Option.bind_eq_bind]
    cases Json.membersAt "FuncName" members with
    | nil => simp [Slot.required?]
    | cons value others =>
      cases others with
      | nil =>
        simpa [Slot.required?, Json.text?_eq_some_iff] using fun _ key value inside => each (key, value) inside
      | cons _ _ => simp
  · next keys =>
    have missing : ¬ ∀ member ∈ members, member.1.isSome = true := fun each => keys (List.all_eq_true.2 each)
    simp only [Option.bind_eq_bind, Option.bind_none, reduceCtorEq, false_iff, not_and]
    exact fun each => absurd each missing

theorem name?_eq_some_iff {signature : Json} {name : String} :
    name? signature = some name ↔ Signature signature name := by
  constructor
  · intro read
    cases signature with
    | object members =>
      obtain ⟨keys, named⟩ := name?_object.1 read
      exact .object keys named
    | array items =>
      match items, read with
      | [item], read =>
        obtain rfl := Json.text?_eq_some_iff.1 read
        exact .array name
    | _ => cases read
  · intro names
    cases names with
    | object keys named => exact name?_object.2 ⟨keys, named⟩
    | array => rfl

/-- An answer is a list of signatures, and it is understood when each of them names its function. -/
theorem names?_eq_some_iff {data : Bytes} {names : List String} :
    names? data = some names ↔
      ∃ signatures, Json.parse? data = some (.array signatures) ∧ List.Forall₂ Signature signatures names := by
  have each (signatures : List Json) :
      signatures.mapM name? = some names ↔ List.Forall₂ Signature signatures names := by
    rw [mapM_eq_some_iff]
    simp only [name?_eq_some_iff]
  simp only [names?, Option.bind_eq_some_iff, Json.list?]
  constructor
  · rintro ⟨value, parsed, items, listed, read⟩
    cases value with
    | array signatures =>
      cases listed
      exact ⟨items, parsed, (each _).1 read⟩
    | _ => cases listed
  · rintro ⟨signatures, parsed, named⟩
    exact ⟨_, parsed, signatures, rfl, (each _).2 named⟩

def listing (names : List String) : Json := .array (names.map fun name => .obj [("FuncName", .text name)])

theorem names?_listing (names : List String) : names? (listing names).render = some names := by
  have writable : (listing names).Writable := by
    apply Json.writable_array
    intro signature member
    obtain ⟨name, -, rfl⟩ := List.mem_map.1 member
    exact Json.writable_obj (List.forall_mem_singleton.2 (Json.writable_text name))
  refine names?_eq_some_iff.2 ⟨_, Json.parse?_render writable, List.forall₂_map_left_iff.2 ?_⟩
  apply List.forall₂_same.2
  intro name _
  exact .object (by simp) rfl

end TokenIndexer.Functions

namespace TokenIndexer.Token

namespace Deployment

def understood (decoder : Tx.Decoder) (result : TxResult) : List Message :=
  if result.succeeded then (decoder.messages? result.tx).toOption.getD [] else []

theorem ofResult_eq (decoder : Tx.Decoder) (result : TxResult) :
    ofResult decoder result = (understood decoder result).filterMap ofMessage? := by
  unfold ofResult understood
  split
  · cases decoder.messages? result.tx <;> rfl
  · rfl

theorem understood_of_passedOver {decoder : Tx.Decoder} {result : TxResult}
    (skipped : result.succeeded = false ∨ ∃ e, decoder.messages? result.tx = .error e) :
    understood decoder result = [] := by
  rcases skipped with failed | ⟨e, unread⟩
  · rw [understood, failed]
    rfl
  · rw [understood, unread, Except.toOption, Option.getD_none, ite_self]

theorem getElem?_understood {decoder : Tx.Decoder} {result : TxResult} {j : Nat} {message : Message} :
    (understood decoder result)[j]? = some message ↔
      result.succeeded = true ∧ ∃ messages, decoder.messages? result.tx = .ok messages ∧
        messages[j]? = some message := by
  unfold understood
  split
  · next succeeded =>
    cases decoder.messages? result.tx with
    | error e => simp [Except.toOption]
    | ok messages => simp [Except.toOption, succeeded]
  · next failed => simp [failed]

end Deployment

namespace Detector

open Deployment

variable {detector other : Detector} {h : Height} {block : Block}

/-! ### One message -/

def passes (detector : Detector) (d : Deployment) : Bool :=
  !detector.requireBanker || (Banker.find? d.package.files).isSome

def candidateOf? (detector : Detector) (h : Height) (message : Message) : Option TokenCandidate :=
  (ofMessage? message).bind fun d => if detector.passes d then detector.candidate? h d else none

theorem detect_eq (detector : Detector) (block : Block) (results : List TxResult) :
    detector.detect block results =
      (results.flatMap (understood detector.decoder)).filterMap (detector.candidateOf? block.height) := by
  have deployments : results.flatMap (ofResult detector.decoder) =
      (results.flatMap (understood detector.decoder)).filterMap ofMessage? := by
    rw [funext (ofResult_eq detector.decoder), List.filterMap_flatMap]
  rw [detect, inspected, deployments, List.filterMap_filter, List.filterMap_filterMap]
  rfl

theorem exportsInterface_iff {exported : List String} :
    exportsInterface exported = true ↔ ∀ name ∈ interface, name ∈ exported := by
  simp [exportsInterface]

theorem ofResponse_eq_ok_iff {path : String} {response : QueryResponse} {functions : List String} :
    Functions.ofResponse path response = .ok functions ↔
      response.error = none ∧ Functions.names? response.data = some functions := by
  unfold Functions.ofResponse
  cases response.error with
  | some error => simp
  | none => cases Functions.names? response.data <;> simp

theorem functionsOf_eq_ok_iff {path : String} {functions : List String} :
    detector.functionsOf path = .ok functions ↔
      ∃ response, detector.query path = .ok response ∧ response.error = none ∧
        Functions.names? response.data = some functions := by
  unfold functionsOf
  cases detector.query path with
  | error e => simp [Except.bind]
  | ok response => simp [Except.bind, ofResponse_eq_ok_iff]

theorem candidate?_eq_some_iff {d : Deployment} {c : TokenCandidate} :
    detector.candidate? h d = some c ↔
      detector.functionsOf d.package.path = .ok c.functions ∧ (∀ name ∈ interface, name ∈ c.functions) ∧
        c.packagePath = d.package.path ∧ c.height = h ∧ c.creator = d.creator := by
  obtain ⟨path, height, creator, functions⟩ := c
  unfold candidate?
  cases asked : detector.functionsOf d.package.path with
  | error e => simp
  | ok exported =>
    by_cases whole : exportsInterface exported = true
    · have all := exportsInterface_iff.1 whole
      simp only [if_pos whole, Option.some.injEq, TokenCandidate.mk.injEq, Except.ok.injEq]
      constructor
      · rintro ⟨rfl, rfl, rfl, rfl⟩
        exact ⟨rfl, all, rfl, rfl, rfl⟩
      · rintro ⟨rfl, -, rfl, rfl, rfl⟩
        exact ⟨rfl, rfl, rfl, rfl⟩
    · simp only [if_neg whole, reduceCtorEq, Except.ok.injEq, false_iff]
      rintro ⟨rfl, all, -⟩
      exact whole (exportsInterface_iff.2 all)

theorem passes_iff {d : Deployment} :
    detector.passes d = true ↔
      (detector.requireBanker = true → (Banker.find? d.package.files).isSome = true) := by
  unfold passes
  cases detector.requireBanker <;> simp

theorem candidateOf?_eq_some_iff {message : Message} {c : TokenCandidate} :
    detector.candidateOf? h message = some c ↔
      ∃ package deposit, message = .addPackage c.creator package deposit ∧ package.path = c.packagePath ∧
        (detector.requireBanker = true → (Banker.find? package.files).isSome = true) ∧
        detector.functionsOf c.packagePath = .ok c.functions ∧
        (∀ name ∈ interface, name ∈ c.functions) ∧ c.height = h := by
  cases message with
  | addPackage creator package deposit =>
    change (if detector.passes ⟨creator, package⟩ then detector.candidate? h ⟨creator, package⟩ else none) =
      some c ↔ _
    rw [Option.ite_none_right_eq_some, passes_iff, candidate?_eq_some_iff]
    constructor
    · rintro ⟨banker, asked, whole, path, height, rfl⟩
      exact ⟨package, deposit, rfl, path.symm, banker, path ▸ asked, whole, height⟩
    · rintro ⟨_, _, ⟨⟩, path, banker, asked, whole, height⟩
      exact ⟨banker, path ▸ asked, whole, path.symm, height, rfl⟩
  | _ => simp [candidateOf?, ofMessage?]

/-! ### Positions -/

/-- A message at a position, that of a result and that of a message in its transaction, deploys a package.
The result is one that succeeded, and its transaction is understood. -/
structure Deploys (detector : Detector) (results : List TxResult) (position : Nat × Nat)
    (creator : String) (package : MemPackage) : Prop where
  message : ∃ result messages deposit, results[position.1]? = some result ∧ result.succeeded = true ∧
    detector.decoder.messages? result.tx = .ok messages ∧
    messages[position.2]? = some (.addPackage creator package deposit)

/-- The message at a position deploys a token contract, and the candidate says which and where. -/
structure Detects (detector : Detector) (h : Height) (results : List TxResult) (position : Nat × Nat)
    (c : TokenCandidate) : Prop where
  deployed : ∃ package, detector.Deploys results position c.creator package ∧
    package.path = c.packagePath ∧
    (detector.requireBanker = true → (Banker.find? package.files).isSome = true)
  exported : ∃ response, detector.query c.packagePath = .ok response ∧ response.error = none ∧
    Functions.names? response.data = some c.functions
  whole : ∀ name ∈ interface, name ∈ c.functions
  height_eq : c.height = h

theorem detects_iff {results : List TxResult} {i j : Nat} {c : TokenCandidate} :
    detector.Detects h results (i, j) c ↔
      ∃ result message, results[i]? = some result ∧
        (understood detector.decoder result)[j]? = some message ∧
        detector.candidateOf? h message = some c := by
  constructor
  · rintro ⟨⟨package, ⟨result, messages, deposit, at_, succeeded, read, message⟩, path, banker⟩,
      exported, whole, height⟩
    refine ⟨result, _, at_, getElem?_understood.2 ⟨succeeded, messages, read, message⟩, ?_⟩
    have asked := functionsOf_eq_ok_iff.2 exported
    exact candidateOf?_eq_some_iff.2 ⟨package, deposit, rfl, path, banker, asked, whole, height⟩
  · rintro ⟨result, message, at_, inside, found⟩
    obtain ⟨succeeded, messages, read, inside⟩ := getElem?_understood.1 inside
    obtain ⟨package, deposit, rfl, path, banker, asked, whole, height⟩ := candidateOf?_eq_some_iff.1 found
    exact ⟨⟨package, ⟨result, messages, deposit, at_, succeeded, read, inside⟩, path, banker⟩,
      functionsOf_eq_ok_iff.1 asked, whole, height⟩

def located (detector : Detector) (h : Height) (results : List TxResult) :
    List ((Nat × Nat) × TokenCandidate) :=
  results.zipIdx.flatMap fun (result, i) =>
    (understood detector.decoder result).zipIdx.filterMap fun (message, j) =>
      (detector.candidateOf? h message).map fun c => ((i, j), c)

theorem mem_located {results : List TxResult} {position : Nat × Nat} {c : TokenCandidate} :
    (position, c) ∈ detector.located h results ↔ detector.Detects h results position c := by
  obtain ⟨i, j⟩ := position
  rw [detects_iff]
  simp only [located, List.mem_flatMap, List.mem_filterMap, Prod.exists, List.mk_mem_zipIdx_iff_getElem?,
    Option.map_eq_some_iff, Prod.mk.injEq]
  constructor
  · rintro ⟨result, i, at_, message, j, inside, c, found, ⟨rfl, rfl⟩, rfl⟩
    exact ⟨result, message, at_, inside, found⟩
  · rintro ⟨result, message, at_, inside, found⟩
    exact ⟨result, i, at_, message, j, inside, c, found, ⟨rfl, rfl⟩, rfl⟩

theorem pairwise_zipIdx {α : Type} (xs : List α) : xs.zipIdx.Pairwise fun a b => a.2 < b.2 := by
  have positions : (xs.zipIdx.map Prod.snd).Pairwise (· < ·) := by
    rw [List.zipIdx_map_snd]
    exact List.pairwise_lt_range'
  exact List.pairwise_map.1 positions

theorem pairwise_located (detector : Detector) (h : Height) (results : List TxResult) :
    (detector.located h results).Pairwise fun a b => Prod.Lex (· < ·) (· < ·) a.1 b.1 := by
  refine List.pairwise_flatMap.2 ⟨?_, ?_⟩
  · rintro ⟨result, i⟩ -
    refine (pairwise_zipIdx _).filterMap _ ?_
    rintro ⟨message, j⟩ ⟨message', j'⟩ before a found b found'
    obtain ⟨c, -, rfl⟩ := Option.map_eq_some_iff.1 found
    obtain ⟨c', -, rfl⟩ := Option.map_eq_some_iff.1 found'
    exact .right _ before
  · refine (pairwise_zipIdx results).imp ?_
    rintro ⟨result, i⟩ ⟨result', i'⟩ before a member b member'
    obtain ⟨⟨message, j⟩, -, found⟩ := List.mem_filterMap.1 member
    obtain ⟨⟨message', j'⟩, -, found'⟩ := List.mem_filterMap.1 member'
    obtain ⟨c, -, rfl⟩ := Option.map_eq_some_iff.1 found
    obtain ⟨c', -, rfl⟩ := Option.map_eq_some_iff.1 found'
    exact .left _ _ before

theorem map_located (detector : Detector) (block : Block) (results : List TxResult) :
    (detector.located block.height results).map Prod.snd = detector.detect block results := by
  have messages (result : TxResult) (i : Nat) :
      ((understood detector.decoder result).zipIdx.filterMap fun (message, j) =>
        (detector.candidateOf? block.height message).map fun c => ((i, j), c)).map Prod.snd =
      (understood detector.decoder result).filterMap (detector.candidateOf? block.height) := by
    conv_rhs => rw [← List.zipIdx_map_fst 0 (understood detector.decoder result), List.filterMap_map]
    simp [List.map_filterMap, Function.comp_def]
  rw [detect_eq, located, List.map_flatMap, List.filterMap_flatMap]
  conv_rhs => rw [← List.zipIdx_map_fst 0 results]
  rw [List.flatMap_map]
  congr
  funext ⟨result, i⟩
  exact messages result i

/-! ### Results that follow one another -/

theorem detect_append (detector : Detector) (block : Block) (first second : List TxResult) :
    detector.detect block (first ++ second) =
      detector.detect block first ++ detector.detect block second := by
  simp only [detect_eq, List.flatMap_append, List.filterMap_append]

theorem detect_passedOver {before after : List TxResult} {result : TxResult}
    (skipped : result.succeeded = false ∨ ∃ e, detector.decoder.messages? result.tx = .error e) :
    detector.detect block (before ++ result :: after) = detector.detect block (before ++ after) := by
  simp only [detect_eq, List.flatMap_append, List.flatMap_cons, understood_of_passedOver skipped,
    List.nil_append]

/-! ### Detectors that differ -/

/-- A detector that understands no answer about one package, and answers as another one does elsewhere. -/
structure Misses (detector other : Detector) (path : String) : Prop where
  decoder_eq : detector.decoder = other.decoder
  gate_eq : detector.requireBanker = other.requireBanker
  elsewhere : ∀ p, p ≠ path → detector.query p = other.query p
  unanswered : ∃ e, detector.functionsOf path = .error e

/-- A detector to which every package exports what it exports to another one, and perhaps more. -/
structure Extends (detector other : Detector) : Prop where
  decoder_eq : detector.decoder = other.decoder
  gate_eq : detector.requireBanker = other.requireBanker
  exported : ∀ path functions, other.functionsOf path = .ok functions →
    ∃ more, detector.functionsOf path = .ok more ∧ functions ⊆ more

theorem Misses.functionsOf_eq_ok_iff {path p : String} (misses : detector.Misses other path)
    {functions : List String} :
    detector.functionsOf p = .ok functions ↔ p ≠ path ∧ other.functionsOf p = .ok functions := by
  by_cases same : p = path
  · obtain ⟨e, unanswered⟩ := misses.unanswered
    simp [same, unanswered]
  · rw [functionsOf, functionsOf, misses.elsewhere p same]
    simp [same]

theorem detect_of_misses {path : String} (misses : detector.Misses other path) (block : Block)
    (results : List TxResult) :
    detector.detect block results =
      (other.detect block results).filter fun c => c.packagePath ≠ path := by
  rw [detect_eq, detect_eq, misses.decoder_eq, List.filter_filterMap]
  congr
  funext message
  apply Option.ext
  intro c
  rw [Option.filter_eq_some_iff, candidateOf?_eq_some_iff, candidateOf?_eq_some_iff, misses.gate_eq,
    misses.functionsOf_eq_ok_iff, decide_eq_true_iff]
  constructor
  · rintro ⟨package, deposit, message, path, banker, ⟨apart, asked⟩, found⟩
    exact ⟨⟨package, deposit, message, path, banker, asked, found⟩, apart⟩
  · rintro ⟨⟨package, deposit, message, path, banker, asked, found⟩, apart⟩
    exact ⟨package, deposit, message, path, banker, ⟨apart, asked⟩, found⟩

/-- A candidate without the functions that were found: which package, at which height, and by whom. -/
def place (c : TokenCandidate) : String × Height × String := (c.packagePath, c.height, c.creator)

theorem filterMap_sublist_filterMap {α β : Type} {f g : α → Option β}
    (more : ∀ a b, f a = some b → g a = some b) (xs : List α) :
    (xs.filterMap f).Sublist (xs.filterMap g) := by
  induction xs with
  | nil => exact .slnil
  | cons x xs ih =>
    cases found : f x with
    | none =>
      rw [List.filterMap_cons_none found]
      exact ih.trans ((List.sublist_cons_self x xs).filterMap g)
    | some y =>
      rw [List.filterMap_cons_some found, List.filterMap_cons_some (more x y found)]
      exact ih.cons_cons y

theorem map_detect_of_extends (richer : detector.Extends other) (block : Block) (results : List TxResult) :
    ((other.detect block results).map place).Sublist ((detector.detect block results).map place) := by
  rw [detect_eq, detect_eq, richer.decoder_eq, List.map_filterMap, List.map_filterMap]
  apply filterMap_sublist_filterMap
  intro message _ placed
  obtain ⟨c, found, rfl⟩ := Option.map_eq_some_iff.1 placed
  obtain ⟨package, deposit, deployed, path, banker, asked, whole, height⟩ := candidateOf?_eq_some_iff.1 found
  obtain ⟨more, answered, inside⟩ := richer.exported _ _ asked
  refine Option.map_eq_some_iff.2 ⟨{ c with functions := more }, candidateOf?_eq_some_iff.2 ?_, rfl⟩
  refine ⟨package, deposit, deployed, path, ?_, answered, fun name required => inside (whole name required),
    height⟩
  rw [richer.gate_eq]
  exact banker

theorem detect_gated (detector : Detector) (block : Block) (results : List TxResult) :
    ({ detector with requireBanker := true }.detect block results).Sublist
      ({ detector with requireBanker := false }.detect block results) := by
  rw [detect_eq, detect_eq]
  apply filterMap_sublist_filterMap
  intro message c found
  obtain ⟨package, deposit, deployed, path, -, rest⟩ := candidateOf?_eq_some_iff.1 found
  exact candidateOf?_eq_some_iff.2 ⟨package, deposit, deployed, path, nofun, rest⟩

/-! ### Exactness -/

/-- What a detector finds among the results of a block: what there is at their messages, message by message,
so that nothing which is passed over takes other candidates with it. -/
structure Exact (detector : Detector) (block : Block) : Prop where
  /-- Each message that deploys a token contract has one candidate, in the order of the messages, and there
  are no others. -/
  located : ∀ results, ∃ found : List ((Nat × Nat) × TokenCandidate),
    detector.detect block results = found.map Prod.snd ∧
    (found.Pairwise fun a b => Prod.Lex (· < ·) (· < ·) a.1 b.1) ∧
    ∀ position c, (position, c) ∈ found ↔ detector.Detects block.height results position c
  append : ∀ first second, detector.detect block (first ++ second) =
    detector.detect block first ++ detector.detect block second
  passedOver : ∀ before result after,
    result.succeeded = false ∨ (∃ e, detector.decoder.messages? result.tx = .error e) →
      detector.detect block (before ++ result :: after) = detector.detect block (before ++ after)
  unanswered : ∀ other path results, detector.Misses other path →
    detector.detect block results = (other.detect block results).filter fun c => c.packagePath ≠ path
  extended : ∀ other results, detector.Extends other →
    ((other.detect block results).map place).Sublist ((detector.detect block results).map place)
  gated : ∀ results, ({ detector with requireBanker := true }.detect block results).Sublist
    ({ detector with requireBanker := false }.detect block results)

/-- Every detector is exact, whatever the decoder and the answers to its queries. -/
theorem exact_detect (detector : Detector) (block : Block) : detector.Exact block where
  located results := ⟨detector.located block.height results, (map_located detector block results).symm,
    pairwise_located detector block.height results, fun _ _ => mem_located⟩
  append := detect_append detector block
  passedOver _ _ _ skipped := detect_passedOver skipped
  unanswered _ _ results misses := detect_of_misses misses block results
  extended _ results richer := map_detect_of_extends richer block results
  gated := detect_gated detector block

/-- Of two packages that a transaction deploys one exports the interface, and a function besides. -/
example :
    let query (path : String) : Except NodeError QueryResponse :=
      let exported := if path = "gno.land/r/coin" then "Mint" :: interface else ["Render"]
      .ok { QueryResponse.empty with data := (Functions.listing exported).render }
    let deployed (path : String) : Message := .addPackage "g1" { MemPackage.empty with path := path } ""
    let decoder : Tx.Decoder := .custom fun _ => .ok [deployed "gno.land/r/blog", deployed "gno.land/r/coin"]
    Detector.detect ⟨decoder, false, query⟩ ⟨7, [], "dev", "", "", []⟩ [⟨7, 0, ⟨[]⟩, .empty⟩] =
      [⟨"gno.land/r/coin", 7, "g1", "Mint" :: interface⟩] := by
  decide +kernel

end Detector

end TokenIndexer.Token
