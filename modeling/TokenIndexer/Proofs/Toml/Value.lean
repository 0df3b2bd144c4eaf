import TokenIndexer.Proofs.Toml.Scalar
import TokenIndexer.Toml.Document

namespace TokenIndexer.Toml

open Toml.Token

/-! ### Keys -/

theorem skipBlank_skips (tokens : List Token) : ∃ used, Skips skipBlank tokens used := by
  apply skips_first fun token => ∃ run, token = .blank run
  · rintro _ rest ⟨run, rfl⟩
    rfl
  · intro tokens other
    unfold skipBlank
    split
    · exact (other _ rfl ⟨_, rfl⟩).elim
    · rfl

theorem skipFiller_skips (tokens : List Token) : ∃ used, Skips skipFiller tokens used :=
  ⟨_, skips_dropWhile isFiller tokens⟩

variable {tokens rest : List Token} {key : String} {read path : List String}

theorem key?_taken (found : key? tokens = some (key, rest)) : ∃ used, Takes key? tokens key rest used := by
  unfold key? at found
  split at found
  · cases found
    exact ⟨[.word _], rfl, fun left cut _ => rfl⟩
  · cases found
    exact ⟨[.string _ false], rfl, fun left cut _ => rfl⟩
  · cases found

theorem path?_period {rest' : List Token} (more : skipBlank tokens = .period :: rest)
    (found : key? (skipBlank rest) = some (key, rest')) : path? read tokens = path? (key :: read) rest' := by
  rw [path?]
  split
  · next rest more' =>
    rw [more] at more'
    cases more'
    split
    · next none_found => simp [found] at none_found
    · next same =>
      rw [found] at same
      cases same
      rfl
  · next other => exact (other _ more).elim

theorem path?_ended (ended : ∀ more, skipBlank tokens ≠ .period :: more) :
    path? read tokens = some (read.reverse, skipBlank tokens) := by
  rw [path?]
  split
  · next more => exact (ended _ more).elim
  · rfl

theorem path?_taken (found : path? read tokens = some (path, rest)) :
    ∃ used, Takes (path? read) tokens path rest used := by
  fun_induction path? read tokens with
  | case1 => cases found
  | case2 read tokens following more key rest' keyed _ ih =>
    obtain ⟨blank, toPeriod⟩ := skipBlank_skips tokens
    have period := toPeriod.marks more
    obtain ⟨blank', toKey⟩ := skipBlank_skips following
    obtain ⟨first, named⟩ := key?_taken keyed
    obtain ⟨used, taken⟩ := ih found
    refine ⟨(blank ++ [.period]) ++ (blank' ++ (first ++ used)), period.cut (toKey.cut (named.cut taken.split)),
      fun left cut cutAt => ?_⟩
    have named_at := named.same _ cut (taken.cut cutAt)
    have key_at := toKey.same _ cut (named.cut (taken.cut cutAt))
    have period_at := period.same _ cut (toKey.cut (named.cut (taken.cut cutAt)))
    simp only [List.append_assoc] at named_at key_at period_at ⊢
    rw [path?_period period_at (by rw [key_at, named_at])]
    exact taken.same left cut cutAt
  | case3 read tokens other =>
    cases found
    obtain ⟨blank, skipped⟩ := skipBlank_skips tokens
    refine ⟨blank, skipped.split, fun left cut cutAt => ?_⟩
    have left_eq := skipped.same left cut cutAt
    rw [path?_ended, left_eq]
    rintro more same
    rw [left_eq] at same
    rw [cutAt, same] at other
    exact other _ rfl

theorem target?_taken (found : target? tokens = some (key, path, rest)) :
    ∃ used, tokens = used ++ rest ∧
      ∀ left cut, rest = left ++ cut → target? (used ++ left) = some (key, path, left) := by
  simp only [target?, Option.bind_eq_bind, Option.bind_eq_some_iff, Prod.exists] at found
  obtain ⟨_, _, named, _, _, further, found⟩ := found
  split at found
  · next following =>
    cases found
    obtain ⟨first, named⟩ := key?_taken named
    obtain ⟨more, further⟩ := path?_taken further
    obtain ⟨blank, skipped⟩ := skipBlank_skips following
    have equals {left cut : List Token} (cutAt : skipBlank following = left ++ cut) :
        .equals :: following = (.equals :: (blank ++ left)) ++ cut := by
      rw [List.cons_append, ← skipped.cut cutAt]
    refine ⟨first ++ (more ++ .equals :: blank), ?_, fun left cut cutAt => ?_⟩
    · have whole := named.cut (further.cut (equals (List.nil_append _).symm))
      rwa [List.append_nil] at whole
    · have named := named.same _ cut (further.cut (equals cutAt))
      have further := further.same _ cut (equals cutAt)
      simp [target?, named, further, skipped.same left cut cutAt]
  · cases found

/-! ### Values -/

namespace Reading

/-- What one step of the reader took, as for a reader that is done at once. -/
structure Moves (step : List Token → Option Reading) (tokens : List Token) (next : Reading) (used : List Token) :
    Prop where
  split : tokens = used ++ next.rest
  same : ∀ left cut, next.rest = left ++ cut → step (used ++ left) = some { next with rest := left }

variable {frames : List Frame} {value : Entry} {next : Reading}

theorem beginValue_moves (found : beginValue frames tokens = some next) :
    ∃ used, Moves (beginValue frames) tokens next used := by
  unfold beginValue at found
  split at found
  · cases found
  · next rest =>
    obtain ⟨filler, skipped⟩ := skipFiller_skips rest
    split at found
    · next following closed =>
      cases found
      have closes := skipped.marks closed
      refine ⟨.openBracket :: (filler ++ [.closeBracket]), ?_, fun left cut cutAt => ?_⟩
      · rw [closes.split, List.cons_append]
      · rw [List.cons_append, beginValue, closes.same left cut cutAt]
    · next notClosed =>
      cases found
      refine ⟨.openBracket :: filler, by rw [List.cons_append, ← skipped.split], fun left cut cutAt => ?_⟩
      simp only [List.cons_append, beginValue, skipped.same left cut cutAt]
      split
      · exact (notClosed _ cutAt).elim
      · rfl
  · next rest =>
    obtain ⟨blank, skipped⟩ := skipBlank_skips rest
    split at found
    · next following closed =>
      cases found
      have closes := skipped.marks closed
      refine ⟨.openBrace :: (blank ++ [.closeBrace]), ?_, fun left cut cutAt => ?_⟩
      · rw [closes.split, List.cons_append]
      · rw [List.cons_append, beginValue, closes.same left cut cutAt]
    · next notClosed =>
      simp only [Option.map_eq_some_iff, Prod.exists] at found
      obtain ⟨key, path, following, target, rfl⟩ := found
      obtain ⟨used, split, same⟩ := target?_taken target
      refine ⟨.openBrace :: (blank ++ used), by rw [skipped.cut split, List.cons_append],
        fun left cut cutAt => ?_⟩
      obtain rfl : following = left ++ cut := cutAt
      rw [← List.append_assoc] at split
      simp only [List.cons_append, List.append_assoc, beginValue, skipped.same _ cut split]
      split
      · next closed =>
        rw [split, closed] at notClosed
        exact (notClosed _ rfl).elim
      · rw [same left cut rfl]
        rfl
  · next token rest notBracket notBrace =>
    simp only [Option.map_eq_some_iff, Prod.exists] at found
    obtain ⟨value, following, scalar, rfl⟩ := found
    obtain ⟨used, taken⟩ := Scalar.read?_taken scalar
    refine ⟨token :: used, by rw [taken.split, List.cons_append], fun left cut cutAt => ?_⟩
    rw [List.cons_append, beginValue, taken.same left cut cutAt]
    · rfl
    · exact notBracket
    · exact notBrace

theorem complete_array_moves {items : List Entry}
    (found : complete value (.array items :: frames) tokens = some next) :
    ∃ used, Moves (complete value (.array items :: frames)) tokens next used := by
  obtain ⟨filler, skipped⟩ := skipFiller_skips tokens
  unfold complete at found
  dsimp only at found
  split at found
  · next following closed =>
    cases found
    have closes := skipped.marks closed
    exact ⟨_, closes.split, fun left cut cutAt => by simp only [complete, closes.same left cut cutAt]⟩
  · next following comma =>
    have separates := skipped.marks comma
    obtain ⟨filler', skipped'⟩ := skipFiller_skips following
    split at found
    · next following' closed =>
      cases found
      have closes := skipped'.marks closed
      refine ⟨_, separates.cut closes.split, fun left cut cutAt => ?_⟩
      rw [List.append_assoc]
      simp only [complete, separates.same _ cut (closes.cut cutAt), closes.same left cut cutAt]
    · next notClosed =>
      cases found
      refine ⟨_, separates.cut skipped'.split, fun left cut cutAt => ?_⟩
      rw [List.append_assoc]
      simp only [complete, separates.same _ cut (skipped'.cut cutAt), skipped'.same left cut cutAt]
      split
      · exact (notClosed _ cutAt).elim
      · rfl
  · cases found

theorem complete_table_moves {entries : List (String × Entry)}
    (found : complete value (.table entries key path :: frames) tokens = some next) :
    ∃ used, Moves (complete value (.table entries key path :: frames)) tokens next used := by
  obtain ⟨blank, skipped⟩ := skipBlank_skips tokens
  simp only [complete, Option.bind_eq_some_iff] at found
  obtain ⟨entries', added, found⟩ := found
  split at found
  · next following closed =>
    cases found
    have closes := skipped.marks closed
    exact ⟨_, closes.split, fun left cut cutAt => by
      simp only [complete, added, Option.bind_some, closes.same left cut cutAt]⟩
  · next following comma =>
    have separates := skipped.marks comma
    obtain ⟨blank', skipped'⟩ := skipBlank_skips following
    simp only [Option.map_eq_some_iff, Prod.exists] at found
    obtain ⟨key', path', following', target, rfl⟩ := found
    obtain ⟨used, split, same⟩ := target?_taken target
    refine ⟨_, separates.cut (skipped'.cut split), fun left cut cutAt => ?_⟩
    obtain rfl : following' = left ++ cut := cutAt
    rw [← List.append_assoc] at split
    rw [List.append_assoc, List.append_assoc blank']
    simp only [complete, added, Option.bind_some, separates.same _ cut (skipped'.cut split),
      skipped'.same _ cut split, same left cut rfl, Option.map_some]
  · cases found

theorem complete_moves (found : complete value frames tokens = some next) :
    ∃ used, Moves (complete value frames) tokens next used := by
  obtain _ | ⟨frame, frames⟩ := frames
  · cases found
  · cases frame with
    | array items => exact complete_array_moves found
    | table entries key path => exact complete_table_moves found

theorem step_moves {reading : Reading} (found : reading.step = some next) :
    ∃ used, Moves (fun tokens => step { reading with rest := tokens }) reading.rest next used := by
  obtain ⟨finished, frames, tokens⟩ := reading
  cases finished with
  | none => exact beginValue_moves found
  | some value => exact complete_moves found

theorem run_step {reading : Reading} (going : ∀ value, reading.finished = some value → reading.frames ≠ [])
    (stepped : reading.step = some next) : reading.run = next.run := by
  rw [run]
  split
  · next value finished none_left => exact (going value finished none_left).elim
  · split
    · next stuck => simp [stepped] at stuck
    · next same =>
      rw [stepped] at same
      cases same
      rfl

theorem run_taken {reading : Reading} (found : reading.run = some (value, rest)) :
    ∃ used, Takes (fun tokens => run { reading with rest := tokens }) reading.rest value rest used := by
  fun_induction run reading with
  | case1 reading value none_left finished =>
    cases found
    refine ⟨[], rfl, fun left cut _ => ?_⟩
    simp [run, finished, none_left]
  | case2 => cases found
  | case3 reading next stepped _ going ih =>
    obtain ⟨first, moved⟩ := step_moves stepped
    obtain ⟨used, taken⟩ := ih found
    refine ⟨first ++ used, ?_, fun left cut cutAt => ?_⟩
    · rw [moved.split, taken.split, List.append_assoc]
    · have stepped := moved.same (used ++ left) cut (taken.cut cutAt)
      rw [List.append_assoc, run_step ?_ stepped]
      · exact taken.same left cut cutAt
      · exact going

end Reading

theorem value?_taken {value : Entry} (found : value? tokens = some (value, rest)) :
    ∃ used, Takes value? tokens value rest used :=
  Reading.run_taken found

/-! ### What a value can be -/

/-- What a value that starts with a token can be: a scalar, or a container that a bracket closed, so that no
further dotted keys can get into it. -/
def ValueShape (token : Token) (entry : Entry) : Prop :=
  Scalar.Shape token entry ∨ (∃ items, entry = .array items) ∨ ∃ members, entry = .table false members

theorem ValueShape.undotted {token : Token} {entry : Entry} (shape : ValueShape token entry) :
    ∀ members, entry ≠ .table true members := by
  rintro members rfl
  obtain (⟨_, same⟩ | ⟨_, same, -⟩) | ⟨_, same⟩ | ⟨_, same⟩ := shape
  all_goals cases same

namespace Reading

variable {frames : List Frame} {value : Entry} {reading next : Reading}

def Keeps (first : Token) (reading : Reading) : Prop :=
  reading.frames ≠ [] ∨ ∃ value, reading.finished = some value ∧ ValueShape first value

theorem keeps_beginValue {first : Token} (found : beginValue frames (first :: tokens) = some next) :
    Keeps first next := by
  unfold beginValue at found
  split at found
  · cases found
  · split at found
    · cases found
      exact .inr ⟨_, rfl, .inr (.inl ⟨_, rfl⟩)⟩
    · cases found
      exact .inl nofun
  · split at found
    · cases found
      exact .inr ⟨_, rfl, .inr (.inr ⟨_, rfl⟩)⟩
    · simp only [Option.map_eq_some_iff, Prod.exists] at found
      obtain ⟨_, _, _, -, rfl⟩ := found
      exact .inl nofun
  · next same =>
    cases same
    simp only [Option.map_eq_some_iff, Prod.exists] at found
    obtain ⟨value, _, scalar, rfl⟩ := found
    exact .inr ⟨value, rfl, .inl (Scalar.shape_read? scalar)⟩

theorem frames_beginValue (open_ : frames ≠ []) (found : beginValue frames tokens = some next) :
    next.frames ≠ [] := by
  unfold beginValue at found
  repeat' split at found
  all_goals
    first
    | contradiction
    | (cases found; first | exact open_ | exact List.cons_ne_nil _ _)
    | (simp only [Option.map_eq_some_iff, Prod.exists] at found
       obtain ⟨_, _, _, -, rfl⟩ := found
       exact List.cons_ne_nil _ _)
    | (simp only [Option.map_eq_some_iff, Prod.exists] at found
       obtain ⟨_, _, -, rfl⟩ := found
       exact open_)

theorem keeps_complete {first : Token} (found : complete value frames tokens = some next) : Keeps first next := by
  unfold complete at found
  split at found
  · cases found
  · repeat' split at found
    all_goals cases found
    · exact .inr ⟨_, rfl, .inr (.inl ⟨_, rfl⟩)⟩
    · exact .inr ⟨_, rfl, .inr (.inl ⟨_, rfl⟩)⟩
    · exact .inl nofun
  · simp only [Option.bind_eq_some_iff] at found
    obtain ⟨_, -, found⟩ := found
    split at found
    · cases found
      exact .inr ⟨_, rfl, .inr (.inr ⟨_, rfl⟩)⟩
    · simp only [Option.map_eq_some_iff, Prod.exists] at found
      obtain ⟨_, _, _, -, rfl⟩ := found
      exact .inl nofun
    · cases found

theorem keeps_step {first : Token} (keeps : Keeps first reading) (found : reading.step = some next) :
    Keeps first next := by
  unfold step at found
  split at found
  · next none_finished =>
    obtain open_ | ⟨value, finished, -⟩ := keeps
    · exact .inl (frames_beginValue open_ found)
    · simp [none_finished] at finished
  · exact keeps_complete found

theorem shape_run {first : Token} (keeps : Keeps first reading) (found : reading.run = some (value, rest)) :
    ValueShape first value := by
  fun_induction run reading with
  | case1 reading value' none_left finished =>
    cases found
    obtain open_ | ⟨value, same, shape⟩ := keeps
    · exact (open_ none_left).elim
    · rw [finished] at same
      cases same
      exact shape
  | case2 => cases found
  | case3 reading next stepped _ _ ih => exact ih (keeps_step keeps stepped) found

end Reading

theorem shape_value? {value : Entry} (found : value? tokens = some (value, rest)) :
    ∃ first more, tokens = first :: more ∧ ValueShape first value := by
  rw [value?, Reading.run] at found
  split at found
  · next finished _ => cases finished
  · split at found
    · cases found
    · next next stepped =>
      obtain _ | ⟨first, more⟩ := tokens
      · cases stepped
      · exact ⟨first, more, rfl, Reading.shape_run (Reading.keeps_beginValue stepped) found⟩

end TokenIndexer.Toml
