import TokenIndexer.Toml.Value

/-!
How the lines of a document come together: what stands at a path is read off the sections for it, in the order
in which they were written.
-/

namespace TokenIndexer.Toml

structure Assignment where
  key : String
  path : List String
  value : Entry

structure Header where
  array : Bool
  key : String
  path : List String

inductive Line where
  | header (header : Header)
  | assignment (assignment : Assignment)

/-- The lines under a header, or in front of the first one. The path is that from the table at hand,
whose own section has none; a section of an array opens one more table of the array. -/
structure Section where
  array : Bool
  path : List String
  entries : List (String × Entry)

namespace Section

def root : Section := ⟨false, [], []⟩

def ofHeader (header : Header) : Section := ⟨header.array, header.key :: header.path, []⟩

def isOwn (s : Section) : Bool := s.path.isEmpty

def opensElement (s : Section) : Bool := s.array && s.isOwn

def under? (key : String) (s : Section) : Option Section :=
  match s.path with
  | first :: path => if first = key then some { s with path } else none
  | [] => none

def ofLines? (opened : Section) : List Line → Option (List Section)
  | [] => some [opened]
  | .assignment a :: lines => do
    let entries ← Entry.add a.value a.key a.path opened.entries
    ofLines? { opened with entries } lines
  | .header header :: lines => (ofLines? (ofHeader header) lines).map fun later => opened :: later

end Section

namespace Sections

def keys (sections : List Section) : List String :=
  (sections.filterMap fun s => s.path.head?).eraseDups

def under (key : String) (sections : List Section) : List Section :=
  sections.filterMap (Section.under? key)

def leading : List Section → List (String × Entry)
  | s :: _ => if s.isOwn then s.entries else []
  | [] => []

/-- The tables of an array, given how one is read. `own` opens the one at hand and `others` are the
further sections for it, of which those that the table before it left over come first. -/
def elements? (table? : List Section → Option (Toml × List Section)) (own : Section)
    (others : List Section) : List Section → Option (List Toml × List Section)
  | [] => do
    let (item, left) ← table? (own :: others)
    some ([item], left)
  | s :: rest =>
    if s.opensElement then do
      let (item, left) ← table? (own :: others)
      let (items, left) ← elements? table? { s with array := false } left rest
      some (item :: items, left)
    else elements? table? own (others ++ [s]) rest

/-- What stands under a key: an array when the first section says so, a table otherwise. -/
def child? (table? : List Section → Option (Toml × List Section)) :
    List Section → Option (Toml × List Section)
  | [] => none
  | s :: rest =>
    if s.opensElement then
      (elements? table? { s with array := false } [] rest).map fun (items, left) =>
        (.array items, left)
    else table? (s :: rest)

def members? (table? : List Section → Option (Toml × List Section)) (sections : List Section) :
    List String → Option (List (String × Toml))
  | [] => some []
  | key :: keys => do
    match ← child? table? (under key sections) with
    | (value, []) => some ((key, value) :: (← members? table? sections keys))
    | _ => none

/-- A table, and the sections that were not looked at. A table has at most one section of its own;
tables are nested at most `depth` deep. -/
def table? : Nat → List Section → Option (Toml × List Section)
  | 0, _ => none
  | depth + 1, sections =>
    let own := sections.filter Section.isOwn
    let lead := leading sections
    if Entry.leadsDate lead then (Entry.leadingDate? lead).map fun date => (date, sections.tail)
    else if 1 < own.length || own.any Section.array then none
    else if lead.isEmpty && (keys sections).head? = some dateKey then none
    else do
      let entries ← Entry.members? (own.flatMap Section.entries)
      let inner ← members? (table? depth) sections (keys sections)
      (tableOf? (entries ++ inner)).map fun table => (.table table, [])

def depth (sections : List Section) : Nat :=
  sections.foldl (fun deepest s => max deepest s.path.length) 0 + 1

def value? (sections : List Section) : Option Toml :=
  (table? (depth sections) sections).map (·.1)

/-- The values that sections give to one key, one after the other: what one leaves over is read as
the next. Each value takes at least one section, so that no more than `count` come up. -/
def values? (table? : List Section → Option (Toml × List Section)) :
    Nat → List Section → Option (List Toml)
  | 0, _ => some []
  | _, [] => some []
  | count + 1, sections => do
    let (value, left) ← child? table? sections
    some (value :: (← values? table? count left))

/-- The members of the whole document, where a key may be given more than once. -/
def allMembers? (sections : List Section) : Option (List (String × Toml)) := do
  let own ← Entry.members? (leading sections)
  let inner ← (keys sections).mapM fun key => do
    let values ← values? (table? (depth sections)) sections.length (under key sections)
    some (values.map fun value => (key, value))
  some (own ++ inner.flatten)

end Sections

end TokenIndexer.Toml
