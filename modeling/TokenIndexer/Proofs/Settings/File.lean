import TokenIndexer.Proofs.Settings.Grammar
import TokenIndexer.Proofs.Settings.Setting
import TokenIndexer.Proofs.Toml.Parts

/-! What a settings file says, and settings files with one line for each of the settings that they name. -/

namespace TokenIndexer

theorem lookup_map_snd {κ α β : Type} [BEq κ] (f : α → β) (key : κ) (entries : List (κ × α)) :
    (entries.map fun entry => (entry.1, f entry.2)).lookup key = (entries.lookup key).map f := by
  induction entries with
  | nil => rfl
  | cons entry entries ih =>
    rw [List.map_cons, List.lookup_cons, List.lookup_cons, ih]
    cases key == entry.1 <;> rfl

namespace SettingsFile

open Toml

/-! ### Files of lines -/

/-- A value as a line spells it. -/
structure Spelled where
  text : List Char
  value : Toml
  written : Override.Written text value

def Spelled.string (text : String) : Spelled := ⟨_, _, Override.written_quote text⟩

def Spelled.int (n : Int64) : Spelled := ⟨_, _, .int n⟩

/-- Parts under their names, and lines under the names of settings, none of them given twice. -/
structure Listing where
  parts : List (String × List (String × Spelled))
  plain : Plain parts
  lines : ∀ part ∈ parts, Plain part.2

namespace Listing

def lineText (line : String × Spelled) : List Char :=
  line.1.toList ++ ' ' :: '=' :: ' ' :: (line.2.text ++ ['\n'])

def partText (part : String × List (String × Spelled)) : List Char :=
  '[' :: (part.1.toList ++ [']', '\n']) ++ part.2.flatMap lineText

def text (listing : Listing) : String := String.ofList (listing.parts.flatMap partText)

/-- The value of the line for a setting. -/
def said? (listing : Listing) (setting : Setting) : Option Toml :=
  (listing.parts.lookup setting.place.part).bind fun lines =>
    (lines.lookup setting.place.name).map Spelled.value

def values (lines : List (String × Spelled)) : List (String × Toml) :=
  lines.map fun line => (line.1, line.2.value)

def tables (listing : Listing) : List (String × List (String × Toml)) :=
  listing.parts.map fun part => (part.1, values part.2)

theorem plain_tables (listing : Listing) : Plain listing.tables := listing.plain.map values

theorem plain_lines (listing : Listing) : ∀ part ∈ listing.tables, Plain part.2 :=
  List.forall_mem_map.2 fun part inside => (listing.lines part inside).map Spelled.value

theorem spells_line {line : String × Spelled} (word : IsWord line.1) :
    Spells (lineText line) [.assignment ⟨line.1, [], .scalar line.2.value⟩] := by
  have trimmed := Override.trimmed_written line.2.written
  obtain ⟨token, single⟩ := Override.single_written line.2.written
  refine word.spells_assignment trimmed.plain ?_ single
  rintro c last rfl
  cases trimmed.last _ last

theorem spells_part {part : String × List (String × Spelled)} (word : IsWord part.1) (plain : Plain part.2) :
    Spells (partText part) (linesOf (part.1, values part.2)) := by
  have lines := spells_flatMap fun line inside => spells_line (plain.words line inside)
  rw [← List.map_eq_flatMap] at lines
  rw [linesOf, values, List.map_map]
  exact word.spells_header.append lines

theorem spells (listing : Listing) :
    Spells (listing.parts.flatMap partText) (listing.tables.flatMap linesOf) := by
  rw [tables, List.flatMap_map]
  exact spells_flatMap fun part inside =>
    spells_part (listing.plain.words part inside) (listing.lines part inside)

theorem parse?_text (listing : Listing) :
    parse? listing.text = some (.table (Sections.tableOf listing.tables)) := by
  have unmarked : Token.withoutMark (listing.parts.flatMap partText) = listing.parts.flatMap partText := by
    cases listing.parts <;> rfl
  have read : sections? listing.text = some (Section.root :: listing.tables.map sectionOf) :=
    (sections?_of_spells listing.spells unmarked).trans (ofLines?_linesOf _ _)
  rw [parse?, read, Option.bind_some]
  exact Sections.value?_sectionOf listing.plain_tables listing.plain_lines

theorem find?_tableOf (listing : Listing) (setting : Setting) :
    (Ordered.find? setting.place.part (Sections.tableOf listing.tables)).bind
        (Toml.field? setting.place.name setting.place.position) = listing.said? setting := by
  have once := (listing.plain_tables.map fun members => Toml.table (Ordered.ofList members)).nodup
  rw [Sections.tableOf, Ordered.find?_ofList once, lookup_map_snd fun members => Toml.table (Ordered.ofList members),
    tables, lookup_map_snd values, said?]
  cases found : listing.parts.lookup setting.place.part with
  | none => rfl
  | some lines =>
    have plain : Plain lines := listing.lines _ (Ordered.mem_of_find? found)
    change Ordered.find? setting.place.name (Ordered.ofList (values lines)) = _
    rw [values, Ordered.find?_ofList (plain.map Spelled.value).nodup, lookup_map_snd Spelled.value]
    rfl

end Listing

/-! ### What a file says -/

/-- What a settings file says about a setting: without a file it has its default, and by a file it is what stands
in the table that the file spells, or the default where nothing does. -/
inductive Gives (setting : Setting) : SettingsFile → setting.kind.Value → Prop where
  | unnamed {value : setting.kind.Value} (default : setting.default? = some value) : Gives setting .unnamed value
  | contents {text : String} {table : Toml.Table} {value : setting.kind.Value}
    (spells : Toml.parse? text = some (.table table)) (holds : setting.valueIn table = some value) :
    Gives setting (.contents (Utf8.encode text)) value

variable {file : SettingsFile} {setting : Setting} {value : setting.kind.Value}

theorem gives_of_baseTable {table : Toml.Table} (read : Settings.baseTable file = .ok table)
    (holds : setting.valueIn table = some value) : file.Gives setting value := by
  cases file with
  | unnamed =>
    cases read
    exact .unnamed holds
  | missing => cases read
  | contents bytes =>
    rw [Settings.baseTable] at read
    split at read
    · cases read
    · next text decoded =>
      obtain rfl := Utf8.encode_of_decode? decoded
      split at read
      · cases read
      · next spells =>
        cases read
        exact .contents spells holds
      · cases read

theorem Gives.of_lines {listing : Listing}
    (gives : (SettingsFile.contents (Utf8.encode listing.text)).Gives setting value) :
    (listing.said? setting).elim setting.default? setting.kind.read? = some value := by
  generalize same : SettingsFile.contents (Utf8.encode listing.text) = file at gives
  cases gives with
  | unnamed => cases same
  | @contents text table value spells holds =>
    have decoded := Utf8.decode?_encode text
    rw [← SettingsFile.contents.inj same, Utf8.decode?_encode] at decoded
    cases decoded
    rw [listing.parse?_text] at spells
    cases spells
    rw [← listing.find?_tableOf]
    exact holds

end SettingsFile

end TokenIndexer
