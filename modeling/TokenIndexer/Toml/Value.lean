import TokenIndexer.Decimal.Binary64
import TokenIndexer.Ordered
import TokenIndexer.Toml.Datetime

/-!
Values, and as a document writes them before anyone looks at them: dates are not yet checked, and a table may
still give a key twice.
-/

namespace TokenIndexer

inductive Toml where
  | string (text : String)
  | int (value : Int64)
  | float (value : Binary64)
  | bool (value : Bool)
  | datetime (value : Datetime)
  | array (items : List Toml)
  | table (members : List (String × Toml))

namespace Toml

abbrev Table := Ordered String Toml

def tableOf? (members : List (String × Toml)) : Option Table :=
  if (members.map (·.1)).Nodup then some (Ordered.ofList members) else none

end Toml

end TokenIndexer

namespace TokenIndexer.Toml

inductive Entry where
  | scalar (value : Toml)
  | date (spelling : List Char)
  | array (items : List Entry)
  /-- A table within a section; one that `dotted` keys opened takes further ones. -/
  | table (dotted : Bool) (members : List (String × Entry))

/-- The key that makes a date of its table. -/
def dateKey : String := "$__toml_private_datetime"

def replaceFirst {α : Type} (key : String) (value : α) : List (String × α) → List (String × α)
  | [] => []
  | (k, v) :: rest => if k = key then (k, value) :: rest else (k, v) :: replaceFirst key value rest

namespace Entry

/-- Adds a value at the end of its path. Only tables that dotted keys opened are passed through. -/
def add (value : Entry) :
    String → List String → List (String × Entry) → Option (List (String × Entry))
  | key, [], entries => some (entries ++ [(key, value)])
  | key, next :: path, entries =>
    match entries.lookup key with
    | none => (add value next path []).map fun inner => entries ++ [(key, .table true inner)]
    | some (.table true members) =>
      (add value next path members).map fun inner =>
        replaceFirst key (.table true inner) entries
    | some _ => none

def leadsDate : List (String × Entry) → Bool
  | (key, _) :: _ => key = dateKey
  | [] => false

/-- The date of such a table; the members after the first are not looked at. -/
def leadingDate? : List (String × Entry) → Option Toml
  | (_, .scalar (.string text)) :: _ => (Datetime.ofChars? text.toList).map .datetime
  | _ => none

mutual

def toToml? : Entry → Option Toml
  | .scalar value => some value
  | .date spelling => (Datetime.ofChars? spelling).map .datetime
  | .array items => (items? items).map .array
  | .table _ entries =>
    if leadsDate entries then leadingDate? entries
    else ((members? entries).bind tableOf?).map .table

def items? : List Entry → Option (List Toml)
  | [] => some []
  | entry :: entries => do
    let value ← toToml? entry
    let items ← items? entries
    some (value :: items)

def members? : List (String × Entry) → Option (List (String × Toml))
  | [] => some []
  | (key, entry) :: entries => do
    let value ← toToml? entry
    let members ← members? entries
    some ((key, value) :: members)

end

end Entry

end TokenIndexer.Toml
