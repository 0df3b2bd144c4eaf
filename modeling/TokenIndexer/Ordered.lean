/-! Maps as association lists in ascending order of their keys, so that equal maps are equal lists. -/

namespace TokenIndexer

abbrev Ordered (κ ν : Type) := List (κ × ν)

namespace Ordered

variable {κ ν : Type} [DecidableEq κ]

def insert [LT κ] [DecidableLT κ] (key : κ) (value : ν) : Ordered κ ν → Ordered κ ν
  | [] => [(key, value)]
  | (k, v) :: rest =>
    if key = k then (key, value) :: rest
    else if key < k then (key, value) :: (k, v) :: rest
    else (k, v) :: insert key value rest

def find? (key : κ) (map : Ordered κ ν) : Option ν := map.lookup key

def keys (map : Ordered κ ν) : List κ := map.map (·.1)

/-- Later entries replace earlier ones with the same key. -/
def ofList [LT κ] [DecidableLT κ] (entries : List (κ × ν)) : Ordered κ ν :=
  entries.foldl (fun map (key, value) => insert key value map) []

end Ordered

end TokenIndexer
