import ResourceEmbedding.Toml.Basic

namespace ResourceEmbedding.Toml

-- How a table came to be; what may still be added to it depends on that.
inductive Origin
  -- By a header of its own, or as the document itself.
  | header
  -- As a step on the path of a header.
  | headerPath
  -- As a step on the path of a dotted key.
  | dottedKey
deriving DecidableEq, Repr

inductive Node
  | leaf (value : Toml)
  | table (origin : Origin) (entries : List (String × Node))
  -- The tables of an array, of which the last one can still grow; the others are listed last first.
  | tables (last : List (String × Node)) (earlier : List (List (String × Node)))

abbrev TableDraft := List (String × Node)

namespace TableDraft

def put (key : String) (node : Node) : TableDraft → TableDraft
  | [] => [(key, node)]
  | (k, n) :: rest => if k = key then (k, node) :: rest else (k, n) :: put key node rest

-- Changes the table at the end of a path, by what `change` makes of its origin and its entries.
-- Tables that are missing on the way are made. A dotted key does not lead into a table with a
-- header of its own.
def changeAt (byKey : Bool) (change : Origin → TableDraft → Option TableDraft) :
    List String → Origin → TableDraft → Option TableDraft
  | [], origin, entries => change origin entries
  | key :: path, _, entries =>
    match entries.lookup key with
    | none => do
      let origin : Origin := if byKey then .dottedKey else .headerPath
      return entries.put key (.table origin (← changeAt byKey change path origin []))
    | some (.leaf _) => none
    | some (.table origin inner) =>
      if byKey && origin == .header then none
      else do return entries.put key (.table origin (← changeAt byKey change path origin inner))
    | some (.tables last earlier) => do
      return entries.put key (.tables (← changeAt byKey change path .header last) earlier)

def addLeaf (key : List String) (value : Toml) (origin : Origin) (entries : TableDraft) :
    Option TableDraft := do
  let path := key.dropLast
  let last ← key.getLast?
  let add (origin : Origin) (entries : TableDraft) : Option TableDraft :=
    if !path.isEmpty && origin != .dottedKey then none
    else if (entries.lookup last).isSome then none
    else some (entries.put last (.leaf value))
  changeAt true add path origin entries

def assign (path key : List String) (value : Toml) (document : TableDraft) : Option TableDraft :=
  changeAt false (addLeaf key value) path .header document

-- Opens the table of a header, which must not have been defined before.
def openTable (path : List String) (document : TableDraft) : Option TableDraft := do
  let last ← path.getLast?
  let define (_ : Origin) (entries : TableDraft) : Option TableDraft :=
    match entries.lookup last with
    | none => some (entries.put last (.table .header []))
    | some (.table .headerPath inner) => some (entries.put last (.table .header inner))
    | some _ => none
  changeAt false define path.dropLast .header document

-- Opens one more table of the array that a header stands for.
def openArrayItem (path : List String) (document : TableDraft) : Option TableDraft := do
  let last ← path.getLast?
  let define (_ : Origin) (entries : TableDraft) : Option TableDraft :=
    match entries.lookup last with
    | none => some (entries.put last (.tables [] []))
    | some (.tables newest earlier) => some (entries.put last (.tables [] (newest :: earlier)))
    | some _ => none
  changeAt false define path.dropLast .header document

end TableDraft

mutual

def Node.finish : Node → Toml
  | .leaf value => value
  | .table _ entries => .table (finishEntries entries)
  | .tables last earlier => .array ((finishTables earlier).reverse ++ [.table (finishEntries last)])

def finishEntries : List (String × Node) → List (String × Toml)
  | [] => []
  | (key, node) :: rest => (key, node.finish) :: finishEntries rest

def finishTables : List (List (String × Node)) → List Toml
  | [] => []
  | entries :: rest => .table (finishEntries entries) :: finishTables rest

end

end ResourceEmbedding.Toml
