import DebugBridge.Toml.Value

/-!
# Tables under construction

A TOML text builds its tables piece by piece: by headers, by keys with dots, and by values. What a
table came from decides what may still be added to it.
-/

namespace DebugBridge.Toml

/-- What a table came from. -/
inductive Origin where
  /-- A header of its own. -/
  | header
  /-- The header of a table below it. -/
  | implied
  /-- A key with dots. -/
  | dotted
  deriving DecidableEq, Repr, Inhabited

/-- What a key stands for so far. -/
inductive Draft where
  | value (v : Toml)
  | table (origin : Origin) (entries : List (String × Draft))
  /-- A list of tables, of which only the last one is open. -/
  | tables (earlier : List Toml) (last : List (String × Draft))
  deriving Repr, Inhabited

/-- A table and what it came from. -/
abbrev DraftTable := Origin × List (String × Draft)

namespace Draft

mutual

/-- The value of what is complete. -/
def finish : Draft → Toml
  | .value v => v
  | .table _ entries => .table (finishEntries entries)
  | .tables earlier last => .array (earlier ++ [.table (finishEntries last)])

/-- The entries of a table that is complete. -/
def finishEntries : List (String × Draft) → List (String × Toml)
  | [] => []
  | (key, d) :: rest => (key, finish d) :: finishEntries rest

end

/-- What a key stands for. -/
def get? (entries : List (String × Draft)) (key : String) : Option Draft :=
  (entries.find? (·.1 = key)).map (·.2)

/-- The entries with another draft for a key. -/
def set (entries : List (String × Draft)) (key : String) (d : Draft) : List (String × Draft) :=
  if (get? entries key).isSome then
    entries.map fun entry => if entry.1 = key then (key, d) else entry
  else entries ++ [(key, d)]

/-- Changes the table at the end of a path. Missing tables are made; a table with a header of its
own is closed to keys with dots. -/
def at? (dotted : Bool) (change : DraftTable → Option DraftTable) :
    List String → DraftTable → Option DraftTable
  | [], t => change t
  | key :: path, (origin, entries) =>
    match get? entries key with
    | none => do
      let (o, below) ← at? dotted change path (if dotted then .dotted else .implied, [])
      some (origin, set entries key (.table o below))
    | some (.table o below) => do
      if dotted && o = .header then none
      else
        let (o, below) ← at? dotted change path (o, below)
        some (origin, set entries key (.table o below))
    | some (.tables earlier last) => do
      let (_, last) ← at? dotted change path (.header, last)
      some (origin, set entries key (.tables earlier last))
    | some (.value _) => none

/-- Gives a key its value; it must not have one. -/
def assign? (v : Toml) : List String → DraftTable → Option DraftTable
  | [], _ => none
  | keys@(_ :: _), t =>
    let path := keys.dropLast
    let key := keys.getLastD ""
    at? true
      (fun (origin, entries) =>
        if (!path.isEmpty && origin != .dotted) || (get? entries key).isSome then none
        else some (origin, set entries key (.value v)))
      path t

/-- Takes the header of a table. -/
def open? (keys : List String) (root : DraftTable) : Option DraftTable :=
  let key := keys.getLastD ""
  at? false
    (fun (origin, entries) =>
      match get? entries key with
      | none => some (origin, set entries key (.table .header []))
      | some (.table .implied below) => some (origin, set entries key (.table .header below))
      | _ => none)
    keys.dropLast root

/-- Takes the header of the next table of a list. -/
def openNext? (keys : List String) (root : DraftTable) : Option DraftTable :=
  let key := keys.getLastD ""
  at? false
    (fun (origin, entries) =>
      match get? entries key with
      | none => some (origin, set entries key (.tables [] []))
      | some (.tables earlier last) =>
        some (origin, set entries key (.tables (earlier ++ [.table (finishEntries last)]) []))
      | _ => none)
    keys.dropLast root

end Draft

end DebugBridge.Toml
