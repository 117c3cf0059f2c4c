import SyntaxForest.Program.Toml.Value

/-!
# Building tables

A document defines its tables piece by piece: by headers, by dotted keys and as parents of either. A
table may be defined once. A header may define a table that was so far only implied by the header of
a table in it; dotted keys may go on with tables that dotted keys made, and with no others.

## Main definitions

* `Item`, `Entries`: tables under construction
* `Entries.within`: a change to the table that a header path leads to
* `Entries.openTable`, `Entries.openElement`: the effect of a header
* `Entries.define`: the effect of a key with its value
* `Entries.toValue`: the finished table
-/

namespace SyntaxForest.Toml

/-- How a table came to be. -/
inductive Origin where
  /-- A header, or the document itself. -/
  | stated
  /-- A header of a table in it. -/
  | implied
  /-- Dotted keys. -/
  | dotted
  deriving DecidableEq, Repr

/-- What stands under a key while a document is read. -/
inductive Item where
  /-- A finished value, to which nothing can be added. -/
  | value (v : Value)
  /-- A table. -/
  | table (origin : Origin) (entries : List (String × Item))
  /-- An array of tables, of which the last is still open. -/
  | tables (earlier : List (List (String × Item))) (last : List (String × Item))
  deriving Inhabited

/-- A table while a document is read. -/
abbrev Entries := List (String × Item)

namespace Entries

/-- Replaces what stands under a key. -/
def put (entries : Entries) (key : String) (item : Item) : Entries :=
  entries.map fun entry => if entry.1 = key then (key, item) else entry

/-- Changes the table that a header path leads to. Tables on the way that do not exist are implied,
and of an array of tables the last one counts. -/
def within (change : Entries → Except Error Entries) : List String → Entries → Except Error Entries
  | [], entries => change entries
  | key :: path, entries =>
    match entries.lookup key with
    | none => (within change path []).map fun t => entries ++ [(key, .table .implied t)]
    | some (.value _) => .error (.duplicateKey key)
    | some (.tables earlier last) =>
      (within change path last).map fun t => entries.put key (.tables earlier t)
    | some (.table origin t) =>
      (within change path t).map fun t => entries.put key (.table origin t)

/-- Defines a table by a header. -/
def openTable (key : String) (entries : Entries) : Except Error Entries :=
  match entries.lookup key with
  | none => .ok (entries ++ [(key, .table .stated [])])
  | some (.table .implied t) => .ok (entries.put key (.table .stated t))
  | some _ => .error (.duplicateKey key)

/-- Adds a table to an array of tables by a header. -/
def openElement (key : String) (entries : Entries) : Except Error Entries :=
  match entries.lookup key with
  | none => .ok (entries ++ [(key, .tables [] [])])
  | some (.tables earlier last) => .ok (entries.put key (.tables (earlier ++ [last]) []))
  | some _ => .error (.duplicateKey key)

/-- Defines a key in the table at the end of a path of dotted keys, given how the table at its
beginning came to be. A path leads through tables that no header states, and ends in one that dotted
keys made; without a path, the table is none that dotted keys made. -/
def defineFrom (key : String) (v : Value) (isDotted : Bool) (origin : Origin) :
    List String → Entries → Except Error Entries
  | [], entries =>
    if (origin = .dotted) ≠ isDotted ∨ (entries.lookup key).isSome then .error (.duplicateKey key)
    else .ok (entries ++ [(key, .value v)])
  | k :: path, entries =>
    match entries.lookup k with
    | none =>
      (defineFrom key v isDotted .dotted path []).map fun t => entries ++ [(k, .table .dotted t)]
    | some (.value _) | some (.table .stated _) => .error (.duplicateKey k)
    | some (.tables earlier last) =>
      (defineFrom key v isDotted .stated path last).map fun t => entries.put k (.tables earlier t)
    | some (.table origin t) =>
      (defineFrom key v isDotted origin path t).map fun t => entries.put k (.table origin t)

/-- Defines a key, with the dotted keys before it. -/
def define (path : List String) (key : String) (v : Value) (entries : Entries) :
    Except Error Entries :=
  defineFrom key v (path ≠ []) .stated path entries

end Entries

mutual

/-- The finished form of what stands under a key. -/
def Item.toValue : Item → Value
  | .value v => v
  | .table _ entries => .table (Entries.toValues entries)
  | .tables earlier last =>
    .array (Entries.toTables earlier ++ [.table (Entries.toValues last)])

/-- The finished forms of the entries of a table. -/
def Entries.toValues : List (String × Item) → List (String × Value)
  | [] => []
  | (key, item) :: rest => (key, item.toValue) :: Entries.toValues rest

/-- The finished forms of several tables. -/
def Entries.toTables : List (List (String × Item)) → List Value
  | [] => []
  | t :: rest => .table (Entries.toValues t) :: Entries.toTables rest

end

/-- The finished table. -/
def Entries.toValue (entries : Entries) : Value := .table (Entries.toValues entries)

end SyntaxForest.Toml
