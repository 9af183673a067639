import Tidymark.Config.Value

/-!
# TOML: tables

A table comes into being by a header, on the way to another table, or by a
key with dots.  A header may give one table only, a key with dots never adds
to a table that a header gave, and no key is given twice.
-/

namespace Tidymark

namespace Toml

/-- What a table came into being by. -/
inductive Origin where
  | header
  | passage
  | dots
  deriving DecidableEq, Repr

/-- What stands under a key: a value, a table, or a row of tables, the newest apart. -/
inductive Item where
  | value (v : Value)
  | table (origin : Origin) (entries : List (Text × Item))
  | tables (earlier : List (List (Text × Item))) (newest : List (Text × Item))

abbrev Entries := List (Text × Item)

def Entries.get? (key : Text) (entries : Entries) : Option Item := entries.lookup key

def Entries.set (key : Text) (item : Item) : Entries → Entries
  | [] => [(key, item)]
  | (k, i) :: rest => if k = key then (k, item) :: rest else (k, i) :: Entries.set key item rest

/-- Change the table that a path leads to.  Tables missing on the way come into being as `made`
says, and `change` is told what the last one came into being by. -/
def Entries.within (made : Origin) (change : Origin → Entries → Option Entries) :
    List Text → Origin → Entries → Option Entries
  | [], origin, entries => change origin entries
  | key :: path, _, entries =>
      match entries.get? key with
      | none =>
          (within made change path made []).map fun inner => entries.set key (.table made inner)
      | some (.value _) => none
      | some (.table origin inner) =>
          if made = .dots ∧ origin = .header then none
          else
            (within made change path origin inner).map fun inner =>
              entries.set key (.table origin inner)
      | some (.tables earlier newest) =>
          (within made change path .header newest).map fun newest =>
            entries.set key (.tables earlier newest)

def Entries.put (path : List Text) (key : Text) (v : Value) (entries : Entries) : Option Entries :=
  entries.within .dots
    (fun origin inner =>
      if (origin == .dots) == path.isEmpty then none
      else if (inner.get? key).isSome then none
      else some (inner.set key (.value v)))
    path .header

def Entries.declare (path : List Text) (key : Text) (entries : Entries) : Option Entries :=
  entries.within .passage
    (fun _ inner =>
      match inner.get? key with
      | none => some (inner.set key (.table .header []))
      | some (.table .passage given) => some (inner.set key (.table .header given))
      | some _ => none)
    path .header

def Entries.extend (path : List Text) (key : Text) (entries : Entries) : Option Entries :=
  entries.within .passage
    (fun _ inner =>
      match inner.get? key with
      | none => some (inner.set key (.tables [] []))
      | some (.tables earlier newest) => some (inner.set key (.tables (newest :: earlier) []))
      | some _ => none)
    path .header

mutual

def Item.toValue : Item → Value
  | .value v => v
  | .table _ entries => .map (entryValues entries)
  | .tables earlier newest => .list ((.map (entryValues newest) :: tableValues earlier).reverse)

def entryValues : List (Text × Item) → List (Option Text × Value)
  | [] => []
  | (key, item) :: rest => (some key, item.toValue) :: entryValues rest

def tableValues : List (List (Text × Item)) → List Value
  | [] => []
  | entries :: rest => .map (entryValues entries) :: tableValues rest

end

end Toml

end Tidymark
