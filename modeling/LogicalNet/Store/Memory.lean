import LogicalNet.Store.Basic
import LogicalNet.Store.Tables

/-!
# The store in memory

`Tables.apply` is the meaning of one operation, and a transaction applies its
operations one after the other, or none of them when one fails.  Deleting a row also
takes it out of every column that refers to its table, as nothing may point at a row
that is gone.
-/

namespace LogicalNet

namespace Tables

/-! ## Changing rows -/

/-- Whether another row of the table has the name that the row needs for itself. -/
def isNameTaken (ts : Tables) (row : Row) : Bool :=
  row.table.hasNameIndex && row.name?.isSome &&
    (ts.list row.table).any fun r => r.uuid != row.uuid && r.name? == row.name?

def put (ts : Tables) (row : Row) : Tables :=
  ts.setTable row.table ((ts row.table).insert row.uuid row)

def setRow (ts : Tables) (table : Table) (key : String) (row : Row) : Tables :=
  ts.setTable table ((ts table).insert key row)

/-- The row without the given identifier in its columns of references to the given table. -/
def dropReferences (target : Table) (key : String) (row : Row) : Row :=
  RefColumn.all.foldl
    (fun r c =>
      if c.target? r.table = some target then r.mapReferences (List.filter (· ≠ key)) c else r)
    row

def remove (ts : Tables) (table : Table) (key : String) : Tables :=
  (ts.setTable table ((ts table).erase key)).mapRows (dropReferences table key)

/-- The references with each of the given identifiers once, the new ones at the end. -/
def addMissing (refs : List String) (uuids : List String) : List String :=
  uuids.foldl (fun refs u => if refs.contains u then refs else refs ++ [u]) refs

/-! ## Operations -/

def insert (ts : Tables) (row : Row) : Except StoreError Tables :=
  match row.fault? with
  | some fault => .error (.input fault)
  | none =>
      if (ts row.table).contains row.uuid then .error (.alreadyExists row.table row.uuid)
      else if ts.isNameTaken row then .error (.alreadyExists row.table (row.name?.getD ""))
      else .ok (ts.put row)

def update (ts : Tables) (row : Row) : Except StoreError Tables :=
  match row.fault? with
  | some fault => .error (.input fault)
  | none =>
      if !(ts row.table).contains row.uuid then .error (.notFound row.table row.uuid)
      else if ts.isNameTaken row then .error (.alreadyExists row.table (row.name?.getD ""))
      else .ok (ts.put row)

def delete (ts : Tables) (table : Table) (lookup : Lookup) : Tables :=
  match ts.findKey? table lookup with
  | some key => ts.remove table key
  | none => ts

def addRefs (ts : Tables) (table : Table) (lookup : Lookup) (column : RefColumn)
    (uuids : List String) : Except StoreError Tables :=
  match column.target? table with
  | none => .error (.input (.noReferenceColumn table column))
  | some target =>
      match uuids.find? fun u => !(ts target).contains u with
      | some u => .error (.notFound target u)
      | none =>
          match ts.findKey? table lookup with
          | none => .error (.notFound table lookup.text)
          | some key =>
              match (ts table).get? key with
              | none => .error (.notFound table lookup.text)
              | some row =>
                  if (row.references? column).isNone then
                    .error (.notFound table lookup.text)
                  else
                    .ok (ts.setRow table key (row.mapReferences (addMissing · uuids) column))

def removeRefs (ts : Tables) (table : Table) (lookup : Lookup) (column : RefColumn)
    (uuids : List String) : Except StoreError Tables :=
  if (column.target? table).isNone then
    .error (.input (.noReferenceColumn table column))
  else
    match ts.findKey? table lookup with
    | none => .ok ts
    | some key =>
        match (ts table).get? key with
        | none => .ok ts
        | some row =>
            .ok (ts.setRow table key (row.mapReferences (List.filter (· ∉ uuids)) column))

def setKeys (ts : Tables) (table : Table) (lookup : Lookup) (column : MapColumn)
    (entries : TextMap String) : Except StoreError Tables :=
  match ts.findKey? table lookup with
  | none => .error (.notFound table lookup.text)
  | some key =>
      match (ts table).get? key with
      | none => .error (.input (.noMapColumn table column))
      | some row =>
          if (row.map? column).isNone then
            .error (.input (.noMapColumn table column))
          else
            .ok (ts.setRow table key (row.mapKeys (·.insertAll entries.entries) column))

def apply (ts : Tables) : Operation → Except StoreError Tables
  | .insert row => ts.insert row
  | .update row => ts.update row
  | .delete table lookup => .ok (ts.delete table lookup)
  | .addRefs table lookup column uuids => ts.addRefs table lookup column uuids
  | .removeRefs table lookup column uuids => ts.removeRefs table lookup column uuids
  | .setKeys table lookup column entries => ts.setKeys table lookup column entries

/-- The tables after all operations, or the error of the first that fails. -/
def applyAll (ts : Tables) : List Operation → Except StoreError Tables
  | [] => .ok ts
  | op :: rest =>
      match ts.apply op with
      | .error e => .error e
      | .ok ts => ts.applyAll rest

end Tables

/-! ## The store -/

structure Memory where
  tables : Tables
  isOpen : Bool

namespace Memory

def empty : Memory :=
  ⟨.empty, true⟩

def transact (m : Memory) (operations : List Operation) : Except StoreError Unit × Memory :=
  match m.tables.applyAll operations with
  | .error e => (.error e, m)
  | .ok ts => (.ok (), { m with tables := ts })

instance : Store Memory where
  get table lookup m := (.ok (m.tables.get? table lookup), m)
  list table m := (.ok (m.tables.list table), m)
  find table key value m := (.ok (m.tables.find table key value), m)
  transact operations m := m.transact operations
  close m := { m with isOpen := false }
  isConnected m := m.isOpen
  kind _ := .inMemory

end Memory
end LogicalNet
