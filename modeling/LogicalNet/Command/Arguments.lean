import LogicalNet.Command.Remote
import LogicalNet.Settings
import LogicalNet.Store.Basic

/-!
# Arguments of the command line tool

The words that the tool of the database is called with: options that hold for every
call, conditions of a listing, and one command per operation.
-/

namespace LogicalNet
namespace Command

/-- The options of every call; the certificates are for encrypted connections only. -/
def options (settings : Settings) (remote : Remote) : List String :=
  let always :=
    ["--db=" ++ settings.address, "--timeout=" ++ Text.decimal settings.connectTimeout.toNat]
  match remote, settings.tls with
  | .ssl _ _, some tls =>
      always ++ ["--private-key=" ++ tls.clientKey, "--certificate=" ++ tls.clientCert,
        "--ca-cert=" ++ tls.caCert]
  | _, _ => always

/-! ## Listings -/

def listing (table : Table) (conditions : List String) : List String :=
  ["--format=json", "--data=json", "find", table.dbName] ++ conditions

def lookupCondition : Lookup → String
  | .uuid s => "_uuid=" ++ s
  | .name s => "name=" ++ Value.quoted s

/-- One key of a column of maps with its value. -/
def keyValue (column key value : String) : String :=
  column ++ ":" ++ Value.quoted key ++ "=" ++ Value.quoted value

def externalIdCondition (key value : String) : String :=
  keyValue MapColumn.externalIds.dbName key value

/-! ## Operations -/

def columnArguments (row : Row) : List String :=
  row.columns.map fun c => c.1 ++ "=" ++ c.2.command

def create (row : Row) : List String :=
  ["--id=" ++ row.uuid, "create", row.table.dbName] ++ columnArguments row

def replace (row : Row) : List String :=
  ["set", row.table.dbName, row.uuid] ++ columnArguments row

def destroy (table : Table) (record : String) : List String :=
  ["--if-exists", "destroy", table.dbName, record]

def add (table : Table) (record : String) (column : RefColumn) (uuids : List String) :
    List String :=
  ["add", table.dbName, record, column.dbName] ++ uuids

def remove (table : Table) (record : String) (column : RefColumn) (uuids : List String) :
    List String :=
  ["--if-exists", "remove", table.dbName, record, column.dbName] ++ uuids

def setKeys (table : Table) (record : String) (column : MapColumn) (entries : TextMap String) :
    List String :=
  ["set", table.dbName, record] ++
    entries.entries.map fun e => keyValue column.dbName e.1 e.2

/-- The commands of one transaction, each behind its own mark. -/
def transaction (commands : List (List String)) : List String :=
  commands.flatMap fun c => "--" :: c

end Command
end LogicalNet
