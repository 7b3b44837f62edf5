import LogicalNet.Command.Arguments

/-!
# Sessions with a database

A database that is read and written by calls of its command line tool.  What the
session needs from its surroundings is a `Link`: running the tool, probing whether
the database accepts connections, and pausing.

A session starts out of connection and connects with its first call.  A call that
fails is followed by a probe, and the session counts as disconnected when the probe
fails too.  Once closed it never connects again.
-/

namespace LogicalNet

/-- How a call of the tool ends. -/
inductive Reply where
  | output (text : String)
  | failed (cause : CommandFault)
  /-- The call did not end in time. -/
  | hung

class Link (ω : Type) where
  run : List String → ω → Reply × ω
  /-- One attempt to connect, with the reason of its failure. -/
  probe : Remote → ω → Except String Unit × ω
  pause : ω → ω

structure Session (ω : Type) where
  settings : Settings
  remote : Remote
  connected : Bool
  closed : Bool
  link : ω

namespace Session

variable {ω : Type}

/-- A session that has not been in touch with the database yet. -/
def start (settings : Settings) (link : ω) : Except StoreError (Session ω) :=
  match Remote.ofText settings.address with
  | .error e => .error e
  | .ok remote => .ok ⟨settings, remote, false, false, link⟩

def fault {α : Type} (s : Session ω) (cause : ConnectionFault) : Except StoreError α :=
  .error (.connection s.settings.address cause)

variable [Link ω]

/-! ## Connecting -/

def probe (s : Session ω) : Except StoreError Unit × Session ω :=
  let probed := Link.probe s.remote s.link
  let s := { s with link := probed.2 }
  match probed.1 with
  | .ok () => (.ok (), s)
  | .error reason => (s.fault (.unreachable reason), s)

/-- Probes until one succeeds, at most `more + 1` times, with a pause between two probes. -/
def attempt (s : Session ω) : Nat → Except StoreError Unit × Session ω
  | 0 =>
      let probed := s.probe
      (probed.1, { probed.2 with connected := probed.1.toBool })
  | more + 1 =>
      let probed := s.probe
      match probed.1 with
      | .ok () => (.ok (), { probed.2 with connected := true })
      | .error _ => attempt { probed.2 with link := Link.pause probed.2.link } more

/-- At least one attempt, and no more than the settings say. -/
def reconnect (s : Session ω) : Except StoreError Unit × Session ω :=
  if s.closed then (s.fault .closed, s) else s.attempt (s.settings.reconnectAttempts.toNat - 1)

/-- A session with a single attempt to connect. -/
def connect (settings : Settings) (link : ω) : Except StoreError (Session ω) × ω :=
  match start settings link with
  | .error e => (.error e, link)
  | .ok s =>
      let probed := s.probe
      match probed.1 with
      | .error e => (.error e, probed.2.link)
      | .ok () => (.ok { probed.2 with connected := true }, probed.2.link)

/-! ## Calls -/

/-- The seconds after which a call counts as hung. -/
def limit (s : Session ω) : Nat :=
  s.settings.connectTimeout.toNat + 5

/-- A session after a failed call. -/
def afterFailure (s : Session ω) : Session ω :=
  let probed := s.probe
  match probed.1 with
  | .ok () => probed.2
  | .error _ => { probed.2 with connected := false }

def call (s : Session ω) (arguments : List String) : Except StoreError String × Session ω :=
  let reply := Link.run (Command.options s.settings s.remote ++ arguments) s.link
  let s := { s with link := reply.2 }
  match reply.1 with
  | .output text => (.ok text, s)
  | .failed cause => (.error (.command cause), s.afterFailure)
  | .hung => (.error (.command (.unfinished s.limit)), s.afterFailure)

/-- The output of the tool, called in connection. -/
def run (s : Session ω) (arguments : List String) : Except StoreError String × Session ω :=
  if s.connected then
    s.call arguments
  else
    let ready := s.reconnect
    match ready.1 with
    | .error e => (.error e, ready.2)
    | .ok () => ready.2.call arguments

/-! ## Reading -/

def readListing (table : Table) (text : String) : Except StoreError (List Row) :=
  match Record.ofListing text with
  | .error e => .error (.command (.listing e))
  | .ok records => Row.ofRecords table records

def select (s : Session ω) (table : Table) (conditions : List String) :
    Except StoreError (List Row) × Session ω :=
  let answer := s.run (Command.listing table conditions)
  match answer.1 with
  | .error e => (.error e, answer.2)
  | .ok text => (readListing table text, answer.2)

def get (s : Session ω) (table : Table) (lookup : Lookup) :
    Except StoreError (Option Row) × Session ω :=
  let rows := s.select table [Command.lookupCondition lookup]
  (rows.1.map List.head?, rows.2)

/-! ## Writing -/

/-- The word by which the tool knows the row: names serve in tables with a name index only, and
other rows are looked up first. -/
def record (s : Session ω) (table : Table) :
    Lookup → Except StoreError (Option String) × Session ω
  | .uuid uuid => (.ok (some uuid), s)
  | .name name =>
      if table.hasNameIndex then
        (.ok (some name), s)
      else
        let row := s.get table (.name name)
        (row.1.map (Option.map Row.uuid), row.2)

/-- The record of a row that has to be there. -/
def requireRecord (s : Session ω) (table : Table) (lookup : Lookup) :
    Except StoreError String × Session ω :=
  let found := s.record table lookup
  match found.1 with
  | .error e => (.error e, found.2)
  | .ok none => (.error (.notFound table lookup.text), found.2)
  | .ok (some record) => (.ok record, found.2)

/-- The commands of an operation.  Rows of a table that is no root are not destroyed: the database
drops them with the last reference. -/
def commands (s : Session ω) : Operation → Except StoreError (List (List String)) × Session ω
  | .insert row =>
      match row.fault? with
      | some fault => (.error (.input fault), s)
      | none => (.ok [Command.create row], s)
  | .update row =>
      match row.fault? with
      | some fault => (.error (.input fault), s)
      | none => (.ok [Command.replace row], s)
  | .delete table lookup =>
      if table.isRoot then
        let found := s.record table lookup
        (found.1.map fun r => (r.map (Command.destroy table)).toList, found.2)
      else
        (.ok [], s)
  | .addRefs table lookup column uuids =>
      let found := s.requireRecord table lookup
      (found.1.map fun r => [Command.add table r column uuids], found.2)
  | .removeRefs table lookup column uuids =>
      let found := s.record table lookup
      (found.1.map fun r => (r.map (Command.remove table · column uuids)).toList, found.2)
  | .setKeys table lookup column entries =>
      let found := s.requireRecord table lookup
      (found.1.map fun r => [Command.setKeys table r column entries], found.2)

def allCommands (s : Session ω) :
    List Operation → Except StoreError (List (List String)) × Session ω
  | [] => (.ok [], s)
  | op :: rest =>
      let first := s.commands op
      match first.1 with
      | .error e => (.error e, first.2)
      | .ok cs =>
          let later := allCommands first.2 rest
          (later.1.map (cs ++ ·), later.2)

/-- The arguments for a transaction as a whole. -/
def transactionArguments (s : Session ω) (operations : List Operation) :
    Except StoreError (List String) × Session ω :=
  let cs := s.allCommands operations
  (cs.1.map Command.transaction, cs.2)

def transact (s : Session ω) (operations : List Operation) :
    Except StoreError Unit × Session ω :=
  let arguments := s.transactionArguments operations
  match arguments.1 with
  | .error e => (.error e, arguments.2)
  | .ok [] => (.ok (), arguments.2)
  | .ok words =>
      let answer := arguments.2.run words
      (answer.1.map fun _ => (), answer.2)

instance : Store (Session ω) where
  get table lookup s := s.get table lookup
  list table s := s.select table []
  find table key value s := s.select table [Command.externalIdCondition key value]
  transact operations s := s.transact operations
  close s := { s with closed := true, connected := false }
  isConnected s := s.connected
  kind _ := .remote

end Session
end LogicalNet
