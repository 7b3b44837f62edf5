import LogicalNet.Identifiers
import LogicalNet.Store.Basic

/-!
# Plans

A call of the client first finds out what to do and then writes it in a single
transaction.  A plan is the first part: it reads the store, draws identifiers, and
ends with a result or an error, but writes nothing.  What it ends with for a call
is a `Transaction`, the operations to write and the result to return once they are
written.
-/

namespace LogicalNet

inductive Plan (α : Type) where
  | done (value : α)
  | fail (error : StoreError)
  | get (table : Table) (lookup : Lookup) (next : Option Row → Plan α)
  | list (table : Table) (next : List Row → Plan α)
  | find (table : Table) (key value : String) (next : List Row → Plan α)
  | uuid (next : String → Plan α)
  | mac (next : Mac → Plan α)

namespace Plan

variable {α β : Type}

def bind (p : Plan α) (f : α → Plan β) : Plan β :=
  match p with
  | done a => f a
  | fail e => fail e
  | get table lookup next => get table lookup fun r => (next r).bind f
  | list table next => list table fun rs => (next rs).bind f
  | find table key value next => find table key value fun rs => (next rs).bind f
  | uuid next => uuid fun u => (next u).bind f
  | mac next => mac fun m => (next m).bind f

instance : Monad Plan where
  pure := done
  bind := bind

instance : MonadLift (Except StoreError) Plan where
  monadLift
    | .ok a => done a
    | .error e => fail e

instance : MonadLift (Except InputFault) Plan where
  monadLift
    | .ok a => done a
    | .error e => fail (.input e)

def reject (fault : InputFault) : Plan α :=
  fail (.input fault)

def drawUuid : Plan String :=
  uuid done

def drawMac : Plan Mac :=
  mac done

/-- The given number of identifiers in the order of the draws. -/
def drawUuids : Nat → Plan (List String)
  | 0 => done []
  | n + 1 => drawUuid.bind fun first => (drawUuids n).bind fun rest => done (first :: rest)

/-- The results for all elements, one after another. -/
def gather (f : α → Plan (List β)) : List α → Plan (List β)
  | [] => done []
  | a :: rest => (f a).bind fun first => (gather f rest).bind fun later => done (first ++ later)

/-! ## Reading rows of one kind -/

section Rows

variable (ρ : Type) [RowType ρ]

def fetch (lookup : Lookup) : Plan (Option ρ) :=
  get (RowType.table ρ) lookup fun
    | none => done none
    | some row =>
        match RowType.ofRow ρ row with
        | .ok r => done (some r)
        | .error e => fail e

/-- The row, which has to be there. -/
def require (lookup : Lookup) : Plan ρ :=
  (fetch ρ lookup).bind fun
    | some r => done r
    | none => fail (.notFound (RowType.table ρ) lookup.text)

/-- The row by its name, as the parent of what is to be made. -/
def requireParent (parent child : String) : Plan ρ :=
  (fetch ρ (.name parent)).bind fun
    | some r => done r
    | none => fail (.parentNotFound child parent)

def listAll : Plan (List ρ) :=
  list (RowType.table ρ) fun rows =>
    match RowType.ofRows ρ rows with
    | .ok rs => done rs
    | .error e => fail e

def findAll (key value : String) : Plan (List ρ) :=
  find (RowType.table ρ) key value fun rows =>
    match RowType.ofRows ρ rows with
    | .ok rs => done rs
    | .error e => fail e

end Rows

/-! ## Running -/

variable {σ ι : Type} [Store σ] [IdSource ι]

def run (p : Plan α) (s : σ) (ids : ι) : Except StoreError α × σ × ι :=
  match p with
  | done a => (.ok a, s, ids)
  | fail e => (.error e, s, ids)
  | get table lookup next =>
      let read := Store.get table lookup s
      match read.1 with
      | .error e => (.error e, read.2, ids)
      | .ok row => (next row).run read.2 ids
  | list table next =>
      let read := Store.list table s
      match read.1 with
      | .error e => (.error e, read.2, ids)
      | .ok rows => (next rows).run read.2 ids
  | find table key value next =>
      let read := Store.find table key value s
      match read.1 with
      | .error e => (.error e, read.2, ids)
      | .ok rows => (next rows).run read.2 ids
  | uuid next =>
      let drawn := IdSource.uuid ids
      (next drawn.1).run s drawn.2
  | mac next =>
      let drawn := IdSource.mac ids
      (next drawn.1).run s drawn.2

end Plan

/-! ## Calls

A call of the client is a plan whose transaction is written at its end.
-/

/-- What a call writes, and its result once that is written. -/
structure Transaction (α : Type) where
  operations : List Operation
  result : α

namespace Plan

variable {α : Type}

def write (operations : List Operation) (result : α) : Plan (Transaction α) :=
  done ⟨operations, result⟩

/-- A call that only reads. -/
def answer (p : Plan α) : Plan (Transaction α) :=
  p.bind fun a => write [] a

variable {σ ι : Type} [Store σ] [IdSource ι]

/-- Runs the plan and writes its transaction. -/
def perform (p : Plan (Transaction α)) (s : σ) (ids : ι) : Except StoreError α × σ × ι :=
  let planned := p.run s ids
  match planned.1 with
  | .error e => (.error e, planned.2)
  | .ok t =>
      let written := Store.transact t.operations planned.2.1
      (written.1.map fun _ => t.result, written.2, planned.2.2)

end Plan
end LogicalNet
