import BrokerClient.Broker.Call
import BrokerClient.Config
import BrokerClient.Log

/-!
# Pools

A pool lends items, at most as many at a time as its capacity, and makes them when none is idle. A
borrower waits for a permit, first come first served; with the permit it takes the item that came back
last, or has one made. An item that comes back valid is idle again, and an invalid one is dropped; once
the pool is closed, items that come back are closed and nothing is lent any more. A borrower keeps its
item, or is an errand, which gives the item back when its work ends. The pool is a state and a step on
events; between two events nothing happens.
-/

namespace BrokerClient

/-- The name of a borrower. -/
abbrev BorrowId := Nat

/-- What a borrower does with its item: `Pool::get` keeps it, and `Pool::with_item` and `Pool::run` are errands. -/
inductive Purpose where
  /-- The borrower keeps the item until it gives it back. -/
  | keep
  /-- The item goes back when the work is done; nobody waits for an errand in the background, and its
  failure is reported. -/
  | errand (background : Bool)
deriving DecidableEq, Repr

namespace Pool

/-- How far a borrower has come. -/
inductive Phase (ι : Type) where
  /-- It waits for a permit. -/
  | waiting
  /-- It was given a permit and has not run since. -/
  | granted
  /-- An item is being made for it. -/
  | creating
  /-- The pool was closed while its item was made, which is being closed. -/
  | discarding (item : ι)
  | lent (item : ι)
deriving DecidableEq, Repr

structure Borrow (ι : Type) where
  id : BorrowId
  purpose : Purpose
  phase : Phase ι
deriving DecidableEq, Repr

/-- Who waits for an item to be closed: a borrower, the caller of `close`, or nobody. -/
inductive Closer where
  | borrower (b : BorrowId)
  | caller
  | nobody
deriving DecidableEq, Repr

inductive Event (ι : Type) where
  | borrow (b : BorrowId) (purpose : Purpose)
  /-- A borrower that waited for a permit runs. -/
  | turn (b : BorrowId)
  | created (b : BorrowId) (result : Except Error ι)
  /-- The work of an errand ended. -/
  | worked (b : BorrowId) (result : Outcome)
  | giveBack (b : BorrowId)
  /-- A borrower goes away. -/
  | abandon (b : BorrowId)
  | close (call : Nat)
  | itemClosed (closer : Closer) (result : Outcome)
  /-- The caller of `close` goes away. -/
  | abandonClose (call : Nat)

inductive Action (ι : Type) where
  | log (entry : LogEntry)
  | create (b : BorrowId)
  | closeItem (closer : Closer) (item : ι)
  | wake (e : Event ι)
  /-- A borrower has its item to keep. -/
  | lend (b : BorrowId) (item : ι)
  /-- An errand has its item to work with. -/
  | work (b : BorrowId) (item : ι)
  /-- A borrower gets no item. -/
  | refuse (b : BorrowId) (e : Error)
  /-- An errand is done. -/
  | finish (b : BorrowId) (result : Outcome)
  | closed (call : Nat)

end Pool

open Pool in
/-- The state of a `Pool` and of those who borrow from it. -/
structure Pool (ι : Type) where
  capacity : Nat
  /-- Permits that nobody has. -/
  free : Nat := capacity
  /-- Items to be lent, the last to come back first. -/
  idle : List ι := []
  borrows : List (Borrow ι) := []
  isClosed : Bool := false
  /-- The call of `close` that is closing items, and those it still has to close. -/
  closing : Option (Nat × List ι) := none

namespace Pool

variable {ι : Type}

/-- A pool lends at least one item (`Pool::new`). -/
def ofCapacity (capacity : Nat) : Pool ι := { capacity := max capacity 1 }

/-- The capacity of a pool of channels on a connection that allows so many, zero meaning any number, as in
`ChannelPool::for_connection`. -/
def channelCapacity (channelMax capacity : Nat) : Nat := if channelMax = 0 then capacity else min capacity channelMax

/-- A pool of channels on a connection (`ChannelPool::for_connection`). -/
def forConnection (channelMax capacity : Nat) : Pool ChannelId := ofCapacity (channelCapacity channelMax capacity)

/-- A pool of channels of the configured size (`ChannelPool::from_config`). -/
def ofConfig (channelMax : Nat) (config : PoolConfig) : Pool ChannelId := forConnection channelMax config.capacity

/-- A step's new state, and what it does. -/
abbrev Effect (ι : Type) := Pool ι × List (Action ι)

def find? (p : Pool ι) (b : BorrowId) : Option (Borrow ι) := p.borrows.find? (·.id == b)

/-- Moves a borrower to a phase. -/
def moveTo (p : Pool ι) (b : BorrowId) (phase : Phase ι) : Pool ι :=
  { p with borrows := p.borrows.map fun x => if x.id = b then { x with phase } else x }

def drop (p : Pool ι) (b : BorrowId) : Pool ι := { p with borrows := p.borrows.filter (·.id != b) }

def Phase.isWaiting : Phase ι → Bool
  | .waiting => true
  | _ => false

def closedError : Error := .poolClosed

/-! ## Permits and items -/

/-- Passes a permit on to the first borrower that waits for one. -/
def returnPermit (p : Pool ι) : Effect ι :=
  match p.isClosed, p.borrows.find? (·.phase.isWaiting) with
  | false, some b => (p.moveTo b.id .granted, [.wake (.turn b.id)])
  | _, _ => ({ p with free := p.free + 1 }, [])

/-- Takes an item back (`PoolInner::release`). -/
def putBack (p : Pool ι) (isValid : ι → Bool) (item : ι) : Effect ι :=
  if p.isClosed then (p, [.closeItem .nobody item])
  else if isValid item then ({ p with idle := item :: p.idle }, [])
  else (p, [.log (.warn "discarding invalid pool item")])

/-- Ends a borrow, when a `Pooled` is dropped: the item comes back first, then the permit. -/
def giveBack (p : Pool ι) (isValid : ι → Bool) (b : BorrowId) (item : ι) : Effect ι :=
  let (p, back) := (p.drop b).putBack isValid item
  let (p, passed) := p.returnPermit
  (p, back ++ passed)

/-- The report about the failure of an errand in the background (`Pool::run`). -/
def errandReport (purpose : Purpose) : Outcome → List (Action ι)
  | .ok _ => []
  | .error e =>
    if purpose = .errand true then [.log (.error "pooled task failed" [("error", e.message)])] else []

/-- Tells a borrower that it gets no item. -/
def refusal (x : Borrow ι) (e : Error) : List (Action ι) := errandReport x.purpose (.error e) ++ [.refuse x.id e]

/-- Ends a borrow without an item. -/
def refuse (p : Pool ι) (x : Borrow ι) (e : Error) : Effect ι :=
  let (p, passed) := (p.drop x.id).returnPermit
  (p, passed ++ refusal x e)

/-- Hands an item to a borrower (`Pool::lend`). -/
def lend (p : Pool ι) (b : Borrow ι) (item : ι) : Effect ι :=
  (p.moveTo b.id (.lent item), match b.purpose with
    | .keep => [.lend b.id item]
    | .errand _ => [.work b.id item])

/-- A borrower that has a permit (`Pool::get`, with `PoolInner::take_idle`): the last valid item to come back, or a
new one. -/
def serve (p : Pool ι) (isValid : ι → Bool) (b : Borrow ι) : Effect ι :=
  if p.isClosed then p.refuse b closedError
  else match p.idle.dropWhile (!isValid ·) with
    | item :: rest => { p with idle := rest }.lend b item
    | [] => ({ p with idle := [] }.moveTo b.id .creating, [.create b.id])

/-! ## Closing -/

/-- Goes on closing items one after the other. -/
def closeNext (p : Pool ι) (call : Nat) : List ι → Effect ι
  | [] => ({ p with closing := none }, [.closed call])
  | item :: rest => ({ p with closing := some (call, rest) }, [.closeItem .caller item])

/-- The report about an item that could not be closed (`ChannelManager::close`). -/
def closeReport : Outcome → List (Action ι)
  | .ok _ => []
  | .error e => [.log (.error "failure to close pooled channel" [("error", e.message)])]

/-- Whether an item is being made for a borrower. -/
def awaitsItem (p : Pool ι) (b : BorrowId) : Bool :=
  match p.find? b with
  | some ⟨_, _, .creating⟩ => true
  | _ => false

/-- Whether somebody still wants an item to be closed. -/
def awaitsClose (p : Pool ι) : Closer → Bool
  | .nobody => true
  | .caller => p.closing.isSome
  | .borrower b => match p.find? b with
    | some ⟨_, _, .discarding _⟩ => true
    | _ => false

/-! ## Steps -/

/-- A new borrower takes a permit or waits for one (`Pool::get`). -/
def borrow (p : Pool ι) (isValid : ι → Bool) (b : BorrowId) (purpose : Purpose) : Effect ι :=
  let x : Borrow ι := ⟨b, purpose, .waiting⟩
  if p.isClosed then (p, refusal x closedError)
  else if p.free = 0 then ({ p with borrows := p.borrows ++ [x] }, [])
  else
    let x := { x with phase := .granted }
    { p with free := p.free - 1, borrows := p.borrows ++ [x] }.serve isValid x

/-- A borrower that waited for a permit runs: it has one, or the pool was closed. -/
def turn (p : Pool ι) (isValid : ι → Bool) (x : Borrow ι) : Effect ι :=
  match x.phase with
  | .granted => p.serve isValid x
  | .waiting => if p.isClosed then (p.drop x.id, refusal x closedError) else (p, [])
  | _ => (p, [])

/-- An item was made for a borrower, or could not be, where `Pool::get` awaits `PoolManager::create`. -/
def created (p : Pool ι) (x : Borrow ι) : Except Error ι → Effect ι
  | .error e => p.refuse x e
  | .ok item =>
    if p.isClosed then (p.moveTo x.id (.discarding item), [.closeItem (.borrower x.id) item])
    else p.lend x item

/-- A borrower goes away, whatever it was doing. An errand in the background goes on. -/
def abandon (p : Pool ι) (isValid : ι → Bool) (x : Borrow ι) : Effect ι :=
  if x.purpose = .errand true then (p, [])
  else match x.phase with
    | .waiting => (p.drop x.id, [])
    | .granted | .creating | .discarding _ => (p.drop x.id).returnPermit
    | .lent item => p.giveBack isValid x.id item

/-- Refuses borrowers from now on and closes the idle items, the first to come back first (`Pool::close`). -/
def close (p : Pool ι) (call : Nat) : Effect ι :=
  if p.isClosed then (p, [.closed call])
  else
    let waiting := p.borrows.filter (·.phase.isWaiting)
    let (p', actions) := { p with isClosed := true, idle := [] }.closeNext call p.idle.reverse
    (p', waiting.map (fun b => .wake (.turn b.id)) ++ actions)

/-- Goes on after an item was closed, or could not be. -/
def afterClose (p : Pool ι) : Closer → Effect ι
  | .nobody => (p, [])
  | .caller => match p.closing with
    | some (call, rest) => p.closeNext call rest
    | none => (p, [])
  | .borrower b => match p.find? b with
    | some x => p.refuse x closedError
    | none => (p, [])

def step (p : Pool ι) (isValid : ι → Bool) : Event ι → Effect ι
  | .borrow b purpose => p.borrow isValid b purpose
  | .turn b => match p.find? b with
    | some x => p.turn isValid x
    | none => (p, [])
  | .created b result => match p.find? b with
    | some ⟨id, purpose, .creating⟩ => p.created ⟨id, purpose, .creating⟩ result
    | _ => (p, [])
  | .worked b result => match p.find? b with
    | some ⟨_, purpose, .lent item⟩ =>
      let (p, actions) := p.giveBack isValid b item
      (p, actions ++ errandReport purpose result ++ [.finish b result])
    | _ => (p, [])
  | .giveBack b => match p.find? b with
    | some ⟨_, _, .lent item⟩ => p.giveBack isValid b item
    | _ => (p, [])
  | .abandon b => match p.find? b with
    | some x => p.abandon isValid x
    | none => (p, [])
  | .close call => p.close call
  | .itemClosed closer result =>
    if p.awaitsClose closer then
      let (p, actions) := p.afterClose closer
      (p, closeReport result ++ actions)
    else (p, [])
  | .abandonClose call => match p.closing with
    | some (c, _) => if c = call then ({ p with closing := none }, []) else (p, [])
    | none => (p, [])

end Pool
end BrokerClient
