import OncePerKey.Lock.Memory
import OncePerKey.Rehearsal.Scene
import OncePerKey.Store.Memory

set_option autoImplicit false

namespace OncePerKey.Rehearsal

structure Spec where
  status : UInt16 := 200
  body : Option String := none
  contentType : Option String := none
  fingerprint : Option String := none
  createdIn : Int := 0
  expiresIn : Int := 3600000000000

def Spec.at? (s : Spec) (now : Timestamp) : Option Cached := do
  return { status := s.status, body := s.body, contentType := s.contentType
           createdAt := ← now.plus? s.createdIn, expiresAt := ← now.plus? s.expiresIn
           fingerprint := s.fingerprint }

def Spec.response {σ : Type} (s : Spec) : Task σ Cached := do
  orCrash (s.at? (← now))

inductive LookupLine where
  | miss
  | hit (response : Spec)
  | fails (detail : String)

inductive WriteLine where
  | written
  | exists_ (response : Spec)
  | fails (detail : String)

inductive AcquireLine where
  | free
  | contended
  | fails (detail : String)

inductive ReleaseLine where
  | answers (released : Bool)
  | fails (detail : String)

inductive StoreStandIn where
  | memory (store : MemoryStore)
  | scripted (lookups : List LookupLine) (writes : List WriteLine)

inductive LocksStandIn where
  | none
  | memory (locks : MemoryLocks)
  | scripted (acquires : List AcquireLine) (releases : List ReleaseLine)

inductive CallResult where
  | hit
  | miss
  | written
  | alreadyExists
  | failed
  deriving DecidableEq, Repr

inductive Call where
  | lookup (key : CompositeKey) (result : CallResult)
  | write (key : CompositeKey) (result : CallResult) (offered : Cached)
  | granted (key : CompositeKey) (lifetime holder : Nat)
  | refused (key : CompositeKey) (lifetime : Nat)
  | acquireFailed (key : CompositeKey) (lifetime : Nat)
  | released (key : CompositeKey) (holder : Nat) (released : Bool)
  | releaseFailed (key : CompositeKey) (holder : Nat)
  | operation (name : String)

structure Visit where
  atMs : Int
  endpoint : String
  method : String
  uri : String
  body : Bytes

structure StandIns where
  store : StoreStandIn
  locks : LocksStandIn
  holders : List Uuid := []
  calls : List (Int × Call) := []
  visits : List Visit := []

def nextLine {α : Type} : List α → Option α × List α
  | [] => (none, [])
  | [a] => (some a, [a])
  | a :: rest => (some a, rest)

namespace StandIns

def storeName (s : StandIns) : String :=
  match s.store with
  | .memory _ => "memory"
  | .scripted _ _ => "scripted"

def hasLocks (s : StandIns) : Bool :=
  match s.locks with
  | .none => false
  | _ => true

def memory? (s : StandIns) : Option MemoryStore :=
  match s.store with
  | .memory store => some store
  | .scripted _ _ => none

def memoryLocks? (s : StandIns) : Option MemoryLocks :=
  match s.locks with
  | .memory locks => some locks
  | _ => none

def holderNumber (s : StandIns) (token : LockToken) : Nat :=
  match s.holders.idxOf? token.holder with
  | some i => i + 1
  | none => 0

end StandIns

abbrev Playing (α : Type) := Task (Scene StandIns) α

def noteCall (call : Call) : Playing Unit := do
  let atMs := (← look).clock.atMs
  changeProps fun p => { p with calls := (atMs, call) :: p.calls }

def unreachable {α : Type} (detail : String) : Except Failure α :=
  .error (.storeUnavailable (.backend detail))

def lookup (key : CompositeKey) : Playing (Except Failure (Option Cached)) := do
  let p ← props
  match p.store with
  | .memory store =>
      let found := store.get (← now) key
      noteCall (.lookup key (if found.isSome then .hit else .miss))
      return .ok found
  | .scripted lookups writes =>
      let (line, rest) := nextLine lookups
      changeProps fun p => { p with store := .scripted rest writes }
      match line with
      | some (.hit spec) =>
          let response ← spec.response
          noteCall (.lookup key .hit)
          return .ok (some response)
      | some (.fails detail) =>
          noteCall (.lookup key .failed)
          return unreachable detail
      | _ =>
          noteCall (.lookup key .miss)
          return .ok none

def plant (key : CompositeKey) (response : Cached) : Playing (Option WriteOutcome) := do
  match (← props).store with
  | .memory store =>
      let (outcome, store) := store.set (← now) key response
      changeProps fun p => { p with store := .memory store }
      return some outcome
  | .scripted _ _ => return none

def write (key : CompositeKey) (response : Cached) : Playing (Except Failure WriteOutcome) := do
  match (← props).store with
  | .memory store =>
      let (outcome, store) := store.set (← now) key response
      changeProps fun p => { p with store := .memory store }
      let result :=
        match outcome with
        | .written => CallResult.written
        | .alreadyExists _ => .alreadyExists
      noteCall (.write key result response)
      return .ok outcome
  | .scripted lookups writes =>
      let (line, rest) := nextLine writes
      changeProps fun p => { p with store := .scripted lookups rest }
      match line with
      | some (.exists_ spec) =>
          let existing ← spec.response
          noteCall (.write key .alreadyExists response)
          return .ok (.alreadyExists existing)
      | some (.fails detail) =>
          noteCall (.write key .failed response)
          return unreachable detail
      | _ =>
          noteCall (.write key .written response)
          return .ok .written

def grant (token : LockToken) : Playing Unit := do
  changeProps fun p => { p with holders := p.holders ++ [token.holder] }
  noteCall (.granted token.key token.lifetime ((← props).holderNumber token))

def acquire (key : CompositeKey) (lifetime : Nat) :
    Playing (Except Failure (Option LockToken)) := do
  match (← props).locks with
  | .none => return .ok none
  | .memory locks =>
      let holder ← freshUuid
      match ← orCrash (locks.acquire? (← now) key lifetime holder) with
      | (some token, locks) =>
          changeProps fun p => { p with locks := .memory locks }
          grant token
          return .ok (some token)
      | (none, _) =>
          noteCall (.refused key lifetime)
          return .ok none
  | .scripted acquires releases =>
      let (line, rest) := nextLine acquires
      changeProps fun p => { p with locks := .scripted rest releases }
      match line with
      | some .contended =>
          noteCall (.refused key lifetime)
          return .ok none
      | some (.fails detail) =>
          noteCall (.acquireFailed key lifetime)
          return unreachable detail
      | _ =>
          let token : LockToken :=
            { key, holder := ← freshUuid, acquiredAt := ← now, lifetime }
          grant token
          return .ok (some token)

def release (token : LockToken) : Playing (Except Failure Bool) := do
  let p ← props
  let holder := p.holderNumber token
  match p.locks with
  | .none => return .ok false
  | .memory locks =>
      let (released, locks) := locks.release token
      changeProps fun p => { p with locks := .memory locks }
      noteCall (.released token.key holder released)
      return .ok released
  | .scripted acquires releases =>
      let (line, rest) := nextLine releases
      changeProps fun p => { p with locks := .scripted acquires rest }
      match line with
      | some (.fails detail) =>
          noteCall (.releaseFailed token.key holder)
          return unreachable detail
      | some (.answers released) =>
          noteCall (.released token.key holder released)
          return .ok released
      | none =>
          noteCall (.released token.key holder true)
          return .ok true

def deleteInMemory (now : Timestamp) (limit : Int64) : Playing (Except Failure UInt64) :=
  updateProps fun p =>
    match p.store with
    | .memory store =>
        let (deleted, store) := store.deleteExpired now limit.toInt
        (.ok (.ofNat deleted), { p with store := .memory store })
    | .scripted _ _ => (.ok 0, p)

def StandIns.backend : Backend StandIns where
  lookup _ := Rehearsal.lookup
  write _ := Rehearsal.write
  acquire _ := Rehearsal.acquire
  release _ := Rehearsal.release
  pause := sleep

inductive Act where
  | crashes
  | fails (failure : Failure)
  | answers (response : Captured)

structure Operation where
  name : String := ""
  planted : Option Spec := none
  delayMs : Nat := 0
  act : Act

def Operation.run {β : Type} (op : Operation) (task : Nat) (plant : Spec → Task (Scene β) Unit)
    (pause : Nat → Task (Scene β) Unit) (called : Task (Scene β) Unit) :
    Task (Scene β) (Except Failure Captured) := do
  change fun s => { s with ran := task :: s.ran }
  called
  match op.planted with
  | some spec => plant spec
  | none => pure ()
  if op.delayMs > 0 then pause op.delayMs
  match op.act with
  | .crashes => crash
  | .fails failure => return .error failure
  | .answers response => return .ok response

def keyOf (c : Request.Context) (r : Request) : CompositeKey :=
  match Request.parseKey c r with
  | .ok key => CompositeKey.build r.method r.route key
  | .error _ => default

def play (c : Request.Context) (task : Nat) (r : Request) (op : Operation) :
    Playing (Finished (Except Failure Outcome)) :=
  let operate := op.run task
    (fun spec => do let _ ← plant (keyOf c r) (← spec.response)) sleep
    (noteCall (.operation op.name))
  finishing task (StandIns.backend.handle task operate (Request.execute c r))

end OncePerKey.Rehearsal
