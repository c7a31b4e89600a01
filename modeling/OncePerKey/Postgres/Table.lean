import OncePerKey.Key.Composite
import OncePerKey.Response.Basic

set_option autoImplicit false

namespace OncePerKey.Postgres

structure Row where
  id : Uuid
  key : CompositeKey
  status : Int
  body : Option String
  contentType : Option String
  fingerprint : Option String
  createdAt : Timestamp
  expiresAt : Timestamp
  deriving DecidableEq

def countedFrom : Int := 946684800000000000

-- Microseconds are counted from 2000 and what is left over is dropped, so a moment before 2000 is put off.
def inMicros (t : Timestamp) : Timestamp :=
  (Timestamp.ofNanos? (countedFrom + Int.tdiv (t.toNanos - countedFrom) 1000 * 1000)).getD t

def Row.ofResponse (id : Uuid) (key : CompositeKey) (r : Cached) : Row :=
  { id, key, status := r.status.toNat, body := r.body, contentType := r.contentType
    fingerprint := r.fingerprint, createdAt := inMicros r.createdAt
    expiresAt := inMicros r.expiresAt }

-- The response of a row, unless its status is none.
def Row.response (row : Row) : Except Failure Cached :=
  if 0 ≤ row.status ∧ row.status < 65536 then
    .ok { status := .ofNat row.status.toNat, body := row.body, contentType := row.contentType
          createdAt := row.createdAt, expiresAt := row.expiresAt, fingerprint := row.fingerprint }
  else
    .error (.storeUnavailable (.backend s!"stored status code {row.status} is out of range"))

inductive Statement where
  | select (key : CompositeKey)
  | insert (row : Row)
  | deleteStale (id : Uuid) (now : Timestamp)
  -- Delete the rows that expired first, at most `limit` of them.
  | sweep (now : Timestamp) (limit : Int)
  | ping
  deriving DecidableEq

-- The texts that a statement is sent with.
def Statement.texts : Statement → List String
  | .select key => [key.route, key.method, key.key.text]
  | .insert row => [row.key.route, row.key.method, row.key.key.text] ++
      [row.body, row.contentType, row.fingerprint].reduceOption
  | .deleteStale _ _ | .sweep _ _ | .ping => []

def Statement.moments : Statement → List Timestamp
  | .insert row => [row.createdAt, row.expiresAt]
  | .deleteStale _ now | .sweep now _ => [now]
  | .select _ | .ping => []

-- The first moment that there is for a table, in November of 4714 BC.
def earliest : Timestamp := ⟨-210866803200, 0, by decide⟩

def fingerprintLength : Nat := 64

-- Spaces beyond the length of the column are not kept; nothing else may be there.
def overflows (fingerprint : String) : Bool :=
  (fingerprint.toList.drop fingerprintLength).any (· ≠ ' ')

def Row.clipped (row : Row) : Row :=
  { row with fingerprint := row.fingerprint.map fun text =>
      String.ofList (text.toList.take fingerprintLength) }

def Statement.clipped : Statement → Statement
  | .insert row => .insert row.clipped
  | s => s

def Statement.overflows : Statement → Bool
  | .insert row => row.fingerprint.any Postgres.overflows
  | _ => false

structure Refusal where
  code : String
  text : String
  deriving DecidableEq, Repr

namespace Refusal

def uniqueViolation : String := "23505"

def checkViolation : String := "23514"

def notText : Refusal := ⟨"22021", "invalid byte sequence for encoding \"UTF8\": 0x00"⟩

def outOfRange : Refusal := ⟨"22008", "timestamp out of range"⟩

def tooLong : Refusal := ⟨"22001", "value too long for type character varying(64)"⟩

def isUniqueViolation (r : Refusal) : Bool :=
  r.code = uniqueViolation

def message (r : Refusal) : String :=
  "error returned from database: " ++ r.text

def toFailure (r : Refusal) : Failure :=
  .storeUnavailable (.database r.message)

end Refusal

inductive Reply where
  | found (row : Row)
  | count (n : Nat)
  | refused (r : Refusal)
  deriving DecidableEq

-- A server does not even begin with a statement whose values fit into no table.
def Statement.misfit? (s : Statement) : Option Refusal :=
  if s.texts.any fun text => '\x00' ∈ text.toList then some Refusal.notText
  else if s.moments.any (·.before earliest) then some Refusal.outOfRange
  else if s.overflows then some Refusal.tooLong
  else none

structure Table where
  rows : List Row := []

def Row.isExpiredAt (row : Row) (now : Timestamp) : Bool :=
  !now.before row.expiresAt

namespace Table

def find? (t : Table) (key : CompositeKey) : Option Row :=
  t.rows.find? (·.key = key)

-- Why a row cannot be inserted. Its own values are looked at first.
def refusal? (t : Table) (row : Row) : Option Refusal :=
  if row.status < 100 ∨ 599 < row.status then
    some ⟨Refusal.checkViolation, "status_code check"⟩
  else if row.isExpiredAt row.createdAt then some ⟨Refusal.checkViolation, "expiry check"⟩
  else if (t.find? row.key).isSome then some ⟨Refusal.uniqueViolation, "duplicate key"⟩
  else none

def insert (t : Table) (row : Row) : Table :=
  ⟨t.rows ++ [row]⟩

def expired (t : Table) (now : Timestamp) : List Row :=
  (t.rows.filter (·.isExpiredAt now)).mergeSort fun a b => !b.expiresAt.before a.expiresAt

def delete (t : Table) (rows : List Row) : Table :=
  ⟨t.rows.filter fun row => row ∉ rows⟩

def deleting (t : Table) (rows : List Row) : Reply × Table :=
  (.count (t.rows.length - (t.delete rows).rows.length), t.delete rows)

-- What comes of a statement whose values fit.
def carry : Statement → Table → Reply × Table
  | .select key, t =>
      match t.find? key with
      | some row => (.found row, t)
      | none => (.count 0, t)
  | .insert row, t =>
      match t.refusal? row with
      | some r => (.refused r, t)
      | none => (.count 1, t.insert row)
  | .deleteStale id now, t =>
      t.deleting (t.rows.filter fun row => row.id = id && row.isExpiredAt now)
  | .sweep now limit, t =>
      if limit < 0 then (.refused ⟨"2201W", "LIMIT must not be negative"⟩, t)
      else t.deleting ((t.expired now).take limit.toNat)
  | .ping, t => (.count 1, t)

def run (s : Statement) (t : Table) : Reply × Table :=
  match s.misfit? with
  | some refusal => (.refused refusal, t)
  | none => t.carry s.clipped

theorem find?_insert_of_ne {key : CompositeKey} {row : Row} (h : row.key ≠ key) (t : Table) :
    (t.insert row).find? key = t.find? key := by
  simp [find?, insert, h]

theorem mem_delete {t : Table} {rows : List Row} {row : Row} :
    row ∈ (t.delete rows).rows ↔ row ∈ t.rows ∧ row ∉ rows := by
  simp [delete]

theorem mem_expired {t : Table} {now : Timestamp} {row : Row} :
    row ∈ t.expired now ↔ row ∈ t.rows ∧ row.isExpiredAt now = true := by
  simp [expired]

end Table

end OncePerKey.Postgres
