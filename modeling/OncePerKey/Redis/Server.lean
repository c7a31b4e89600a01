import OncePerKey.Redis.Reply
import OncePerKey.Time.Timestamp

set_option autoImplicit false

namespace OncePerKey.Redis

inductive Command where
  | get (name : String)
  | setAbsent (name value : String) (px : Nat)
  | del (name : String)
  | ping
  -- Run the script that deletes a name if it has the given value.
  | deleteIf (name value : String)
  | loadScript
  deriving DecidableEq, Repr

-- The script that deletes a name if it has the given value.
def deleteIfScript : String :=
  "\nif redis.call(\"GET\", KEYS[1]) == ARGV[1] then\n"
    ++ "    return redis.call(\"DEL\", KEYS[1])\n"
    ++ "else\n"
    ++ "    return 0\nend\n"

def deleteIfDigest : String := "aefc6bbfaac1ed02c135d12b12c8c42cdfb36af4"

def Command.words : Command → List String
  | .get name => ["GET", name]
  | .setAbsent name value px => ["SET", name, value, "NX", "PX", toString px]
  | .del name => ["DEL", name]
  | .ping => ["PING"]
  | .deleteIf name value => ["EVALSHA", deleteIfDigest, "1", name, value]
  | .loadScript => ["SCRIPT", "LOAD", deleteIfScript]

structure Entry where
  value : Bytes
  -- The nanoseconds after the beginning of 1970 at which the value is gone.
  goneAt : Option Int
  deriving DecidableEq

structure Server where
  entries : List (String × Entry) := []
  knowsScript : Bool := false

namespace Server

def Entry.isLiveAt (e : Entry) (now : Timestamp) : Bool :=
  e.goneAt.all fun end_ => now.toNanos < end_

def value? (s : Server) (now : Timestamp) (name : String) : Option Bytes :=
  ((s.entries.lookup name).filter fun e => Entry.isLiveAt e now).map (·.value)

def names (s : Server) (now : Timestamp) : List String :=
  (s.entries.filter fun (_, e) => Entry.isLiveAt e now).map (·.1)

def erase (s : Server) (name : String) : Server :=
  { s with entries := s.entries.filter (·.1 ≠ name) }

def put (s : Server) (now : Timestamp) (name : String) (value : Bytes) (px : Option Nat) : Server :=
  let entry : Entry := { value, goneAt := px.map fun ms => now.toNanos + ms * 1000000 }
  { s with entries := (name, entry) :: (s.erase name).entries }

def delete (s : Server) (now : Timestamp) (name : String) : Reply × Server :=
  (.int (if (s.value? now name).isSome then 1 else 0), s.erase name)

def run (now : Timestamp) : Command → Server → Reply × Server
  | .get name, s =>
      match s.value? now name with
      | some value => (.data value, s)
      | none => (.nil, s)
  | .setAbsent name value px, s =>
      match s.value? now name with
      | some _ => (.nil, s)
      | none => (.okay, s.put now name (Utf8.encode value) (some px))
  | .del name, s => s.delete now name
  | .ping, s => (.status "PONG", s)
  | .deleteIf name value, s =>
      if !s.knowsScript then
        (.error (noScriptCode ++ " No matching script. Please use EVAL."), s)
      else if s.value? now name = some (Utf8.encode value) then s.delete now name
      else (.int 0, s)
  | .loadScript, s => (.data (Utf8.encode deleteIfDigest), { s with knowsScript := true })

theorem lookup_filter_self (name : String) (entries : List (String × Entry)) :
    (entries.filter (·.1 ≠ name)).lookup name = none := by
  rw [List.lookup_eq_none_iff]
  intro entry present
  have h : entry.1 ≠ name := by simpa using (List.mem_filter.1 present).2
  simp [Ne.symm h]

@[simp] theorem value?_erase_self (s : Server) (now : Timestamp) (name : String) :
    (s.erase name).value? now name = none := by
  simp only [value?, erase, lookup_filter_self, Option.filter_none, Option.map_none]

theorem lookup_filter_of_ne {name other : String} (h : other ≠ name)
    (entries : List (String × Entry)) :
    (entries.filter (·.1 ≠ name)).lookup other = entries.lookup other := by
  induction entries with
  | nil => rfl
  | cons entry rest ih =>
    obtain ⟨n, e⟩ := entry
    by_cases hn : n = name
    · subst hn
      simpa [List.lookup_cons, beq_false_of_ne h] using ih
    · simp only [ne_eq, hn, not_false_eq_true, decide_true, List.filter_cons_of_pos,
        List.lookup_cons]
      rw [← ih]

theorem value?_erase_of_ne {name other : String} (h : other ≠ name) (s : Server)
    (now : Timestamp) : (s.erase name).value? now other = s.value? now other := by
  simp only [value?, erase, lookup_filter_of_ne h]

theorem value?_put_of_ne {name other : String} (h : other ≠ name) (s : Server)
    (now later : Timestamp) (value : Bytes) (px : Option Nat) :
    (s.put now name value px).value? later other = s.value? later other := by
  rw [← value?_erase_of_ne h s later]
  simp [value?, put, erase, List.lookup_cons, beq_false_of_ne h]

theorem value?_put_self (s : Server) (now later : Timestamp) (name : String) (value : Bytes)
    (px : Nat) :
    (s.put now name value (some px)).value? later name =
      if later.toNanos < now.toNanos + px * 1000000 then some value else none := by
  by_cases h : later.toNanos < now.toNanos + px * 1000000 <;>
    simp [value?, put, Entry.isLiveAt, h, Option.filter]

end Server

end OncePerKey.Redis
