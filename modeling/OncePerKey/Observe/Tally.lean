import OncePerKey.Json.Schema

set_option autoImplicit false

namespace OncePerKey

structure Tally where
  requests : UInt64 := 0
  replays : UInt64 := 0
  executions : UInt64 := 0
  cached : UInt64 := 0
  lostRaces : UInt64 := 0
  conflicts : UInt64 := 0
  rejectedKeys : UInt64 := 0
  storeFailures : UInt64 := 0
  deriving DecidableEq, Repr, Inhabited

inductive Tick where
  | request
  | replay
  | execution
  | cached
  | lostRace
  | conflict
  | rejectedKey
  | storeFailure
  deriving DecidableEq, Repr

namespace Tally

def count (t : Tally) : Tick → Tally
  | .request => { t with requests := t.requests + 1 }
  | .replay => { t with replays := t.replays + 1 }
  | .execution => { t with executions := t.executions + 1 }
  | .cached => { t with cached := t.cached + 1 }
  | .lostRace => { t with lostRaces := t.lostRaces + 1 }
  | .conflict => { t with conflicts := t.conflicts + 1 }
  | .rejectedKey => { t with rejectedKeys := t.rejectedKeys + 1 }
  | .storeFailure => { t with storeFailures := t.storeFailures + 1 }

-- The share of requests that were answered from the store, 0 when there were none.
def replayRate (t : Tally) : Float :=
  if t.requests = 0 then 0.0 else t.replays.toFloat / t.requests.toFloat

def codec : Json.Codec Tally where
  schema := .record <|
    .cons "total_requests" (.natural UInt64.size) <|
    .cons "replayed_requests" (.natural UInt64.size) <|
    .cons "executed_requests" (.natural UInt64.size) <|
    .cons "cached_responses" (.natural UInt64.size) <|
    .cons "lost_races" (.natural UInt64.size) <|
    .cons "conflicts" (.natural UInt64.size) <|
    .cons "rejected_keys" (.natural UInt64.size) <|
    .cons "store_failures" (.natural UInt64.size) .nil
  toValue t :=
    (t.requests.toFin, t.replays.toFin, t.executions.toFin, t.cached.toFin, t.lostRaces.toFin,
     t.conflicts.toFin, t.rejectedKeys.toFin, t.storeFailures.toFin, ())
  ofValue := fun (requests, replays, executions, cached, lostRaces, conflicts, rejectedKeys,
      storeFailures, ()) =>
    { requests := .ofFin requests, replays := .ofFin replays, executions := .ofFin executions
      cached := .ofFin cached, lostRaces := .ofFin lostRaces, conflicts := .ofFin conflicts
      rejectedKeys := .ofFin rejectedKeys, storeFailures := .ofFin storeFailures }
  ofValue_toValue _ := rfl

end Tally

end OncePerKey
