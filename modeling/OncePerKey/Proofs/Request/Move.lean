import OncePerKey.Proofs.Request.Stage
import OncePerKey.Request.Guard

set_option autoImplicit false

namespace OncePerKey.Request

-- The look-ups that a request may make while another holds the lock.
def Context.polls (c : Context) : Nat :=
  match c.policy.conflictPolicy with
  | .waitAndPoll => c.policy.pollAttempts.toNat
  | .returnConflict => 0

inductive Move (c : Context) (fingerprint : Option String) (key : CompositeKey) :
    Stage → (q : Ask) → q.Answer → Stage → Prop where
  | noted (s : Stage) (note : Note) : Move c fingerprint key s (.report note) () s
  | slept (left : Nat) (ms : Nat) :
      Move c fingerprint key (.waiting left) (.sleep ms) () (.polling left)
  | found (s : Stage) (cached : Cached) (looks : s.question c key = some (.lookup key)) :
      Move c fingerprint key s (.lookup key) (.ok (some cached))
        (.leave s.guard (.ok (decision c fingerprint cached)))
  | missed (locking : c.usesLock = true) :
      Move c fingerprint key .looking (.lookup key) (.ok none) .missed
  | missedWithoutLocks (locking : c.usesLock = false) :
      Move c fingerprint key .looking (.lookup key) (.ok none) (.ready none true)
  | missedAgain (token : LockToken) :
      Move c fingerprint key (.holding token) (.lookup key) (.ok none) (.ready (some token) true)
  | polled (left : Nat) :
      Move c fingerprint key (.polling left) (.lookup key) (.ok none) (.await c left)
  | refused (s : Stage) (failure : Failure) (looks : s.question c key = some (.lookup key))
      (closed : c.policy.failOpen = false) :
      Move c fingerprint key s (.lookup key) (.error failure) (.leave s.guard (.error failure))
  | passedOver (failure : Failure) (opens : c.policy.failOpen = true) :
      Move c fingerprint key .looking (.lookup key) (.error failure) (.ready none false)
  | passedOverAgain (token : LockToken) (failure : Failure) (opens : c.policy.failOpen = true) :
      Move c fingerprint key (.holding token) (.lookup key) (.error failure)
        (.ready (some token) false)
  | gaveUp (left : Nat) (failure : Failure) (opens : c.policy.failOpen = true) :
      Move c fingerprint key (.polling left) (.lookup key) (.error failure) (.await c 0)
  | granted (token : LockToken) (lifetime : Nat) :
      Move c fingerprint key .missed (.acquire key lifetime) (.ok (some token)) (.holding token)
  | contended (left : Nat) (lifetime : Nat) (allowed : left = c.polls) :
      Move c fingerprint key .missed (.acquire key lifetime) (.ok none) (.await c left)
  | lockFailed (failure : Failure) (lifetime : Nat) :
      Move c fingerprint key .missed (.acquire key lifetime) (.error failure) (.ready none true)
  | failed (guard : Option LockToken) (reachable : Bool) (failure : Failure) :
      Move c fingerprint key (.ready guard reachable) .operate (.error failure)
        (.leave guard (.error failure))
  | unreachable (guard : Option LockToken) (captured : Captured) :
      Move c fingerprint key (.ready guard false) .operate (.ok captured)
        (.leave guard (.ok (.executedUncached captured .storeUnavailable)))
  | notEligible (guard : Option LockToken) (captured : Captured)
      (refused : c.policy.isCacheable captured.status = false) :
      Move c fingerprint key (.ready guard true) .operate (.ok captured)
        (.leave guard (.ok (.executedUncached captured .notEligible)))
  | tooLong (guard : Option LockToken) (captured : Captured) (endless : c.policy.lifetime? = none) :
      Move c fingerprint key (.ready guard true) .operate (.ok captured) (.stuck guard)
  | ran (guard : Option LockToken) (captured : Captured) (lifetime : Int)
      (eligible : c.policy.isCacheable captured.status = true)
      (lives : c.policy.lifetime? = some lifetime) :
      Move c fingerprint key (.ready guard true) .operate (.ok captured)
        (.ran guard captured lifetime)
  | stored (guard : Option LockToken) (captured : Captured) (lifetime : Int) (now : Timestamp)
      (cached : Cached) (snapshot : Cached.ofCaptured now captured lifetime fingerprint = .ok cached) :
      Move c fingerprint key (.ran guard captured lifetime) .now now
        (.writing guard captured cached)
  | unstorable (guard : Option LockToken) (captured : Captured) (lifetime : Int) (now : Timestamp)
      (fault : SnapshotFault)
      (snapshot : Cached.ofCaptured now captured lifetime fingerprint = .error fault)
      (other : fault ≠ .neverExpires) :
      Move c fingerprint key (.ran guard captured lifetime) .now now
        (.leave guard (.ok (.executedUncached captured .serializationFailure)))
  | beyondCalendar (guard : Option LockToken) (captured : Captured) (lifetime : Int)
      (now : Timestamp)
      (snapshot : Cached.ofCaptured now captured lifetime fingerprint = .error .neverExpires) :
      Move c fingerprint key (.ran guard captured lifetime) .now now (.stuck guard)
  | written (guard : Option LockToken) (captured : Captured) (cached : Cached) :
      Move c fingerprint key (.writing guard captured cached) (.write key cached) (.ok .written)
        (.leave guard (.ok (.executedCached captured cached.expiresAt)))
  | lost (guard : Option LockToken) (captured : Captured) (cached existing : Cached) :
      Move c fingerprint key (.writing guard captured cached) (.write key cached)
        (.ok (.alreadyExists existing)) (.leave guard (.ok (decision c fingerprint existing)))
  | writeFailed (guard : Option LockToken) (captured : Captured) (cached : Cached)
      (failure : Failure) :
      Move c fingerprint key (.writing guard captured cached) (.write key cached) (.error failure)
        (.leave guard (.ok (.executedUncached captured .storeUnavailable)))
  | released (token : LockToken) (result : Except Failure Outcome) (r : Except Failure Bool) :
      Move c fingerprint key (.leaving token result) (.release token) r (.finished result)

section

variable {c : Context} {fingerprint : Option String} {key : CompositeKey}

theorem Move.of_lookup {s : Stage} (looks : s.question c key = some (.lookup key))
    (r : Except Failure (Option Cached)) :
    Move c fingerprint key s (.lookup key) r (afterLookup c fingerprint s r) := by
  match r with
  | .ok (some cached) => exact .found s cached looks
  | .ok none =>
    cases s with
    | looking =>
      cases locking : c.usesLock with
      | true =>
        simp only [afterLookup, afterMiss, locking, if_true]
        exact .missed locking
      | false =>
        simp only [afterLookup, afterMiss, locking, Bool.false_eq_true, if_false]
        exact .missedWithoutLocks locking
    | holding token => exact .missedAgain token
    | polling left => exact .polled left
    | _ => simp [Stage.question] at looks
  | .error failure =>
    by_cases opens : c.policy.failOpen
    · simp only [afterLookup, opens, if_true]
      cases s with
      | looking => exact .passedOver failure opens
      | holding token => exact .passedOverAgain token failure opens
      | polling left => exact .gaveUp left failure opens
      | _ => simp [Stage.question] at looks
    · simp only [afterLookup, opens, Bool.false_eq_true, if_false]
      exact .refused s failure looks (Bool.eq_false_iff.2 opens)

theorem Move.of_acquire (lifetime : Nat) (r : Except Failure (Option LockToken)) :
    Move c fingerprint key .missed (.acquire key lifetime) r (afterAcquire c r .missed) := by
  match r with
  | .ok (some token) => exact .granted token lifetime
  | .error failure => exact .lockFailed failure lifetime
  | .ok none =>
    cases policy : c.policy.conflictPolicy with
    | waitAndPoll =>
      simp only [afterAcquire, policy]
      exact .contended _ lifetime (by simp [Context.polls, policy])
    | returnConflict =>
      simp only [afterAcquire, policy]
      exact .contended 0 lifetime (by simp [Context.polls, policy])

theorem Move.of_operation (guard : Option LockToken) (reachable : Bool)
    (r : Except Failure Captured) :
    Move c fingerprint key (.ready guard reachable) .operate r
      (afterOperation c r (.ready guard reachable)) := by
  match r, reachable with
  | .error failure, _ => exact .failed guard _ failure
  | .ok captured, false => exact .unreachable guard captured
  | .ok captured, true =>
    simp only [afterOperation, produced, if_true]
    cases eligible : c.policy.isCacheable captured.status with
    | false => exact .notEligible guard captured eligible
    | true =>
      cases lives : c.policy.lifetime? with
      | none => exact .tooLong guard captured lives
      | some lifetime => exact .ran guard captured lifetime eligible lives

theorem Move.of_clock (guard : Option LockToken) (captured : Captured) (lifetime : Int)
    (now : Timestamp) :
    Move c fingerprint key (.ran guard captured lifetime) .now now
      (afterClock fingerprint now (.ran guard captured lifetime)) := by
  simp only [afterClock]
  cases snapshot : Cached.ofCaptured now captured lifetime fingerprint with
  | ok cached => exact .stored guard captured lifetime now cached snapshot
  | error fault =>
    cases fault with
    | neverExpires => exact .beyondCalendar guard captured lifetime now snapshot
    | lifetimeNotPositive | notText =>
      exact .unstorable guard captured lifetime now _ snapshot (by simp)

theorem Move.of_write (guard : Option LockToken) (captured : Captured) (cached : Cached)
    (r : Except Failure WriteOutcome) :
    Move c fingerprint key (.writing guard captured cached) (.write key cached) r
      (afterWrite c fingerprint r (.writing guard captured cached)) := by
  match r with
  | .ok .written => exact .written guard captured cached
  | .ok (.alreadyExists existing) => exact .lost guard captured cached existing
  | .error failure => exact .writeFailed guard captured cached failure

theorem Move.of_may {s : Stage} {q : Ask} (may : (discipline c fingerprint key).may s q)
    (r : q.Answer) : Move c fingerprint key s q r (afterAnswer c fingerprint s q r) := by
  rcases may with ⟨note, rfl⟩ | asked
  · exact .noted s note
  · cases s with
    | looking | holding token | polling left =>
      have looks := asked
      cases asked
      exact .of_lookup looks r
    | missed =>
      cases asked
      exact .of_acquire _ r
    | waiting left =>
      cases asked
      exact .slept left _
    | ready guard reachable =>
      cases asked
      exact .of_operation guard reachable r
    | ran guard captured lifetime =>
      cases asked
      exact .of_clock guard captured lifetime r
    | writing guard captured cached =>
      cases asked
      exact .of_write guard captured cached r
    | leaving token result =>
      cases asked
      exact .released token result r
    | stuck guard =>
      cases asked
      exact r.elim
    | finished result => exact nomatch asked

theorem Move.guard_after {s s' : Stage} {q : Ask} {r : q.Answer}
    (move : Move c fingerprint key s q r s') : s'.guard = guardAfter s.guard q r := by
  cases move with
  | found | refused | failed | unreachable | notEligible | unstorable | written | lost | writeFailed =>
    exact Stage.guard_leave _ _
  | polled | gaveUp | contended => exact Stage.guard_await _ _
  | _ => rfl

theorem Move.writing_of_write {s s' : Stage} {other : CompositeKey} {cached : Cached}
    {r : Except Failure WriteOutcome} (move : Move c fingerprint key s (.write other cached) r s') :
    other = key ∧ ∃ guard captured, s = .writing guard captured cached := by
  cases move <;> exact ⟨rfl, _, _, rfl⟩

theorem Move.result?_of_certain {s s' : Stage} {q : Ask} {r : q.Answer}
    {result : Except Failure Outcome} (move : Move c fingerprint key s q r s')
    (certain : s.result? = some result) : s'.result? = some result := by
  cases move with
  | noted | released => exact certain
  | found s _ looks | refused s _ looks =>
    cases s with
    | looking | holding | polling => exact nomatch certain
    | _ => exact nomatch looks
  | _ => exact nomatch certain

end

end OncePerKey.Request
