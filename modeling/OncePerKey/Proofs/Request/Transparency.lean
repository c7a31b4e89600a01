import OncePerKey.Proofs.Request.Upshot
import OncePerKey.Proofs.Request.Verdict

set_option autoImplicit false

namespace OncePerKey.Request

structure Transparent (c : Context) (fingerprint : Option String) (calls : List Call)
    (result : Except Failure Outcome) : Prop where
  failure_iff : ∀ failure, result = .error failure ↔
    .operate (.error failure) ∈ calls ∨
      c.policy.failOpen = false ∧ .lookup (.error failure) ∈ calls
  open_failure : c.policy.failOpen = true → ∀ failure, result = .error failure →
    .operate (.error failure) ∈ calls
  failure_unwritten : ∀ failure, result = .error failure → ∀ offered r, .write offered r ∉ calls
  -- What the operation gave is passed on as it is, unless the store shows an earlier response.
  lost : ∀ captured offered existing, .operate (.ok captured) ∈ calls →
    .write offered (.ok (.alreadyExists existing)) ∈ calls →
    result = .ok (decision c fingerprint existing)
  kept : ∀ captured, .operate (.ok captured) ∈ calls →
    (∀ offered existing, .write offered (.ok (.alreadyExists existing)) ∉ calls) →
    (∃ expiresAt, result = .ok (.executedCached captured expiresAt)) ∨
      ∃ reason, result = .ok (.executedUncached captured reason)
  executed : ∀ captured, (∃ expiresAt, result = .ok (.executedCached captured expiresAt)) ∨
    (∃ reason, result = .ok (.executedUncached captured reason)) → .operate (.ok captured) ∈ calls
  unavailable_iff : ∀ captured, .operate (.ok captured) ∈ calls →
    (result = .ok (.executedUncached captured .storeUnavailable) ↔
      (∃ failure, .lookup (.error failure) ∈ calls) ∨
        ∃ offered failure, .write offered (.error failure) ∈ calls)
  ineligible_iff : ∀ captured, .operate (.ok captured) ∈ calls →
    (result = .ok (.executedUncached captured .notEligible) ↔
      (∀ failure, .lookup (.error failure) ∉ calls) ∧ c.policy.isCacheable captured.status = false)
  unstorable : ∀ captured, result = .ok (.executedUncached captured .serializationFailure) →
    ∀ now lifetime mark cached, Cached.ofCaptured now captured lifetime mark ≠ .ok cached

structure Heard (calls : List Call) (unread : Option Failure)
    (ran : Option (Except Failure Captured))
    (wrote : Option (Cached × Except Failure WriteOutcome)) : Prop where
  lookup_iff : ∀ failure, .lookup (.error failure) ∈ calls ↔ unread = some failure
  operate_iff : ∀ r, .operate r ∈ calls ↔ ran = some r
  write_iff : ∀ offered r, .write offered r ∈ calls ↔ wrote = some (offered, r)

inductive Passed (c : Context) (fingerprint : Option String) : Option Failure →
    Option (Except Failure Captured) → Option (Cached × Except Failure WriteOutcome) →
    Except Failure Outcome → Prop where
  | idle {unread : Option Failure} (opens : unread = none ∨ c.policy.failOpen = true)
      {outcome : Outcome} (other : outcome.executed = false) :
      Passed c fingerprint unread none none (.ok outcome)
  | refused (failure : Failure) (closed : c.policy.failOpen = false) :
      Passed c fingerprint (some failure) none none (.error failure)
  | failed {unread : Option Failure} (opens : unread = none ∨ c.policy.failOpen = true)
      (failure : Failure) :
      Passed c fingerprint unread (some (.error failure)) none (.error failure)
  | unread (failure : Failure) (opens : c.policy.failOpen = true) (captured : Captured) :
      Passed c fingerprint (some failure) (some (.ok captured)) none
        (.ok (.executedUncached captured .storeUnavailable))
  | notEligible (captured : Captured) (refused : c.policy.isCacheable captured.status = false) :
      Passed c fingerprint none (some (.ok captured)) none
        (.ok (.executedUncached captured .notEligible))
  | unstorable (captured : Captured) (eligible : c.policy.isCacheable captured.status = true)
      (never : ∀ now lifetime mark cached, Cached.ofCaptured now captured lifetime mark ≠ .ok cached) :
      Passed c fingerprint none (some (.ok captured)) none
        (.ok (.executedUncached captured .serializationFailure))
  | written (captured : Captured) (eligible : c.policy.isCacheable captured.status = true)
      (cached : Cached) :
      Passed c fingerprint none (some (.ok captured)) (some (cached, .ok .written))
        (.ok (.executedCached captured cached.expiresAt))
  | lost (captured : Captured) (eligible : c.policy.isCacheable captured.status = true)
      (offered existing : Cached) :
      Passed c fingerprint none (some (.ok captured)) (some (offered, .ok (.alreadyExists existing)))
        (.ok (decision c fingerprint existing))
  | writeFailed (captured : Captured) (eligible : c.policy.isCacheable captured.status = true)
      (cached : Cached) (failure : Failure) :
      Passed c fingerprint none (some (.ok captured)) (some (cached, .error failure))
        (.ok (.executedUncached captured .storeUnavailable))

section

variable {c : Context} {fingerprint : Option String} {guard : Option LockToken} {reachable : Bool}
  {calls : List Call} {result : Except Failure Outcome} {unread : Option Failure}
  {ran : Option (Except Failure Captured)} {wrote : Option (Cached × Except Failure WriteOutcome)}

theorem Passed.failure_iff (passed : Passed c fingerprint unread ran wrote result) (failure : Failure) :
    result = .error failure ↔
      ran = some (.error failure) ∨ c.policy.failOpen = false ∧ unread = some failure := by
  cases passed with
  | idle opens =>
    rcases opens with rfl | opens
    · simp
    · simp [opens]
  | refused other closed => simp [closed, eq_comm]
  | failed opens other =>
    rcases opens with rfl | opens
    · simp
    · simp [opens]
  | unread other opens captured => simp [opens]
  | notEligible | unstorable | written | lost | writeFailed => simp

theorem Passed.unwritten {failure : Failure}
    (passed : Passed c fingerprint unread ran wrote (.error failure)) : wrote = none := by
  cases passed <;> rfl

theorem Passed.eq_decision {captured : Captured} {offered existing : Cached}
    (passed : Passed c fingerprint unread (some (.ok captured))
      (some (offered, .ok (.alreadyExists existing))) result) :
    result = .ok (decision c fingerprint existing) := by
  cases passed
  rfl

theorem Passed.kept {captured : Captured}
    (passed : Passed c fingerprint unread (some (.ok captured)) wrote result)
    (won : ∀ offered existing, wrote ≠ some (offered, .ok (.alreadyExists existing))) :
    (∃ expiresAt, result = .ok (.executedCached captured expiresAt)) ∨
      ∃ reason, result = .ok (.executedUncached captured reason) := by
  cases passed with
  | unread | notEligible | unstorable | writeFailed => exact .inr ⟨_, rfl⟩
  | written => exact .inl ⟨_, rfl⟩
  | lost _ _ offered existing => exact absurd rfl (won offered existing)

theorem Passed.executed {captured : Captured} (passed : Passed c fingerprint unread ran wrote result)
    (ended : (∃ expiresAt, result = .ok (.executedCached captured expiresAt)) ∨
      ∃ reason, result = .ok (.executedUncached captured reason)) : ran = some (.ok captured) := by
  cases passed with
  | idle opens other => simp [Outcome.ne_of_not_executed other] at ended
  | refused | failed => simp at ended
  | unread | notEligible | unstorable | writeFailed | written => simpa [eq_comm] using ended
  | lost _ _ offered existing =>
    simp [Outcome.ne_of_not_executed (decision_executed c fingerprint existing)] at ended

theorem Passed.unavailable_iff {captured : Captured}
    (passed : Passed c fingerprint unread (some (.ok captured)) wrote result) :
    result = .ok (.executedUncached captured .storeUnavailable) ↔
      (∃ failure, unread = some failure) ∨ ∃ offered failure, wrote = some (offered, .error failure) := by
  cases passed with
  | unread | notEligible | unstorable | written | writeFailed => simp
  | lost _ _ offered existing =>
    simp [Outcome.ne_of_not_executed (decision_executed c fingerprint existing)]

theorem Passed.ineligible_iff {captured : Captured}
    (passed : Passed c fingerprint unread (some (.ok captured)) wrote result) :
    result = .ok (.executedUncached captured .notEligible) ↔
      unread = none ∧ c.policy.isCacheable captured.status = false := by
  cases passed with
  | unread => simp
  | notEligible _ refused => simp [refused]
  | unstorable _ eligible | written _ eligible | writeFailed _ eligible => simp [eligible]
  | lost _ eligible offered existing =>
    simp [eligible, Outcome.ne_of_not_executed (decision_executed c fingerprint existing)]

theorem Passed.unstorable_of_result {captured : Captured}
    (passed : Passed c fingerprint unread ran wrote
      (.ok (.executedUncached captured .serializationFailure))) (now : Timestamp) (lifetime : Int)
    (mark : Option String) (cached : Cached) :
    Cached.ofCaptured now captured lifetime mark ≠ .ok cached := by
  generalize ended : Except.ok (Outcome.executedUncached captured .serializationFailure) = result at passed
  cases passed with
  | idle opens other =>
    cases ended
    cases other
  | unstorable _ eligible never =>
    cases ended
    exact never now lifetime mark cached
  | lost _ _ offered existing =>
    have other := decision_executed c fingerprint existing
    rw [← Except.ok.inj ended] at other
    cases other
  | _ => cases ended

theorem Heard.transparent (heard : Heard calls unread ran wrote)
    (passed : Passed c fingerprint unread ran wrote result) : Transparent c fingerprint calls result where
  failure_iff failure := by
    rw [heard.operate_iff, heard.lookup_iff]
    exact passed.failure_iff failure
  open_failure opens failure ended := by
    rw [heard.operate_iff]
    simpa [opens] using (passed.failure_iff failure).1 ended
  failure_unwritten failure ended offered r := by
    subst ended
    simp [heard.write_iff, passed.unwritten]
  lost captured offered existing run written := by
    rw [heard.operate_iff] at run
    rw [heard.write_iff] at written
    subst run written
    exact passed.eq_decision
  kept captured run won := by
    rw [heard.operate_iff] at run
    simp only [heard.write_iff] at won
    subst run
    exact passed.kept won
  executed captured ended := (heard.operate_iff _).2 (passed.executed ended)
  unavailable_iff captured run := by
    rw [heard.operate_iff] at run
    subst run
    simp only [heard.lookup_iff, heard.write_iff]
    exact passed.unavailable_iff
  ineligible_iff captured run := by
    rw [heard.operate_iff] at run
    subst run
    simp only [heard.lookup_iff, ← Option.eq_none_iff_forall_ne_some]
    exact passed.ineligible_iff
  unstorable captured ended := by
    subst ended
    exact passed.unstorable_of_result

end

section

variable {c : Context} {fingerprint : Option String} {guard : Option LockToken} {reachable : Bool}
  {calls : List Call} {result : Except Failure Outcome} {unread : Option Failure}
  {ran : Option (Except Failure Captured)} {wrote : Option (Cached × Except Failure WriteOutcome)}

theorem Heard.nil : Heard [] none none none := by
  constructor <;> simp

theorem Heard.cons {call : Call} (heard : Heard calls unread ran wrote)
    (look : ∀ failure, .lookup (.error failure) ≠ call) (operate : ∀ r, .operate r ≠ call)
    (write : ∀ offered r, .write offered r ≠ call) : Heard (call :: calls) unread ran wrote where
  lookup_iff failure := by simp [look, heard.lookup_iff]
  operate_iff r := by simp [operate, heard.operate_iff]
  write_iff offered r := by simp [write, heard.write_iff]

theorem Heard.looked (heard : Heard calls unread ran wrote) (r : Option Cached) :
    Heard (.lookup (.ok r) :: calls) unread ran wrote :=
  heard.cons (by simp) (by simp) (by simp)

theorem Heard.acquired (heard : Heard calls unread ran wrote)
    (r : Except Failure (Option LockToken)) : Heard (.acquire r :: calls) unread ran wrote :=
  heard.cons (by simp) (by simp) (by simp)

theorem Heard.released (heard : Heard calls unread ran wrote) (token : LockToken)
    (r : Except Failure Bool) : Heard (.release token r :: calls) unread ran wrote :=
  heard.cons (by simp) (by simp) (by simp)

theorem Heard.lookFailed (heard : Heard calls none ran wrote) (failure : Failure) :
    Heard (.lookup (.error failure) :: calls) (some failure) ran wrote where
  lookup_iff other := by simp [heard.lookup_iff, eq_comm]
  operate_iff r := by simpa using heard.operate_iff r
  write_iff offered r := by simpa using heard.write_iff offered r

theorem Heard.operated (heard : Heard calls unread none wrote) (r : Except Failure Captured) :
    Heard (.operate r :: calls) unread (some r) wrote where
  lookup_iff failure := by simpa using heard.lookup_iff failure
  operate_iff other := by simp [heard.operate_iff, eq_comm]
  write_iff offered r := by simpa using heard.write_iff offered r

theorem Heard.stored (heard : Heard calls unread ran none) (offered : Cached)
    (r : Except Failure WriteOutcome) :
    Heard (.write offered r :: calls) unread ran (some (offered, r)) where
  lookup_iff failure := by simpa using heard.lookup_iff failure
  operate_iff r := by simpa using heard.operate_iff r
  write_iff other r := by simp [heard.write_iff, eq_comm]

theorem Heard.awaited (misses : Nat) : Heard (awaited misses) none none none := by
  induction misses with
  | zero => exact (Heard.nil.looked none).acquired (.ok none)
  | succ misses ih => exact ih.looked none

theorem Opening.heard (opening : Opening c guard true calls) : Heard calls none none none := by
  have missed := Heard.nil.looked none
  cases opening with
  | locked token => exact (missed.acquired _).looked none
  | withoutLocks => exact missed
  | lockFailed failure => exact missed.acquired _

theorem Opening.heard_unread (opening : Opening c guard false calls) :
    ∃ failure, Heard calls (some failure) none none ∧ c.policy.failOpen = true := by
  cases opening with
  | lockedUnread token failure opens =>
    exact ⟨failure, ((Heard.nil.looked none).acquired _).lookFailed failure, opens⟩
  | unread failure opens => exact ⟨failure, Heard.nil.lookFailed failure, opens⟩

theorem Opening.heard_wrote (opening : Opening c guard true calls) {captured : Captured}
    (offered : Cached) (r : Except Failure WriteOutcome) :
    Heard (.write offered r :: .operate (.ok captured) :: calls) none (some (.ok captured))
      (some (offered, r)) :=
  (opening.heard.operated (.ok captured)).stored offered r

theorem Looking.heard (looking : Looking c guard calls) : Heard calls none none none := by
  cases looking with
  | first => exact .nil
  | again token => exact (Heard.nil.looked none).acquired _
  | poll misses => exact .awaited misses

theorem Upshot.passed (upshot : Upshot c fingerprint guard calls result) (valid : c.policy.Valid) :
    ∃ unread ran wrote, Heard calls unread ran wrote ∧
      Passed c fingerprint unread ran wrote result := by
  cases upshot with
  | rejected reason => exact ⟨_, _, _, .nil, .idle (.inl rfl) rfl⟩
  | found cached finding =>
    cases finding with
    | looked looking =>
      have other := decision_executed c fingerprint cached
      exact ⟨_, _, _, looking.heard.looked _, .idle (.inl rfl) other⟩
    | lost opening stores offered =>
      exact ⟨_, _, _, opening.heard_wrote offered _, .lost _ stores.1 offered cached⟩
  | refused looking failure closed =>
    exact ⟨_, _, _, looking.heard.lookFailed failure, .refused failure closed⟩
  | gaveUp misses allowed failure opens =>
    exact ⟨_, _, _, (Heard.awaited misses).lookFailed failure, .idle (.inr opens) rfl⟩
  | contended => exact ⟨_, _, _, .awaited c.polls, .idle (.inl rfl) rfl⟩
  | @failed _ reachable _ opening failure =>
    cases reachable with
    | true => exact ⟨_, _, _, opening.heard.operated _, .failed (.inl rfl) failure⟩
    | false =>
      obtain ⟨_, heard, opens⟩ := opening.heard_unread
      exact ⟨_, _, _, heard.operated _, .failed (.inr opens) failure⟩
  | unread opening captured =>
    obtain ⟨failure, heard, opens⟩ := opening.heard_unread
    exact ⟨_, _, _, heard.operated _, .unread failure opens captured⟩
  | notEligible opening captured refused =>
    exact ⟨_, _, _, opening.heard.operated _, .notEligible captured refused⟩
  | unstorable opening captured lifetime now fault eligible lives snapshot other =>
    have never := Cached.ofCaptured_ne_ok (Policy.lifetime_pos valid lives) snapshot other
    exact ⟨_, _, _, opening.heard.operated _, .unstorable captured eligible never⟩
  | written opening stores cached =>
    exact ⟨_, _, _, opening.heard_wrote cached _, .written _ stores.1 cached⟩
  | writeFailed opening stores cached failure =>
    exact ⟨_, _, _, opening.heard_wrote cached _, .writeFailed _ stores.1 cached failure⟩

theorem Ended.transparent (ended : Ended c fingerprint calls result) (valid : c.policy.Valid) :
    Transparent c fingerprint calls result := by
  cases ended with
  | unlocked upshot =>
    obtain ⟨_, _, _, heard, passed⟩ := upshot.passed valid
    exact heard.transparent passed
  | released token r upshot =>
    obtain ⟨_, _, _, heard, passed⟩ := upshot.passed valid
    exact (heard.released token r).transparent passed

end

section

variable {S : Surroundings Ask Ask.Answer} {ι : Type} [DecidableEq ι] {contexts : ι → Context}
  {requests : ι → Request} {w₀ w : World S ι (Except Failure Outcome)} {i : ι}

-- Surroundings that leave no question without an answer and show no moment close to the end of the calendar.
structure Context.Attended (c : Context) (S : Surroundings Ask Ask.Answer) : Prop where
  answered : ∀ now s q, q ≠ .abort → ∃ r s', S.answers now s q r s'
  dated : ∀ now s r s', S.answers now s .now r s' →
    Timestamp.plus? r (c.policy.expirationSecs.toNat * nanosPerSecond) ≠ none

theorem result_of_release (starts : w₀.Starts fun i => execute (contexts i) (requests i))
    (run : World.Reaches w₀ w) {token : LockToken}
    {next : Except Failure Bool → Handling (Except Failure Outcome)}
    (asks : w.tasks i = .ask (.release token) next) :
    ∃ result, ∀ u a, World.Reaches w u → u.tasks i = .done a → a = result := by
  rcases question_of_ask starts rfl run asks with ⟨note, same⟩ | asked
  · exact nomatch same
  · cases stage : stageOf (contexts i) (requests i) i w.history with
    | leaving other result =>
      refine ⟨result, fun u a more ended => ?_⟩
      have certain := certain_of_reaches starts run more (i := i) (by rw [stage]; rfl)
      rw [stageOf_of_done starts (run.trans more) ended] at certain
      exact Option.some.inj certain
    | _ => simp [stage, Stage.question] at asked

theorem exists_done_of_attended (starts : w₀.Starts fun i => execute (contexts i) (requests i))
    (run : World.Reaches w₀ w) (valid : (contexts i).policy.Valid)
    (attended : (contexts i).Attended S) :
    ∃ u result, World.Reaches w u ∧ u.now = w.now ∧ u.tasks i = .done result := by
  refine World.exists_done fun u q next more _ asks => attended.answered u.now u.state q ?_
  rintro rfl
  obtain ⟨time, now, shown, beyond⟩ := sawTooLate_of_abort starts (run.trans more) valid asks
  obtain ⟨v, v', happened⟩ := World.happened_of_mem starts.2 (run.trans more) shown
  exact attended.dated _ _ _ _ happened.answers beyond

-- A request ends as its calls say, whatever comes of giving its lock back.
theorem execute_transparent (starts : w₀.Starts fun i => execute (contexts i) (requests i))
    (run : World.Reaches w₀ w) (valid : (contexts i).policy.Valid) :
    (∀ result, w.tasks i = .done result →
      Transparent (contexts i) (requests i).fingerprint (calls i w.history) result) ∧
    (∀ token next, w.tasks i = .ask (.release token) next →
      ∃ result, ∀ u a, World.Reaches w u → u.tasks i = .done a → a = result) ∧
    ((contexts i).Attended S →
      ∃ u result, World.Reaches w u ∧ u.now = w.now ∧ u.tasks i = .done result) := by
  refine ⟨fun result ended => ?_, fun token next asks => ?_, fun attended => ?_⟩
  · exact (ended_of_done starts run ended).transparent valid
  · exact result_of_release starts run asks
  · exact exists_done_of_attended starts run valid attended

end

-- Surroundings that may answer anything, except that their clock stands still.
def atEpoch : Surroundings Ask Ask.Answer where
  State := Unit
  answers
    | _, _, .now, r, _ => r = Timestamp.epoch
    | _, _, _, _, _ => True

-- The coordinator serves until the lock is to be given back, and the store takes nothing.
def takingNothing (_ : Timestamp) (_ : Unit) : (q : Ask) → Option (q.Answer × Unit)
  | .now => some (.epoch, ())
  | .sleep _ | .report _ => some ((), ())
  | .lookup _ => some (.ok none, ())
  | .acquire _ _ => some (.ok (some orderToken), ())
  | .operate => some (.ok accepted, ())
  | .write _ _ | .release _ => some (.error down, ())
  | .abort => none

def untaken (answers : Nat) : World atEpoch Unit (Except Failure Outcome) :=
  World.play takingNothing
    { now := .epoch, state := (), history := [], tasks := fun _ => execute failingOpen placeOrder }
    (List.replicate answers ())

theorem untaken_reaches (answers : Nat) : World.Reaches (untaken 0) (untaken answers) := by
  refine World.reaches_play (fun now s q r s' replied => ?_) (untaken 0) _
  cases q with
  | now =>
    cases replied
    rfl
  | _ => trivial

theorem failingOpen_attended : failingOpen.Attended atEpoch where
  answered now s q other := by
    cases q with
    | now => exact ⟨.epoch, (), rfl⟩
    | sleep | report => exact ⟨(), (), trivial⟩
    | lookup => exact ⟨.ok none, (), trivial⟩
    | write => exact ⟨.ok .written, (), trivial⟩
    | acquire => exact ⟨.ok none, (), trivial⟩
    | release => exact ⟨.ok true, (), trivial⟩
    | operate => exact ⟨.ok accepted, (), trivial⟩
    | abort => exact absurd rfl other
  dated now s r s' answers := by
    obtain rfl : r = Timestamp.epoch := answers
    decide +kernel

theorem untaken_response_is_passed_on :
    ((untaken 20).tasks () = .done (.ok (.executedUncached accepted .storeUnavailable)) ∧
      Transparent failingOpen none (calls () (untaken 20).history)
        (.ok (.executedUncached accepted .storeUnavailable))) ∧
    (∃ next, (untaken 12).tasks () = .ask (.release orderToken) next) ∧
      (∃ result, ∀ u a, World.Reaches (untaken 12) u → u.tasks () = .done a → a = result) ∧
      ∃ u result, World.Reaches (untaken 12) u ∧ u.now = .epoch ∧ u.tasks () = .done result := by
  have starts : (untaken 0).Starts fun _ => execute failingOpen placeOrder := ⟨rfl, rfl⟩
  have valid : failingOpen.policy.Valid := rfl
  have ended : (untaken 20).tasks () = .done (.ok (.executedUncached accepted .storeUnavailable)) :=
    rfl
  obtain ⟨next, asks⟩ : ∃ next, (untaken 12).tasks () = .ask (.release orderToken) next := ⟨_, rfl⟩
  obtain ⟨-, certain, ends⟩ := execute_transparent starts (untaken_reaches 12) valid
  obtain ⟨transparent, -⟩ := execute_transparent starts (untaken_reaches 20) valid
  exact ⟨⟨ended, transparent _ ended⟩, ⟨next, asks⟩, certain orderToken next asks,
    ends failingOpen_attended⟩

end OncePerKey.Request
