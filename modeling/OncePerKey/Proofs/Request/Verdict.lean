import OncePerKey.Proofs.Request.Account
import OncePerKey.Proofs.Request.Conduct

set_option autoImplicit false

namespace OncePerKey.Request

open Call (times)

def Snapshot (fingerprint : Option String) (captured : Captured) (cached : Cached) : Prop :=
  ∃ now lifetime, Cached.ofCaptured now captured lifetime fingerprint = .ok cached

inductive Verdict (c : Context) (fingerprint : Option String) :
    List Call → Except Failure Outcome → Prop where
  | unrun (calls : List Call) (result : Except Failure Outcome) (idle : times .operate calls = 0) :
      Verdict c fingerprint calls result
  | failed (failure : Failure) (earlier : List Call) :
      Verdict c fingerprint (.operate (.error failure) :: earlier) (.error failure)
  | unread (captured : Captured) (failure : Failure) (earlier : List Call)
      (unread : .lookup (.error failure) ∈ earlier) :
      Verdict c fingerprint (.operate (.ok captured) :: earlier)
        (.ok (.executedUncached captured .storeUnavailable))
  | notEligible (captured : Captured) (earlier : List Call)
      (refused : c.policy.isCacheable captured.status = false) :
      Verdict c fingerprint (.operate (.ok captured) :: earlier)
        (.ok (.executedUncached captured .notEligible))
  | unstorable (captured : Captured) (earlier : List Call) (lifetime : Int) (now : Timestamp)
      (fault : SnapshotFault) (lives : c.policy.lifetime? = some lifetime)
      (snapshot : Cached.ofCaptured now captured lifetime fingerprint = .error fault)
      (other : fault ≠ .neverExpires) :
      Verdict c fingerprint (.operate (.ok captured) :: earlier)
        (.ok (.executedUncached captured .serializationFailure))
  | written (captured : Captured) (cached : Cached) (earlier : List Call)
      (snapshot : Snapshot fingerprint captured cached) :
      Verdict c fingerprint (.write cached (.ok .written) :: .operate (.ok captured) :: earlier)
        (.ok (.executedCached captured cached.expiresAt))
  | lost (captured : Captured) (cached existing : Cached) (earlier : List Call) :
      Verdict c fingerprint
        (.write cached (.ok (.alreadyExists existing)) :: .operate (.ok captured) :: earlier)
        (.ok (decision c fingerprint existing))
  | writeFailed (captured : Captured) (cached : Cached) (failure : Failure) (earlier : List Call) :
      Verdict c fingerprint (.write cached (.error failure) :: .operate (.ok captured) :: earlier)
        (.ok (.executedUncached captured .storeUnavailable))
  | released {calls : List Call} {result : Except Failure Outcome} (token : LockToken)
      (r : Except Failure Bool) (verdict : Verdict c fingerprint calls result) :
      Verdict c fingerprint (.release token r :: calls) result

inductive Ledger (c : Context) (fingerprint : Option String) : Stage → List Call → Prop where
  | early (s : Stage) (calls : List Call) (isEarly : s.isEarly = true)
      (idle : times .operate calls = 0) : Ledger c fingerprint s calls
  | ran (guard : Option LockToken) (captured : Captured) (lifetime : Int) (earlier : List Call)
      (lives : c.policy.lifetime? = some lifetime) :
      Ledger c fingerprint (.ran guard captured lifetime) (.operate (.ok captured) :: earlier)
  | stuck (guard : Option LockToken) (captured : Captured) (earlier : List Call) :
      Ledger c fingerprint (.stuck guard) (.operate (.ok captured) :: earlier)
  | writing (guard : Option LockToken) (captured : Captured) (cached : Cached) (earlier : List Call)
      (snapshot : Snapshot fingerprint captured cached) :
      Ledger c fingerprint (.writing guard captured cached) (.operate (.ok captured) :: earlier)
  | ending (s : Stage) (calls : List Call) (result : Except Failure Outcome)
      (certain : s.result? = some result) (verdict : Verdict c fingerprint calls result) :
      Ledger c fingerprint s calls

section

variable {c : Context} {fingerprint : Option String} {key : CompositeKey} {s s' : Stage}
  {calls : List Call}

theorem Ledger.leave {guard : Option LockToken} {result : Except Failure Outcome}
    (verdict : Verdict c fingerprint calls result) :
    Ledger c fingerprint (.leave guard result) calls :=
  .ending _ calls result (Stage.result?_leave guard result) verdict

theorem Ledger.await (left : Nat) (idle : times .operate calls = 0) :
    Ledger c fingerprint (.await c left) calls := by
  cases left with
  | zero => exact .ending _ calls _ rfl (.unrun calls _ idle)
  | succ left => exact .early _ calls rfl idle

theorem Ledger.idle (ledger : Ledger c fingerprint s calls) (early : s.isEarly = true) :
    times .operate calls = 0 := by
  cases ledger with
  | early _ _ _ idle => exact idle
  | ran | stuck | writing => cases early
  | ending _ _ result certain =>
    rw [isEarly_of_certain certain] at early
    cases early

theorem Ledger.of_ran {guard : Option LockToken} {captured : Captured} {lifetime : Int}
    (ledger : Ledger c fingerprint (.ran guard captured lifetime) calls) :
    c.policy.lifetime? = some lifetime ∧ ∃ earlier, calls = .operate (.ok captured) :: earlier := by
  cases ledger with
  | early _ _ early => cases early
  | ran _ _ _ earlier lives => exact ⟨lives, earlier, rfl⟩
  | ending _ _ _ certain => cases certain

theorem Ledger.of_writing {guard : Option LockToken} {captured : Captured} {cached : Cached}
    (ledger : Ledger c fingerprint (.writing guard captured cached) calls) :
    Snapshot fingerprint captured cached ∧ ∃ earlier, calls = .operate (.ok captured) :: earlier := by
  cases ledger with
  | early _ _ early => cases early
  | writing _ _ _ earlier snapshot => exact ⟨snapshot, earlier, rfl⟩
  | ending _ _ _ certain => cases certain

theorem Ledger.verdict {result : Except Failure Outcome} (ledger : Ledger c fingerprint s calls)
    (certain : s.result? = some result) : Verdict c fingerprint calls result := by
  cases ledger with
  | early _ _ early =>
    rw [isEarly_of_certain certain] at early
    cases early
  | ran | stuck | writing => cases certain
  | ending _ _ _ certain' verdict =>
    cases certain.symm.trans certain'
    exact verdict

theorem Made.unread {guard : Option LockToken} (made : Made c (.ready guard false) calls) :
    ∃ failure, .lookup (.error failure) ∈ calls := by
  cases made with
  | ready opening =>
    cases opening with
    | lockedUnread token failure | unread failure => exact ⟨failure, List.mem_cons_self⟩

theorem Ledger.move {ι : Type} {q : Ask} {r : q.Answer} (i : ι) (time : Timestamp)
    (ledger : Ledger c fingerprint s calls) (made : Made c s calls)
    (move : Move c fingerprint key s q r s') :
    Ledger c fingerprint s' ((callOf ⟨i, time, q, r⟩).toList ++ calls) := by
  cases move with
  | noted => exact ledger
  | slept | missed | missedWithoutLocks | missedAgain | passedOver | passedOverAgain | granted
  | lockFailed =>
    have idle := ledger.idle rfl
    exact .early _ _ rfl (by simpa [callOf, Call.kind] using idle)
  | found s cached looks | refused s cached looks =>
    have idle := ledger.idle (isEarly_of_looks looks)
    exact .leave (.unrun _ _ (by simpa [callOf, Call.kind] using idle))
  | polled | gaveUp | contended =>
    have idle := ledger.idle rfl
    exact .await _ (by simpa [callOf, Call.kind] using idle)
  | failed guard reachable failure => exact .leave (.failed failure calls)
  | unreachable guard captured =>
    obtain ⟨failure, unread⟩ := made.unread
    exact .leave (.unread captured failure calls unread)
  | notEligible guard captured refused => exact .leave (.notEligible captured calls refused)
  | tooLong guard captured => exact .stuck guard captured calls
  | ran guard captured lifetime _ lives => exact .ran guard captured lifetime calls lives
  | stored guard captured lifetime now cached snapshot =>
    obtain ⟨-, earlier, rfl⟩ := ledger.of_ran
    exact .writing guard captured cached earlier ⟨now, lifetime, snapshot⟩
  | unstorable guard captured lifetime now fault snapshot other =>
    obtain ⟨lives, earlier, rfl⟩ := ledger.of_ran
    exact .leave (.unstorable captured earlier lifetime now fault lives snapshot other)
  | beyondCalendar guard captured lifetime now =>
    obtain ⟨-, earlier, rfl⟩ := ledger.of_ran
    exact .stuck guard captured earlier
  | written guard captured cached =>
    obtain ⟨snapshot, earlier, rfl⟩ := ledger.of_writing
    exact .leave (.written captured cached earlier snapshot)
  | lost guard captured cached existing =>
    obtain ⟨-, earlier, rfl⟩ := ledger.of_writing
    exact .leave (.lost captured cached existing earlier)
  | writeFailed guard captured cached failure =>
    obtain ⟨-, earlier, rfl⟩ := ledger.of_writing
    exact .leave (.writeFailed captured cached failure earlier)
  | released token result r => exact .ending _ _ result rfl (.released token r (ledger.verdict rfl))

theorem Ledger.start (r : Request) : Ledger c fingerprint (.start c r) [] := by
  unfold Stage.start
  split
  · exact .early _ _ rfl rfl
  · exact .ending _ _ _ rfl (.unrun _ _ rfl)

end

section

variable {S : Surroundings Ask Ask.Answer} {ι : Type} [DecidableEq ι] {contexts : ι → Context}
  {requests : ι → Request} {w₀ w : World S ι (Except Failure Outcome)}

theorem ledger_of_reaches (starts : w₀.Starts fun i => execute (contexts i) (requests i))
    (run : World.Reaches w₀ w) (i : ι) :
    Ledger (contexts i) (requests i).fingerprint (stageOf (contexts i) (requests i) i w.history)
      (calls i w.history) := by
  refine stageOf_induction
    (P := fun w s => Ledger (contexts i) (requests i).fingerprint s (calls i w.history)) starts rfl
    ?_ (fun u v s _ same ledger => ?_) (fun v q next r s s' run _ _ move ledger => ?_) run
  · rw [starts.2]
    exact .start (requests i)
  · rw [calls, shownBy_congr same]
    exact ledger
  · rw [World.answered_history, calls, shownBy_cons_self]
    exact ledger.move i v.now (made_of_reaches starts (i := i) rfl run) move

theorem verdict_of_done (starts : w₀.Starts fun i => execute (contexts i) (requests i))
    (run : World.Reaches w₀ w) {i : ι} {result : Except Failure Outcome}
    (ended : w.tasks i = .done result) :
    Verdict (contexts i) (requests i).fingerprint (calls i w.history) result := by
  have ledger := ledger_of_reaches starts run i
  rw [stageOf_of_done starts run ended] at ledger
  exact ledger.verdict rfl

end

end OncePerKey.Request
