import OncePerKey.Proofs.Request.Conduct

set_option autoImplicit false

namespace OncePerKey.Request

-- The calls of a request that was refused the lock and has missed ever since, the last one first.
def awaited (misses : Nat) : List Call :=
  List.replicate misses .missed ++ [.contended, .missed]

inductive Looking (c : Context) : Option LockToken → List Call → Prop where
  | first : Looking c none []
  | again (token : LockToken) : Looking c (some token) [.acquire (.ok (some token)), .missed]
  | poll (misses : Nat) (allowed : misses < c.polls) : Looking c none (awaited misses)

inductive Finding (c : Context) (cached : Cached) : Option LockToken → List Call → Prop where
  | looked {guard : Option LockToken} {calls : List Call} (looking : Looking c guard calls) :
      Finding c cached guard (.lookup (.ok (some cached)) :: calls)
  | lost {guard : Option LockToken} {calls : List Call} (opening : Opening c guard true calls)
      {captured : Captured} (stores : c.Stores captured) (offered : Cached) :
      Finding c cached guard
        (.write offered (.ok (.alreadyExists cached)) :: .operate (.ok captured) :: calls)

inductive Upshot (c : Context) (fingerprint : Option String) :
    Option LockToken → List Call → Except Failure Outcome → Prop where
  | rejected (reason : InvalidKey) :
      Upshot c fingerprint none [] (.ok (.rejectedInvalidKey reason))
  | found {guard : Option LockToken} {calls : List Call} (cached : Cached)
      (finding : Finding c cached guard calls) :
      Upshot c fingerprint guard calls (.ok (decision c fingerprint cached))
  | refused {guard : Option LockToken} {calls : List Call} (looking : Looking c guard calls)
      (failure : Failure) (closed : c.policy.failOpen = false) :
      Upshot c fingerprint guard (.lookup (.error failure) :: calls) (.error failure)
  | gaveUp (misses : Nat) (allowed : misses < c.polls) (failure : Failure)
      (opens : c.policy.failOpen = true) :
      Upshot c fingerprint none (.lookup (.error failure) :: awaited misses)
        (.ok (.conflict c.policy.lockTimeoutSecs.toNat))
  | contended :
      Upshot c fingerprint none (awaited c.polls) (.ok (.conflict c.policy.lockTimeoutSecs.toNat))
  | failed {guard : Option LockToken} {reachable : Bool} {calls : List Call}
      (opening : Opening c guard reachable calls) (failure : Failure) :
      Upshot c fingerprint guard (.operate (.error failure) :: calls) (.error failure)
  | unread {guard : Option LockToken} {calls : List Call} (opening : Opening c guard false calls)
      (captured : Captured) :
      Upshot c fingerprint guard (.operate (.ok captured) :: calls)
        (.ok (.executedUncached captured .storeUnavailable))
  | notEligible {guard : Option LockToken} {calls : List Call} (opening : Opening c guard true calls)
      (captured : Captured) (refused : c.policy.isCacheable captured.status = false) :
      Upshot c fingerprint guard (.operate (.ok captured) :: calls)
        (.ok (.executedUncached captured .notEligible))
  | unstorable {guard : Option LockToken} {calls : List Call} (opening : Opening c guard true calls)
      (captured : Captured) (lifetime : Int) (now : Timestamp) (fault : SnapshotFault)
      (eligible : c.policy.isCacheable captured.status = true)
      (lives : c.policy.lifetime? = some lifetime)
      (snapshot : Cached.ofCaptured now captured lifetime fingerprint = .error fault)
      (other : fault ≠ .neverExpires) :
      Upshot c fingerprint guard (.operate (.ok captured) :: calls)
        (.ok (.executedUncached captured .serializationFailure))
  | written {guard : Option LockToken} {calls : List Call} (opening : Opening c guard true calls)
      {captured : Captured} (stores : c.Stores captured) (cached : Cached) :
      Upshot c fingerprint guard (.write cached (.ok .written) :: .operate (.ok captured) :: calls)
        (.ok (.executedCached captured cached.expiresAt))
  | writeFailed {guard : Option LockToken} {calls : List Call} (opening : Opening c guard true calls)
      {captured : Captured} (stores : c.Stores captured) (cached : Cached) (failure : Failure) :
      Upshot c fingerprint guard (.write cached (.error failure) :: .operate (.ok captured) :: calls)
        (.ok (.executedUncached captured .storeUnavailable))

inductive Ended (c : Context) (fingerprint : Option String) :
    List Call → Except Failure Outcome → Prop where
  | unlocked {calls : List Call} {result : Except Failure Outcome}
      (upshot : Upshot c fingerprint none calls result) : Ended c fingerprint calls result
  | released {calls : List Call} {result : Except Failure Outcome} (token : LockToken)
      (r : Except Failure Bool) (upshot : Upshot c fingerprint (some token) calls result) :
      Ended c fingerprint (.release token r :: calls) result

-- What a stage tells of the calls beyond `Made`.
def Foretells (c : Context) (fingerprint : Option String) : Stage → List Call → Prop
  | .waiting left, calls | .polling left, calls =>
      ∃ misses, misses + left + 1 = c.polls ∧ calls = awaited misses
  | .leaving token result, calls => Upshot c fingerprint (some token) calls result
  | .finished result, calls => Ended c fingerprint calls result
  | _, _ => True

section

variable {c : Context} {fingerprint : Option String} {key : CompositeKey} {s s' : Stage}
  {guard : Option LockToken} {calls : List Call} {result : Except Failure Outcome}

theorem Foretells.leave (upshot : Upshot c fingerprint guard calls result) :
    Foretells c fingerprint (.leave guard result) calls := by
  cases guard with
  | none => exact .unlocked upshot
  | some token => exact upshot

theorem Foretells.await (misses : Nat) {left : Nat} (all : misses + left = c.polls) :
    Foretells c fingerprint (.await c left) (awaited misses) := by
  cases left with
  | zero =>
    obtain rfl : misses = c.polls := all
    exact .unlocked .contended
  | succ left => exact ⟨misses, all, rfl⟩

theorem Foretells.looking (foretells : Foretells c fingerprint s calls) (made : Made c s calls)
    (looks : s.question c key = some (.lookup key)) : Looking c s.guard calls := by
  cases s with
  | looking =>
    cases made
    exact .first
  | holding token =>
    cases made
    exact .again token
  | polling left =>
    obtain ⟨misses, all, rfl⟩ := foretells
    exact .poll misses (by omega)
  | _ => exact nomatch looks

theorem Foretells.move {ι : Type} {q : Ask} {r : q.Answer} (i : ι) (time : Timestamp)
    (foretells : Foretells c fingerprint s calls) (made : Made c s calls)
    (move : Move c fingerprint key s q r s') :
    Foretells c fingerprint s' ((callOf ⟨i, time, q, r⟩).toList ++ calls) := by
  cases move with
  | noted | slept => exact foretells
  | missed | missedWithoutLocks | missedAgain | passedOver | passedOverAgain | granted | lockFailed
  | tooLong | ran | stored | beyondCalendar => trivial
  | found s cached looks => exact .leave (.found cached (.looked (foretells.looking made looks)))
  | refused s failure looks closed =>
    exact .leave (.refused (foretells.looking made looks) failure closed)
  | polled left =>
    obtain ⟨misses, all, rfl⟩ := foretells
    exact .await (misses + 1) (by omega)
  | gaveUp left failure opens =>
    obtain ⟨misses, all, rfl⟩ := foretells
    exact .unlocked (.gaveUp misses (by omega) failure opens)
  | contended left lifetime allowed =>
    cases made
    exact .await 0 (by omega)
  | failed guard reachable failure =>
    cases made with
    | ready opening => exact .leave (.failed opening failure)
  | unreachable guard captured =>
    cases made with
    | ready opening => exact .leave (.unread opening captured)
  | notEligible guard captured refused =>
    cases made with
    | ready opening => exact .leave (.notEligible opening captured refused)
  | unstorable guard captured lifetime now fault snapshot other =>
    cases made with
    | ran opening _ _ eligible lives =>
      exact .leave (.unstorable opening captured lifetime now fault eligible lives snapshot other)
  | written guard captured cached =>
    cases made with
    | writing opening stores => exact .leave (.written opening stores cached)
  | lost guard captured offered existing =>
    cases made with
    | writing opening stores => exact .leave (.found existing (.lost opening stores offered))
  | writeFailed guard captured cached failure =>
    cases made with
    | writing opening stores => exact .leave (.writeFailed opening stores cached failure)
  | released token result r => exact .released token r foretells

theorem Foretells.start (r : Request) : Foretells c fingerprint (.start c r) [] := by
  unfold Stage.start
  split
  · trivial
  · exact .unlocked (.rejected _)

end

section

variable {S : Surroundings Ask Ask.Answer} {ι : Type} [DecidableEq ι] {contexts : ι → Context}
  {requests : ι → Request} {w₀ w : World S ι (Except Failure Outcome)}
  {result : Except Failure Outcome}

theorem foretells_of_reaches (starts : w₀.Starts fun i => execute (contexts i) (requests i))
    (run : World.Reaches w₀ w) (i : ι) :
    Foretells (contexts i) (requests i).fingerprint (stageOf (contexts i) (requests i) i w.history)
      (calls i w.history) := by
  refine stageOf_induction
    (P := fun w s => Foretells (contexts i) (requests i).fingerprint s (calls i w.history)) starts rfl
    ?_ (fun u v s _ same foretells => ?_) (fun v q next r s s' run _ _ move foretells => ?_) run
  · rw [starts.2]
    exact .start (requests i)
  · rw [calls, shownBy_congr same]
    exact foretells
  · rw [World.answered_history, calls, shownBy_cons_self]
    exact foretells.move i v.now (made_of_reaches starts (i := i) rfl run) move

theorem ended_of_done (starts : w₀.Starts fun i => execute (contexts i) (requests i))
    (run : World.Reaches w₀ w) {i : ι} (ended : w.tasks i = .done result) :
    Ended (contexts i) (requests i).fingerprint (calls i w.history) result := by
  have foretells := foretells_of_reaches starts run i
  rw [stageOf_of_done starts run ended] at foretells
  exact foretells

end

end OncePerKey.Request
