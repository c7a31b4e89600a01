import OncePerKey.Proofs.Request.Shared
import OncePerKey.Proofs.Response.Snapshot

set_option autoImplicit false

namespace OncePerKey.Request

section

variable {ι : Type}

def operationOf : Exchange ι Ask Ask.Answer → Option (Except Failure Captured)
  | ⟨_, _, .operate, r⟩ => some r
  | _ => none

def offerOf : Exchange ι Ask Ask.Answer → Option Cached
  | ⟨_, _, .write _ response, _⟩ => some response
  | _ => none

variable [DecidableEq ι]

abbrev operations (i : ι) (history : List (Exchange ι Ask Ask.Answer)) :
    List (Except Failure Captured) :=
  shownBy operationOf i history

abbrev offers (i : ι) (history : List (Exchange ι Ask Ask.Answer)) : List Cached :=
  shownBy offerOf i history

end

def Stage.isEarly : Stage → Bool
  | .looking | .missed | .holding _ | .waiting _ | .polling _ | .ready _ _ => true
  | _ => false

inductive Ending (c : Context) (fingerprint : Option String) :
    List (Except Failure Captured) → List Cached → Except Failure Outcome → Prop where
  | unrun (result : Except Failure Outcome)
      (idle : ∀ outcome, result = .ok outcome → outcome.executed = false) :
      Ending c fingerprint [] [] result
  | failed (failure : Failure) : Ending c fingerprint [.error failure] [] (.error failure)
  | unreachable (captured : Captured) :
      Ending c fingerprint [.ok captured] [] (.ok (.executedUncached captured .storeUnavailable))
  | notEligible (captured : Captured) (refused : c.policy.isCacheable captured.status = false) :
      Ending c fingerprint [.ok captured] [] (.ok (.executedUncached captured .notEligible))
  | unstorable (captured : Captured) (lifetime : Int) (now : Timestamp) (fault : SnapshotFault)
      (lives : c.policy.lifetime? = some lifetime)
      (snapshot : Cached.ofCaptured now captured lifetime fingerprint = .error fault)
      (other : fault ≠ .neverExpires) :
      Ending c fingerprint [.ok captured] []
        (.ok (.executedUncached captured .serializationFailure))
  | written (captured : Captured) (cached : Cached) :
      Ending c fingerprint [.ok captured] [cached] (.ok (.executedCached captured cached.expiresAt))
  | lost (captured : Captured) (cached existing : Cached) :
      Ending c fingerprint [.ok captured] [cached] (.ok (decision c fingerprint existing))
  | writeFailed (captured : Captured) (cached : Cached) :
      Ending c fingerprint [.ok captured] [cached]
        (.ok (.executedUncached captured .storeUnavailable))

inductive Account (c : Context) (fingerprint : Option String) :
    Stage → List (Except Failure Captured) → List Cached → Prop where
  | early (s : Stage) (isEarly : s.isEarly = true) : Account c fingerprint s [] []
  | ran (guard : Option LockToken) (captured : Captured) (lifetime : Int)
      (lives : c.policy.lifetime? = some lifetime) :
      Account c fingerprint (.ran guard captured lifetime) [.ok captured] []
  | stuck (guard : Option LockToken) (captured : Captured) :
      Account c fingerprint (.stuck guard) [.ok captured] []
  | writing (guard : Option LockToken) (captured : Captured) (lifetime : Int) (now : Timestamp)
      (cached : Cached) (snapshot : Cached.ofCaptured now captured lifetime fingerprint = .ok cached) :
      Account c fingerprint (.writing guard captured cached) [.ok captured] []
  | ending (s : Stage) (result : Except Failure Outcome) (ran : List (Except Failure Captured))
      (offered : List Cached) (certain : s.result? = some result)
      (ends : Ending c fingerprint ran offered result) : Account c fingerprint s ran offered

section

variable {c : Context} {fingerprint : Option String} {key : CompositeKey} {s s' : Stage}
  {ran : List (Except Failure Captured)} {offered : List Cached}

theorem Account.leave {guard : Option LockToken} {result : Except Failure Outcome}
    (ends : Ending c fingerprint ran offered result) :
    Account c fingerprint (.leave guard result) ran offered :=
  .ending _ result ran offered (Stage.result?_leave guard result) ends

theorem Account.await (left : Nat) : Account c fingerprint (.await c left) [] [] := by
  cases left with
  | zero => exact .ending _ _ _ _ rfl (.unrun _ (by rintro _ ⟨⟩; rfl))
  | succ left => exact .early _ rfl

theorem isEarly_of_certain {result : Except Failure Outcome} (certain : s.result? = some result) :
    s.isEarly = false := by
  cases s with
  | leaving | finished => rfl
  | _ => exact nomatch certain

theorem Account.eq_nil (account : Account c fingerprint s ran offered) (early : s.isEarly = true) :
    ran = [] ∧ offered = [] := by
  cases account with
  | early => exact ⟨rfl, rfl⟩
  | ran | stuck | writing => exact nomatch early
  | ending _ result _ _ certain => exact nomatch (isEarly_of_certain certain).symm.trans early

theorem isEarly_of_looks (looks : s.question c key = some (.lookup key)) : s.isEarly = true := by
  cases s with
  | looking | holding | polling => rfl
  | _ => exact nomatch looks

theorem Account.move {ι : Type} {q : Ask} {r : q.Answer} (i : ι) (time : Timestamp)
    (account : Account c fingerprint s ran offered) (move : Move c fingerprint key s q r s') :
    Account c fingerprint s' ((operationOf ⟨i, time, q, r⟩).toList ++ ran)
      ((offerOf ⟨i, time, q, r⟩).toList ++ offered) := by
  cases move with
  | noted => exact account
  -- Up to the operation there is nothing to account for.
  | slept | missed | missedWithoutLocks | missedAgain | passedOver | passedOverAgain | granted
  | lockFailed =>
    obtain ⟨rfl, rfl⟩ := account.eq_nil rfl
    exact .early _ rfl
  | found s cached looks =>
    obtain ⟨rfl, rfl⟩ := account.eq_nil (isEarly_of_looks looks)
    refine .leave (.unrun _ ?_)
    rintro _ ⟨⟩
    exact decision_executed c fingerprint cached
  | refused s failure looks =>
    obtain ⟨rfl, rfl⟩ := account.eq_nil (isEarly_of_looks looks)
    refine .leave (.unrun (.error failure) ?_)
    intro outcome same
    exact nomatch same
  | polled | gaveUp | contended =>
    obtain ⟨rfl, rfl⟩ := account.eq_nil rfl
    exact .await _
  | failed guard reachable failure =>
    obtain ⟨rfl, rfl⟩ := account.eq_nil rfl
    exact .leave (.failed failure)
  | unreachable guard captured =>
    obtain ⟨rfl, rfl⟩ := account.eq_nil rfl
    exact .leave (.unreachable captured)
  | notEligible guard captured refused =>
    obtain ⟨rfl, rfl⟩ := account.eq_nil rfl
    exact .leave (.notEligible captured refused)
  | tooLong guard captured =>
    obtain ⟨rfl, rfl⟩ := account.eq_nil rfl
    exact .stuck guard captured
  | ran guard captured lifetime _ lives =>
    obtain ⟨rfl, rfl⟩ := account.eq_nil rfl
    exact .ran guard captured lifetime lives
  | stored guard captured lifetime now cached snapshot =>
    cases account with
    | early _ early => exact nomatch early
    | ending _ _ _ _ certain => exact nomatch certain
    | ran => exact .writing guard captured lifetime now cached snapshot
  | unstorable guard captured lifetime now fault snapshot other =>
    cases account with
    | early _ early => exact nomatch early
    | ending _ _ _ _ certain => exact nomatch certain
    | ran _ _ _ lives => exact .leave (.unstorable captured lifetime now fault lives snapshot other)
  | beyondCalendar guard captured lifetime now =>
    cases account with
    | early _ early => exact nomatch early
    | ending _ _ _ _ certain => exact nomatch certain
    | ran => exact .stuck guard captured
  | written guard captured cached =>
    cases account with
    | early _ early => exact nomatch early
    | ending _ _ _ _ certain => exact nomatch certain
    | writing => exact .leave (.written captured cached)
  | lost guard captured cached existing =>
    cases account with
    | early _ early => exact nomatch early
    | ending _ _ _ _ certain => exact nomatch certain
    | writing => exact .leave (.lost captured cached existing)
  | writeFailed guard captured cached =>
    cases account with
    | early _ early => exact nomatch early
    | ending _ _ _ _ certain => exact nomatch certain
    | writing => exact .leave (.writeFailed captured cached)
  | released token result =>
    cases account with
    | early _ early => exact nomatch early
    | ending _ _ _ _ certain ends =>
      cases certain
      exact .ending _ result _ _ rfl ends

theorem Account.of_writing {guard : Option LockToken} {captured : Captured} {cached : Cached}
    (account : Account c fingerprint (.writing guard captured cached) ran offered) :
    ran = [.ok captured] ∧ cached.toCaptured = captured := by
  cases account with
  | early _ early => exact nomatch early
  | writing _ _ _ _ _ snapshot => exact ⟨rfl, Cached.toCaptured_of_ofCaptured snapshot⟩
  | ending _ result _ _ certain => exact nomatch certain

theorem Account.ran_eq_of_mem (account : Account c fingerprint s ran offered)
    {r : Except Failure Captured} (present : r ∈ ran) : ran = [r] := by
  have single {r' : Except Failure Captured} (present : r ∈ [r']) : [r'] = [r] := by
    rw [List.mem_singleton.1 present]
  cases account with
  | early => exact nomatch present
  | ran | stuck | writing => exact single present
  | ending _ _ _ _ _ ends =>
    cases ends with
    | unrun => exact nomatch present
    | _ => exact single present

theorem Account.of_executedCached {captured : Captured} {expiresAt : Timestamp}
    (account : Account c fingerprint (.finished (.ok (.executedCached captured expiresAt))) ran offered) :
    ran = [.ok captured] := by
  cases account with
  | early _ early => exact nomatch early
  | ending _ result _ _ certain ends =>
    cases certain
    generalize same : Except.ok (Outcome.executedCached captured expiresAt) = result at ends
    cases ends with
    | unrun _ idle => exact nomatch idle _ same.symm
    | written =>
      cases same
      rfl
    | lost _ _ existing =>
      have executed := decision_executed c fingerprint existing
      rw [← Except.ok.inj same] at executed
      exact nomatch executed
    | _ => exact nomatch same

theorem Account.start (r : Request) : Account c fingerprint (.start c r) [] [] := by
  unfold Stage.start
  split
  · exact .early _ rfl
  · exact .ending _ _ _ _ rfl (.unrun _ (by rintro _ ⟨⟩; rfl))

end

section

variable {locks : Coordinator} {ι : Type} [DecidableEq ι] {contexts : ι → Context}
  {requests : ι → Request} {w₀ v w : World (overMemory locks) ι (Except Failure Outcome)}

theorem account_of_reaches (starts : w₀.Starts fun i => execute (contexts i) (requests i))
    (run : World.Reaches w₀ w) (i : ι) :
    Account (contexts i) (requests i).fingerprint (stageOf (contexts i) (requests i) i w.history)
      (operations i w.history) (offers i w.history) := by
  refine stageOf_induction
    (P := fun w s => Account (contexts i) (requests i).fingerprint s (operations i w.history)
      (offers i w.history)) starts rfl ?_ (fun u v s _ same account => ?_)
    (fun v q next r s s' _ _ _ move account => ?_) run
  · rw [starts.2]
    exact .start (requests i)
  · rw [operations, offers, shownBy_congr same, shownBy_congr same]
    exact account
  · rw [World.answered_history, operations, offers, shownBy_cons_self, shownBy_cons_self]
    exact account.move i v.now move

def invocations (w : World (overMemory locks) ι (Except Failure Outcome)) (i : ι) : Nat :=
  (operations i w.history).length +
    match w.tasks i with
    | .ask .operate _ => 1
    | _ => 0

theorem invocations_pos {i : ι} :
    0 < invocations w i ↔ operations i w.history ≠ [] ∨ ∃ next, w.tasks i = .ask .operate next := by
  unfold invocations
  rw [← List.length_pos_iff]
  split
  · simp_all
  · rename_i idle
    simp only [Nat.add_zero]
    refine ⟨.inl, fun invoked => invoked.elim id ?_⟩
    rintro ⟨next, asks⟩
    exact absurd asks (idle next)

theorem invocations_pos_of_reaches {i : ι} (run : World.Reaches v w) (invoked : 0 < invocations v i) :
    0 < invocations w i := by
  induction run with
  | refl => exact invoked
  | @tail u w _ step ih =>
    have grows := step.history_suffix
    rw [invocations_pos] at ih ⊢
    rcases ih with ran | ⟨next, asks⟩
    · obtain ⟨r, present⟩ := List.exists_mem_of_ne_nil _ ran
      exact .inl (List.ne_nil_of_mem (shownBy_mono grows present))
    · cases step with
      | pass | change => exact .inr ⟨next, asks⟩
      | answer j q next' r s asks' answers =>
        by_cases same : j = i
        · subst same
          obtain ⟨rfl, -⟩ := Program.ask.inj (asks'.symm.trans asks)
          refine .inl (List.ne_nil_of_mem (mem_shownBy.2 ⟨_, List.mem_cons_self, rfl, rfl⟩))
        · refine .inr ⟨next, ?_⟩
          rw [World.answered_tasks_of_ne _ _ _ _ _ _ (Ne.symm same)]
          exact asks

theorem invocations_le_one (starts : w₀.Starts fun i => execute (contexts i) (requests i))
    (run : World.Reaches w₀ w) (i : ι) : invocations w i ≤ 1 := by
  have account := account_of_reaches starts run i
  unfold invocations
  split
  · rename_i next asks
    obtain ⟨guard, reachable, ready⟩ := ready_of_operate starts run asks
    rw [ready] at account
    rw [(account.eq_nil rfl).1]
    exact le_refl 1
  · cases ran : operations i w.history with
    | nil => exact Nat.zero_le 1
    | cons r rest =>
      rw [ran] at account
      rw [account.ran_eq_of_mem List.mem_cons_self]
      exact le_refl 1

theorem invocations_pos_of_executedCached
    (starts : w₀.Starts fun i => execute (contexts i) (requests i)) (run : World.Reaches w₀ w)
    {i : ι} {captured : Captured} {expiresAt : Timestamp}
    (ended : w.tasks i = .done (.ok (.executedCached captured expiresAt))) : 0 < invocations w i := by
  have account := account_of_reaches starts run i
  rw [stageOf_of_done starts run ended] at account
  refine invocations_pos.2 (.inl ?_)
  rw [account.of_executedCached]
  exact List.cons_ne_nil _ _

end

end OncePerKey.Request
