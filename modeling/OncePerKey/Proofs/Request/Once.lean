import OncePerKey.Proofs.Request.Holders
import OncePerKey.Proofs.Request.Winner

set_option autoImplicit false

namespace OncePerKey.Request

-- From the second look-up to the write.
def Stage.isAtWork : Stage → Bool
  | .ready _ _ | .ran _ _ _ | .writing _ _ _ | .stuck _ => true
  | _ => false

def Stage.IsSound : Stage → Prop
  | .ready guard reachable => guard.isSome = true ∧ reachable = true
  | .ran guard _ _ | .writing guard _ _ | .stuck guard => guard.isSome = true
  | s => ∀ captured, s.result? ≠ some (.ok (.executedUncached captured .storeUnavailable))

def isFailure {ι : Type} : Exchange ι Ask Ask.Answer → Bool
  | ⟨_, _, .lookup _, .error _⟩ | ⟨_, _, .write _ _, .error _⟩ | ⟨_, _, .acquire _ _, .error _⟩ =>
      true
  | _ => false

def missOf {ι : Type} : Exchange ι Ask Ask.Answer → Option CompositeKey
  | ⟨_, _, .lookup key, .ok none⟩ => some key
  | _ => none

section

variable {c : Context} {fingerprint : Option String} {key : CompositeKey} {s s' : Stage}

theorem Stage.isSound_leave {guard : Option LockToken} {result : Except Failure Outcome}
    (other : ∀ captured, result ≠ .ok (.executedUncached captured .storeUnavailable)) :
    (Stage.leave guard result).IsSound := by
  cases guard <;> simpa [Stage.leave, Stage.IsSound, Stage.result?] using other

theorem Stage.isSound_await (left : Nat) : (Stage.await c left).IsSound := by
  cases left <;> simp [Stage.await, Stage.IsSound, Stage.result?]

theorem Move.sound {ι : Type} {q : Ask} {r : q.Answer} (i : ι) (time : Timestamp)
    (locking : c.usesLock = true) (move : Move c fingerprint key s q r s')
    (answered : isFailure ⟨i, time, q, r⟩ = false) (sound : s.IsSound) : s'.IsSound := by
  cases move with
  | noted | stored | beyondCalendar | released => exact sound
  | slept | missed | granted => exact nofun
  | missedAgain => exact ⟨rfl, rfl⟩
  | tooLong | ran => exact sound.1
  | polled | contended => exact Stage.isSound_await _
  | found s cached =>
    exact Stage.isSound_leave fun captured same =>
      (Outcome.ne_of_not_executed (decision_executed c fingerprint cached) captured).2 _
        (Except.ok.inj same)
  | lost guard captured offered existing =>
    exact Stage.isSound_leave fun captured same =>
      (Outcome.ne_of_not_executed (decision_executed c fingerprint existing) captured).2 _
        (Except.ok.inj same)
  | failed | notEligible | unstorable | written => exact Stage.isSound_leave (by simp)
  | unreachable => exact nomatch sound.2
  | missedWithoutLocks without => exact nomatch locking.symm.trans without
  | _ => exact nomatch answered

theorem Stage.not_atWork_leave (guard : Option LockToken) (result : Except Failure Outcome) :
    (Stage.leave guard result).isAtWork = false := by
  cases guard <;> rfl

theorem Stage.not_atWork_await (left : Nat) : (Stage.await c left).isAtWork = false := by
  cases left <;> rfl

theorem Move.atWork_cases {ι : Type} {q : Ask} {r : q.Answer} (i : ι) (time : Timestamp)
    (locking : c.usesLock = true) (move : Move c fingerprint key s q r s')
    (answered : isFailure ⟨i, time, q, r⟩ = false) (atWork : s'.isAtWork = true) :
    (s.isAtWork = true ∧ s.guard = s'.guard ∧ writeOf ⟨i, time, q, r⟩ = none) ∨
      missOf ⟨i, time, q, r⟩ = some key := by
  cases move with
  | noted => exact .inl ⟨atWork, rfl, rfl⟩
  | tooLong | ran | stored | beyondCalendar => exact .inl ⟨rfl, rfl, rfl⟩
  | missedAgain => exact .inr rfl
  | missedWithoutLocks without => exact nomatch locking.symm.trans without
  | polled | contended => exact nomatch (Stage.not_atWork_await _).symm.trans atWork
  | found | failed | unreachable | notEligible | unstorable | written | lost =>
    exact nomatch (Stage.not_atWork_leave _ _).symm.trans atWork
  | slept | missed | granted | released => exact nomatch atWork
  | refused | passedOver | passedOverAgain | gaveUp | lockFailed | writeFailed =>
    exact nomatch answered

theorem Account.offers_of_atWork {ran : List (Except Failure Captured)} {offered : List Cached}
    (account : Account c fingerprint s ran offered) (atWork : s.isAtWork = true) : offered = [] := by
  cases account with
  | early | ran | stuck | writing => rfl
  | ending _ result _ _ certain =>
    cases s with
    | leaving | finished => exact nomatch atWork
    | _ => exact nomatch certain

theorem Account.atWork_or_offered {ran : List (Except Failure Captured)} {offered : List Cached}
    (account : Account c fingerprint s ran offered) (valid : c.policy.Valid) (sound : s.IsSound)
    (any : ran ≠ [])
    (succeed : ∀ r ∈ ran, ∃ captured text, r = .ok captured ∧
      c.policy.isCacheable captured.status = true ∧ Utf8.decode captured.body = .ok text) :
    s.isAtWork = true ∨ offered ≠ [] := by
  cases account with
  | early => exact absurd rfl any
  | ran | stuck | writing => exact .inl rfl
  | ending _ result _ _ certain ends =>
    cases ends with
    | unrun => exact absurd rfl any
    | written | lost | writeFailed => exact .inr (by simp)
    | failed failure =>
      obtain ⟨captured, text, same, -⟩ := succeed _ (List.mem_singleton.2 rfl)
      exact nomatch same
    | unreachable captured =>
      cases s with
      | leaving | finished => exact absurd certain (sound captured)
      | _ => exact nomatch certain
    | notEligible captured refused =>
      obtain ⟨_, text, ⟨⟩, cacheable, -⟩ := succeed _ (List.mem_singleton.2 rfl)
      exact nomatch refused.symm.trans cacheable
    | unstorable captured lifetime now fault lives snapshot other =>
      obtain ⟨_, text, ⟨⟩, -, decoded⟩ := succeed _ (List.mem_singleton.2 rfl)
      rcases Cached.ofCaptured_of_text (Policy.lifetime_pos valid lives) decoded with
        never | ⟨cached, made⟩
      · exact absurd (Except.error.inj (snapshot.symm.trans never)) other
      · exact nomatch snapshot.symm.trans made

end

theorem isFailure_of_answers {now : Timestamp} {s s' : Shared .memory} {q : Ask} {r : q.Answer}
    {ι : Type} (i : ι) (time : Timestamp) (answers : s.answers now q r s') :
    isFailure ⟨i, time, q, r⟩ = false := by
  cases q with
  | lookup | write =>
    obtain ⟨rfl, -⟩ := answers
    rfl
  | acquire =>
    obtain ⟨l, ⟨holder, token, held, -, -, rfl, -⟩, -⟩ := answers
    rfl
  | _ => rfl

theorem get_of_missOf {ι : Type} {locks : Coordinator} {now time : Timestamp} {s s' : Shared locks}
    {q : Ask} {r : q.Answer} {i : ι} {key : CompositeKey} (answers : s.answers now q r s')
    (missed : missOf ⟨i, time, q, r⟩ = some key) : s'.store.get now key = none := by
  cases q with
  | lookup k =>
    obtain ⟨rfl, rfl⟩ := answers
    cases found : s'.store.get now k with
    | none =>
      simp only [missOf, found, Option.some.injEq] at missed
      rw [← missed, found]
    | some cached => simp [missOf, found] at missed
  | _ => exact nomatch missed

section

variable {ι : Type} [DecidableEq ι]

-- Every operation gave a response that can be stored, every request that started its operation has a token
-- that has not expired or offered its response while it had, and no response under the key has expired.
structure Undisturbed (contexts : ι → Context) (key : CompositeKey)
    (w₀ w : World (overMemory .memory) ι (Except Failure Outcome)) : Prop where
  succeed : ∀ i, ∀ r ∈ operations i w.history, ∃ captured text, r = .ok captured ∧
    (contexts i).policy.isCacheable captured.status = true ∧ Utf8.decode captured.body = .ok text
  inTime : ∀ i, 0 < invocations w i → ∀ token ∈ shownBy tokenOf i w.history,
    token.isExpiredAt? w.now ≠ some true ∨
      ∃ e ∈ w.history, e.task = i ∧ (offerOf e).isSome = true ∧
        token.isExpiredAt? e.time ≠ some true
  lasting : ∀ x ∈ writes w.history, w.now < x.response.expiresAt
  lastingOld : ∀ cached, w₀.state.store.get w₀.now key = some cached → w.now < cached.expiresAt

variable {contexts : ι → Context} {requests : ι → Request} {key : CompositeKey}
  {w₀ v w : World (overMemory .memory) ι (Except Failure Outcome)}

theorem Undisturbed.of_reaches (run : World.Reaches v w)
    (undisturbed : Undisturbed contexts key w₀ w) : Undisturbed contexts key w₀ v where
  succeed i r present := undisturbed.succeed i r (shownBy_mono run.history_suffix present)
  inTime i invoked token given := by
    have before {later : Timestamp} (order : v.now ≤ later)
        (current : token.isExpiredAt? later ≠ some true) : token.isExpiredAt? v.now ≠ some true :=
      fun expired => current (LockToken.isExpiredAt?_of_le order expired)
    rcases undisturbed.inTime i (invocations_pos_of_reaches run invoked) token
      (shownBy_mono run.history_suffix given) with current | ⟨e, present, mine, offered, current⟩
    · exact .inl (before run.now_le current)
    · rcases World.mem_or_now_le run present with old | recent
      · exact .inr ⟨e, old, mine, offered, current⟩
      · exact .inl (before recent current)
  lasting x present :=
    lt_of_le_of_lt run.now_le (undisturbed.lasting x (writes_mono run.history_suffix present))
  lastingOld cached there := lt_of_le_of_lt run.now_le (undisturbed.lastingOld cached there)

theorem isSound_of_reaches (starts : w₀.Starts fun i => execute (contexts i) (requests i))
    (locking : ∀ i, (contexts i).usesLock = true) (run : World.Reaches w₀ w) (i : ι) :
    (stageOf (contexts i) (requests i) i w.history).IsSound := by
  refine stageOf_induction (P := fun _ s => s.IsSound) starts rfl ?_ (fun _ _ _ _ _ sound => sound)
    (fun v q next r s s' _ _ answers move sound => ?_) run
  · unfold Stage.start
    split <;> simp [Stage.IsSound, Stage.result?]
  · exact move.sound i v.now (locking i) (isFailure_of_answers i v.now answers) sound

theorem Undisturbed.get (undisturbed : Undisturbed contexts key w₀ w) (run : World.Reaches w₀ v)
    (rest : World.Reaches v w) {cached : Cached}
    (there : v.state.store.get v.now key = some cached) :
    w.state.store.get w.now key = some cached := by
  refine get_of_reaches rest there ?_
  rcases origin_of_get run there with ⟨x, written, -, rfl⟩ | old
  · exact undisturbed.lasting x (writes_mono rest.history_suffix written)
  · exact undisturbed.lastingOld cached old

structure Guarded (contexts : ι → Context) (requests : ι → Request) (key : CompositeKey)
    (w₀ : World (overMemory .memory) ι (Except Failure Outcome)) : Prop where
  starts : w₀.Starts fun i => execute (contexts i) (requests i)
  identity : ∀ i, identity? (contexts i) (requests i) = some key
  locking : ∀ i, (contexts i).usesLock = true
  valid : ∀ i, (contexts i).policy.Valid

namespace Guarded

variable (guarded : Guarded contexts requests key w₀) (run : World.Reaches w₀ w)
  (undisturbed : Undisturbed contexts key w₀ w)

include guarded run

theorem writing_of_write {i : ι} {other : CompositeKey} {cached : Cached}
    {next : Except Failure WriteOutcome → Handling (Except Failure Outcome)}
    (asks : w.tasks i = .ask (.write other cached) next) :
    other = key ∧ ∃ guard captured,
      stageOf (contexts i) (requests i) i w.history = .writing guard captured cached := by
  have move := move_of_ask guarded.starts run asks w.now (.ok .written)
  rw [← keyOf_eq (guarded.identity i)]
  exact move.writing_of_write

theorem eq_of_current {i j : ι} {token other : LockToken}
    (has : guardOf contexts requests w.history i = some token)
    (hasOther : guardOf contexts requests w.history j = some other)
    (current : token.isExpiredAt? w.now ≠ some true)
    (currentOther : other.isExpiredAt? w.now ≠ some true) : i = j := by
  have holders := Holders.of_reaches guarded.starts run
  have held := holders.held i token has current
  have heldOther := holders.held j other hasOther currentOther
  rw [holders.keyed i token has, keyOf_eq (guarded.identity i)] at held
  rw [holders.keyed j other hasOther, keyOf_eq (guarded.identity j)] at heldOther
  have same : token = other := Option.some.inj (held.symm.trans heldOther)
  exact holders.apart i j token other has hasOther (by rw [same])

theorem guard_of_atWork {i : ι}
    (atWork : (stageOf (contexts i) (requests i) i w.history).isAtWork = true) :
    ∃ token, guardOf contexts requests w.history i = some token := by
  have sound := isSound_of_reaches guarded.starts guarded.locking run i
  unfold guardOf
  generalize stageOf (contexts i) (requests i) i w.history = stage at atWork sound ⊢
  cases stage with
  | ready => exact Option.isSome_iff_exists.1 sound.1
  | ran | writing | stuck => exact Option.isSome_iff_exists.1 sound
  | _ => exact nomatch atWork

include undisturbed

theorem current_of_atWork {i : ι}
    (atWork : (stageOf (contexts i) (requests i) i w.history).isAtWork = true)
    (invoked : 0 < invocations w i) {token : LockToken}
    (has : guardOf contexts requests w.history i = some token) :
    token.isExpiredAt? w.now ≠ some true := by
  rcases undisturbed.inTime i invoked token (given_of_guard guarded.starts run has) with
    current | ⟨e, present, mine, offered, -⟩
  · exact current
  -- A request at work has not offered anything yet.
  · obtain ⟨response, offer⟩ := Option.isSome_iff_exists.1 offered
    have nothing := (account_of_reaches guarded.starts run i).offers_of_atWork atWork
    exact absurd nothing (List.ne_nil_of_mem (mem_shownBy.2 ⟨e, present, mine, offer⟩))

theorem current_of_write {i : ι} {other : CompositeKey} {cached : Cached}
    {next : Except Failure WriteOutcome → Handling (Except Failure Outcome)}
    (asks : w.tasks i = .ask (.write other cached) next) :
    (stageOf (contexts i) (requests i) i w.history).isAtWork = true ∧
      ∃ token, guardOf contexts requests w.history i = some token ∧
        token.isExpiredAt? w.now ≠ some true := by
  obtain ⟨-, guard, captured, writing⟩ := guarded.writing_of_write run asks
  have atWork : (stageOf (contexts i) (requests i) i w.history).isAtWork = true := by
    rw [writing]
    rfl
  have account := account_of_reaches guarded.starts run i
  rw [writing] at account
  have invoked := invocations_pos.2 (.inl (account.of_writing.1 ▸ List.cons_ne_nil _ _))
  obtain ⟨token, has⟩ := guarded.guard_of_atWork run atWork
  exact ⟨atWork, token, has, guarded.current_of_atWork run undisturbed atWork invoked has⟩

theorem exists_get_of_offer {i : ι} (offered : offers i w.history ≠ []) :
    ∃ cached, w.state.store.get w.now key = some cached := by
  obtain ⟨response, present⟩ := List.exists_mem_of_ne_nil _ offered
  obtain ⟨⟨j, time, q, r⟩, present, mine, offer⟩ := mem_shownBy.1 present
  obtain ⟨v, v', happened⟩ := World.happened_of_mem guarded.starts.2 run present
  obtain ⟨next, asks⟩ := happened.asks
  obtain rfl : time = v.now := happened.time
  have effect := Shared.store_cases j happened.answers
  cases q with
  | write other offered =>
    obtain ⟨rfl, -⟩ := guarded.writing_of_write happened.before asks
    rcases effect with ⟨-, -, found⟩ | ⟨x, stored, -, -, -⟩
    · obtain ⟨existing, there⟩ := found _ _ rfl
      exact ⟨existing, undisturbed.get happened.before happened.rest there⟩
    · have written := mem_writes.2 ⟨_, present, stored⟩
      have there := get_of_written guarded.starts.2 run written (undisturbed.lasting x written)
      rw [eq_of_writeOf stored] at there
      exact ⟨offered, there⟩
  | _ => exact nomatch offer

theorem get_of_atWork {i : ι}
    (atWork : (stageOf (contexts i) (requests i) i w.history).isAtWork = true) {token : LockToken}
    (has : guardOf contexts requests w.history i = some token)
    (current : token.isExpiredAt? w.now ≠ some true) : w.state.store.get w.now key = none := by
  induction run with
  | refl =>
    rw [guardOf_start guarded.starts.2] at has
    exact nomatch has
  | @tail v w run step ih =>
    have before : Undisturbed contexts key w₀ v := undisturbed.of_reaches (.single step)
    cases step with
    | pass later order =>
      refine MemoryStore.get_eq_none_of_le order (ih before atWork has fun expired => ?_)
      exact current (LockToken.isExpiredAt?_of_le order expired)
    | change s swept =>
      exact (Shared.get_of_swept swept key).trans (ih before atWork has current)
    | answer j q next r s asks answers =>
      have move := move_of_ask guarded.starts run asks v.now r
      have effect := Shared.store_cases j answers
      rw [World.answered_history] at atWork has
      rw [World.answered_now] at current
      by_cases same : j = i
      · subst same
        have answered := isFailure_of_answers j v.now answers
        rcases move.atWork_cases j v.now (guarded.locking j) answered atWork with
          ⟨working, guard, nothing⟩ | missed
        · have mine : guardOf contexts requests v.history j = some token := guard.trans has
          rcases effect with ⟨-, store, -⟩ | ⟨x, written, -⟩
          · rw [World.answered_state, World.answered_now, store]
            exact ih before working mine current
          · exact nomatch nothing.symm.trans written
        · rw [keyOf_eq (guarded.identity j)] at missed
          exact get_of_missOf answers missed
      · rw [stageOf_cons_of_ne _ _ same] at atWork
        rw [guardOf_cons_of_ne same] at has
        rcases effect with ⟨-, store, -⟩ | ⟨x, written, -⟩
        · rw [World.answered_state, World.answered_now, store]
          exact ih before atWork has current
        · -- The writer would be at work under a token that has not expired, too.
          cases q with
          | write other offered =>
            obtain ⟨-, other, hasOther, currentOther⟩ := guarded.current_of_write run before asks
            exact absurd (guarded.eq_of_current run hasOther has currentOther current) same
          | _ => exact nomatch written

theorem atWork_or_offered {i : ι} (invoked : 0 < invocations w i) :
    (stageOf (contexts i) (requests i) i w.history).isAtWork = true ∨ offers i w.history ≠ [] := by
  rcases invocations_pos.1 invoked with ran | ⟨next, asks⟩
  · exact (account_of_reaches guarded.starts run i).atWork_or_offered (guarded.valid i)
      (isSound_of_reaches guarded.starts guarded.locking run i) ran (undisturbed.succeed i)
  · obtain ⟨guard, reachable, ready⟩ := ready_of_operate guarded.starts run asks
    rw [ready]
    exact .inl rfl

theorem eq_of_atWork {i j : ι} (invoked : 0 < invocations w i) (invokedOther : 0 < invocations w j)
    (atWork : (stageOf (contexts i) (requests i) i w.history).isAtWork = true) : i = j := by
  obtain ⟨token, has⟩ := guarded.guard_of_atWork run atWork
  have current := guarded.current_of_atWork run undisturbed atWork invoked has
  rcases guarded.atWork_or_offered run undisturbed invokedOther with working | offered
  · obtain ⟨other, hasOther⟩ := guarded.guard_of_atWork run working
    have currentOther := guarded.current_of_atWork run undisturbed working invokedOther hasOther
    exact guarded.eq_of_current run has hasOther current currentOther
  · obtain ⟨cached, there⟩ := guarded.exists_get_of_offer run undisturbed offered
    exact nomatch (guarded.get_of_atWork run undisturbed atWork has current).symm.trans there

theorem offers_of_write {i j : ι} {other : CompositeKey} {cached : Cached}
    {next : Except Failure WriteOutcome → Handling (Except Failure Outcome)}
    (asks : w.tasks i = .ask (.write other cached) next) : offers j w.history = [] := by
  by_contra offered
  obtain ⟨existing, there⟩ := guarded.exists_get_of_offer run undisturbed offered
  obtain ⟨atWork, token, has, current⟩ := guarded.current_of_write run undisturbed asks
  exact nomatch (guarded.get_of_atWork run undisturbed atWork has current).symm.trans there

omit run in
theorem offers_of_happened {e : Exchange ι Ask Ask.Answer} {v v' : World (overMemory .memory) ι _}
    (happened : World.Happened w₀ w e v v') {response : Cached} (offer : offerOf e = some response)
    (j : ι) : offers j v.history = [] := by
  obtain ⟨i, time, q, r⟩ := e
  obtain ⟨next, asks⟩ := happened.asks
  have before := undisturbed.of_reaches happened.rest
  cases q with
  | write => exact guarded.offers_of_write happened.before before asks
  | _ => exact nomatch offer

theorem eq_of_offered {i j : ι} (offered : offers i w.history ≠ [])
    (offeredOther : offers j w.history ≠ []) : i = j := by
  obtain ⟨response, shown⟩ := List.exists_mem_of_ne_nil _ offered
  obtain ⟨other, shownOther⟩ := List.exists_mem_of_ne_nil _ offeredOther
  obtain ⟨e, present, rfl, offer⟩ := mem_shownBy.1 shown
  obtain ⟨f, presentOther, rfl, offerOther⟩ := mem_shownBy.1 shownOther
  by_contra differ
  obtain ⟨v, v', happened⟩ := World.happened_of_mem guarded.starts.2 run present
  obtain ⟨u, u', happenedOther⟩ := World.happened_of_mem guarded.starts.2 run presentOther
  -- The later of the two offers finds the earlier one made.
  rcases happened.total happenedOther (fun same => differ (by rw [same])) with first | second
  · have nothing := guarded.offers_of_happened undisturbed happenedOther offerOther e.task
    exact absurd nothing (List.ne_nil_of_mem (mem_shownBy.2 ⟨e, first, rfl, offer⟩))
  · have nothing := guarded.offers_of_happened undisturbed happened offer f.task
    exact absurd nothing (List.ne_nil_of_mem (mem_shownBy.2 ⟨f, second, rfl, offerOther⟩))

theorem eq_of_invoked {i j : ι} (invoked : 0 < invocations w i)
    (invokedOther : 0 < invocations w j) : i = j := by
  rcases guarded.atWork_or_offered run undisturbed invoked with working | offered
  · exact guarded.eq_of_atWork run undisturbed invoked invokedOther working
  rcases guarded.atWork_or_offered run undisturbed invokedOther with working | offeredOther
  · exact (guarded.eq_of_atWork run undisturbed invokedOther invoked working).symm
  · exact guarded.eq_of_offered run undisturbed offered offeredOther

omit undisturbed in
theorem execution_of_written {x : Write} (written : x ∈ writes w.history) :
    ∃ j, operations j w.history = [.ok x.response.toCaptured] := by
  obtain ⟨⟨j, time, q, r⟩, present, stored⟩ := mem_writes.1 written
  obtain ⟨v, v', happened⟩ := World.happened_of_mem guarded.starts.2 run present
  obtain ⟨next, asks⟩ := happened.asks
  cases q with
  | write other offered =>
    obtain ⟨-, guard, captured, writing⟩ := guarded.writing_of_write happened.before asks
    have account := account_of_reaches guarded.starts happened.before j
    rw [writing] at account
    obtain ⟨ran, same⟩ := account.of_writing
    obtain rfl := eq_of_writeOf stored
    have present : .ok offered.toCaptured ∈ operations j v.history := by
      rw [ran, same]
      exact List.mem_singleton.2 rfl
    have grows := happened.rest.history_suffix
    exact ⟨j, (account_of_reaches guarded.starts run j).ran_eq_of_mem (shownBy_mono grows present)⟩
  | _ => exact nomatch stored

omit undisturbed in
theorem source_of_replayed {i : ι} {cached : Cached}
    (ended : w.tasks i = .done (.ok (.replayed cached))) :
    (∃ j, operations j w.history = [.ok cached.toCaptured]) ∨
      w₀.state.store.get w₀.now key = some cached := by
  have certain : (stageOf (contexts i) (requests i) i w.history).result? =
      some (.ok (.replayed cached)) := by
    rw [stageOf_of_done guarded.starts run ended]
    rfl
  obtain ⟨other, isKey, e, v, v', happened, -, -, -, source⟩ :=
    readLive_of_certain guarded.starts run certain
  rw [guarded.identity i] at isKey
  cases isKey
  rcases source with ⟨x, written, -, rfl⟩ | old
  · have grows := happened.rest.history_suffix
    exact .inl (guarded.execution_of_written run (writes_mono grows written))
  · exact .inr old

end Guarded

-- In a run that is not disturbed the operation is started at most once, and whoever answers with a stored
-- response answers with that of this execution or with the one that was there at the start.
theorem executes_once (guarded : Guarded contexts requests key w₀) (run : World.Reaches w₀ w)
    (undisturbed : Undisturbed contexts key w₀ w) :
    (∀ i, invocations w i ≤ 1) ∧
      (∀ i j, 0 < invocations w i → 0 < invocations w j → i = j) ∧
      (∀ i j captured other expiresAt expiresOther,
        w.tasks i = .done (.ok (.executedCached captured expiresAt)) →
        w.tasks j = .done (.ok (.executedCached other expiresOther)) → i = j) ∧
      ∀ i cached, w.tasks i = .done (.ok (.replayed cached)) →
        (∃ j, operations j w.history = [.ok cached.toCaptured]) ∨
          w₀.state.store.get w₀.now key = some cached := by
  refine ⟨invocations_le_one guarded.starts run,
    fun i j => guarded.eq_of_invoked run undisturbed, fun i j _ _ _ _ ended endedOther => ?_,
    fun i cached ended => guarded.source_of_replayed run ended⟩
  exact guarded.eq_of_invoked run undisturbed (invocations_pos_of_executedCached guarded.starts run ended)
    (invocations_pos_of_executedCached guarded.starts run endedOther)

end

def withLocks : Context :=
  { policy := { conflictPolicy := .waitAndPoll }, backend := "memory", hasLocks := true }

def contended : World (overMemory .memory) Bool (Except Failure Outcome) :=
  twoOrders withLocks

def settled : World (overMemory .memory) Bool (Except Failure Outcome) :=
  contended.play (Shared.reply (.ok created)) (List.replicate 18 [false, true]).flatten

def placed : CompositeKey :=
  CompositeKey.build placeOrder.method placeOrder.route ⟨"k-1"⟩

def firstToken : LockToken :=
  { key := placed, holder := .ofSeed 0, acquiredAt := .epoch, lifetime := 30000000000 }

theorem contended_guarded :
    Guarded (fun _ => withLocks) (fun _ => placeOrder) placed contended where
  starts := ⟨rfl, rfl⟩
  identity _ := rfl
  locking _ := rfl
  valid _ := by decide

set_option maxRecDepth 8000 in
theorem settled_undisturbed : Undisturbed (fun _ => withLocks) placed contended settled where
  succeed i r present := by
    have one : operations i settled.history = [.ok created] ∨ operations i settled.history = [] := by
      cases i
      · exact .inl rfl
      · exact .inr rfl
    rcases one with one | idle
    · rw [one, List.mem_singleton] at present
      exact ⟨created, "", present, rfl, rfl⟩
    · rw [idle] at present
      exact nomatch present
  inTime i _ token given := by
    have tokens : shownBy tokenOf i settled.history = [firstToken] ∨
        shownBy tokenOf i settled.history = [] := by
      cases i
      · exact .inl rfl
      · exact .inr rfl
    rcases tokens with one | idle
    · rw [one, List.mem_singleton] at given
      subst given
      exact .inl (by decide)
    · rw [idle] at given
      exact nomatch given
  lasting x present := by
    have one : writes settled.history = [⟨.epoch, placed, firstCreated⟩] := rfl
    rw [one, List.mem_singleton] at present
    subst present
    exact (Timestamp.before_iff _ _).1 rfl
  lastingOld cached there := nomatch there

set_option maxRecDepth 8000 in
theorem contender_replays :
    settled.tasks true = .done (.ok (.replayed firstCreated)) ∧
      (∀ i, invocations settled i ≤ 1) ∧
      ((∃ j, operations j settled.history = [.ok firstCreated.toCaptured]) ∨
        contended.state.store.get contended.now placed = some firstCreated) := by
  have run : World.Reaches contended settled :=
    World.reaches_play (Shared.answers_of_reply (.ok created)) contended _
  have ended : settled.tasks true = .done (.ok (.replayed firstCreated)) := rfl
  obtain ⟨once, -, -, source⟩ := executes_once contended_guarded run settled_undisturbed
  exact ⟨ended, once, source true firstCreated ended⟩

end OncePerKey.Request
