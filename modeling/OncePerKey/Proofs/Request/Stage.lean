import OncePerKey.Proofs.Discipline
import OncePerKey.Request.Execute

set_option autoImplicit false

namespace OncePerKey.Request

inductive Stage where
  | looking
  | missed
  | holding (token : LockToken)
  | waiting (left : Nat)
  | polling (left : Nat)
  | ready (guard : Option LockToken) (reachable : Bool)
  | ran (guard : Option LockToken) (captured : Captured) (lifetime : Int)
  | writing (guard : Option LockToken) (captured : Captured) (cached : Cached)
  | leaving (token : LockToken) (result : Except Failure Outcome)
  | finished (result : Except Failure Outcome)
  | stuck (guard : Option LockToken)

namespace Stage

def question (c : Context) (key : CompositeKey) : Stage → Option Ask
  | .looking | .holding _ | .polling _ => some (.lookup key)
  | .missed => some (.acquire key (c.policy.lockTimeoutSecs.toNat * nanosPerSecond))
  | .waiting _ => some (.sleep c.policy.pollIntervalMs.toNat)
  | .ready _ _ => some .operate
  | .ran _ _ _ => some .now
  | .writing _ _ cached => some (.write key cached)
  | .leaving token _ => some (.release token)
  | .stuck _ => some .abort
  | .finished _ => none

def guard : Stage → Option LockToken
  | .holding token | .leaving token _ => some token
  | .ready guard _ | .ran guard _ _ | .writing guard _ _ | .stuck guard => guard
  | _ => none

def leave (guard : Option LockToken) (result : Except Failure Outcome) : Stage :=
  match guard with
  | some token => .leaving token result
  | none => .finished result

def result? : Stage → Option (Except Failure Outcome)
  | .leaving _ result | .finished result => some result
  | _ => none

@[simp] theorem result?_leave (guard : Option LockToken) (result : Except Failure Outcome) :
    (leave guard result).result? = some result := by
  cases guard <;> rfl

@[simp] theorem guard_leave (guard : Option LockToken) (result : Except Failure Outcome) :
    (leave guard result).guard = guard := by
  cases guard <;> rfl

-- Before a look-up while another request holds the lock, with `left` of them still allowed.
def await (c : Context) : (left : Nat) → Stage
  | 0 => .finished (.ok (.conflict c.policy.lockTimeoutSecs.toNat))
  | left + 1 => .waiting left

@[simp] theorem guard_await (c : Context) (left : Nat) : (await c left).guard = none := by
  cases left <;> rfl

end Stage

def decision (c : Context) (fingerprint : Option String) (cached : Cached) : Outcome :=
  match c.policy.fingerprintPolicy, cached.fingerprint, fingerprint with
  | .reject, some stored, some incoming =>
      if stored = incoming then .replayed cached else .fingerprintMismatch
  | _, _, _ => .replayed cached

theorem Outcome.ne_of_not_executed {outcome : Outcome} (other : outcome.executed = false)
    (captured : Captured) : (∀ expiresAt, outcome ≠ .executedCached captured expiresAt) ∧
      ∀ reason, outcome ≠ .executedUncached captured reason := by
  constructor <;> rintro _ rfl <;> cases other

section

variable (c : Context) (fingerprint : Option String) (cached : Cached)

-- A mismatch is told in the log, and nothing else is.
theorem replay_eq : replay c fingerprint cached = .done (decision c fingerprint cached) ∨
    replay c fingerprint cached =
      (log .warn "Idempotency key reused with a different request body").bind fun _ =>
        .done (decision c fingerprint cached) := by
  unfold replay decision
  cases c.policy.fingerprintPolicy with
  | ignore => exact .inl rfl
  | reject =>
    cases cached.fingerprint with
    | none => exact .inl rfl
    | some stored =>
      cases fingerprint with
      | none => exact .inl rfl
      | some incoming =>
        by_cases same : stored = incoming
        · exact .inl (by simp [same])
        · exact .inr (by simp [same])

theorem decision_eq : decision c fingerprint cached = .replayed cached ∨
    decision c fingerprint cached = .fingerprintMismatch := by
  unfold decision
  split
  · split
    · exact .inl rfl
    · exact .inr rfl
  · exact .inl rfl

theorem decision_executed : (decision c fingerprint cached).executed = false := by
  rcases decision_eq c fingerprint cached with same | same <;> rw [same] <;> rfl

theorem decision_ne_conflict (seconds : Nat) :
    decision c fingerprint cached ≠ .conflict seconds := by
  rcases decision_eq c fingerprint cached with same | same <;> simp [same]

end

-- The request has a fingerprint, and the response has another.
def Differs (fingerprint : Option String) (cached : Cached) : Prop :=
  ∃ incoming stored, fingerprint = some incoming ∧ cached.fingerprint = some stored ∧
    stored ≠ incoming

section

variable {c : Context} {fingerprint : Option String} {cached : Cached}

theorem not_differs_iff : ¬ Differs fingerprint cached ↔
    fingerprint = none ∨ cached.fingerprint = none ∨ fingerprint = cached.fingerprint := by
  unfold Differs
  cases fingerprint with
  | none => simp
  | some incoming => cases cached.fingerprint <;> simp [eq_comm]

theorem decision_eq_mismatch_iff : decision c fingerprint cached = .fingerprintMismatch ↔
    c.policy.fingerprintPolicy = .reject ∧ Differs fingerprint cached := by
  unfold decision Differs
  cases c.policy.fingerprintPolicy with
  | ignore => simp
  | reject =>
    cases cached.fingerprint with
    | none => simp
    | some stored =>
      cases fingerprint with
      | none => simp
      | some incoming => by_cases same : stored = incoming <;> simp [same]

theorem decision_eq_replayed
    (agrees : c.policy.fingerprintPolicy = .reject → ¬ Differs fingerprint cached) :
    decision c fingerprint cached = .replayed cached := by
  refine (decision_eq c fingerprint cached).resolve_right fun mismatch => ?_
  obtain ⟨rejects, differs⟩ := decision_eq_mismatch_iff.1 mismatch
  exact agrees rejects differs

theorem eq_of_decision_eq_replayed {found : Cached}
    (replayed : decision c fingerprint found = .replayed cached) : found = cached := by
  rcases decision_eq c fingerprint found with same | same
  · exact Outcome.replayed.inj (same.symm.trans replayed)
  · exact nomatch same.symm.trans replayed

end

def produced (c : Context) (guard : Option LockToken) (captured : Captured) : Stage :=
  if !c.policy.isCacheable captured.status then
    .leave guard (.ok (.executedUncached captured .notEligible))
  else
    match c.policy.lifetime? with
    | none => .stuck guard
    | some lifetime => .ran guard captured lifetime

-- A discipline that takes no notice of the log.
def IgnoresLog {σ : Type} (d : Discipline Ask Ask.Answer σ) : Prop :=
  ∀ s level message fields, d.may s (.report (.log level .handler message fields)) ∧
    d.after s (.report (.log level .handler message fields)) () = s

section

variable {σ α : Type} {d : Discipline Ask Ask.Answer σ}

theorem IgnoresLog.obeys_log (ignores : IgnoresLog d) {ends : σ → α → Prop} {level : Level}
    {message : String} {fields : List (String × FieldValue)} {next : Unit → Handling α} {s : σ} :
    ((log level message fields).bind next).Obeys d ends s ↔ (next ()).Obeys d ends s := by
  obtain ⟨may, same⟩ := ignores s level message fields
  constructor
  · intro obeys
    exact same ▸ obeys.2 ()
  · intro obeys
    exact ⟨may, fun _ => same.symm ▸ obeys⟩

theorem IgnoresLog.obeys_replay (ignores : IgnoresLog d) {ends : σ → Outcome → Prop} (c : Context)
    (fingerprint : Option String) (cached : Cached) {s : σ} :
    (replay c fingerprint cached).Obeys d ends s ↔ ends s (decision c fingerprint cached) := by
  rcases replay_eq c fingerprint cached with same | same <;> simp [same, ignores.obeys_log]

end

section

variable (c : Context) (fingerprint : Option String)

def afterMiss : Stage → Stage
  | .looking => if c.usesLock then .missed else .ready none true
  | .holding token => .ready (some token) true
  | .polling left => .await c left
  | s => s

def afterFailure : Stage → Stage
  | .looking => .ready none false
  | .holding token => .ready (some token) false
  | .polling _ => .await c 0
  | s => s

def afterLookup (s : Stage) : Except Failure (Option Cached) → Stage
  | .ok (some cached) => .leave s.guard (.ok (decision c fingerprint cached))
  | .ok none => afterMiss c s
  | .error failure =>
      if c.policy.failOpen then afterFailure c s else .leave s.guard (.error failure)

def afterAcquire (r : Except Failure (Option LockToken)) : Stage → Stage
  | .missed =>
      match r with
      | .ok (some token) => .holding token
      | .ok none =>
          match c.policy.conflictPolicy with
          | .waitAndPoll => .await c c.policy.pollAttempts.toNat
          | .returnConflict => .await c 0
      | .error _ => .ready none true
  | s => s

def afterOperation (r : Except Failure Captured) : Stage → Stage
  | .ready guard reachable =>
      match r with
      | .ok captured =>
          if reachable then produced c guard captured
          else .leave guard (.ok (.executedUncached captured .storeUnavailable))
      | .error failure => .leave guard (.error failure)
  | s => s

def afterClock (now : Timestamp) : Stage → Stage
  | .ran guard captured lifetime =>
      match Cached.ofCaptured now captured lifetime fingerprint with
      | .ok cached => .writing guard captured cached
      | .error .neverExpires => .stuck guard
      | .error _ => .leave guard (.ok (.executedUncached captured .serializationFailure))
  | s => s

def afterWrite (r : Except Failure WriteOutcome) : Stage → Stage
  | .writing guard captured cached =>
      match r with
      | .ok .written => .leave guard (.ok (.executedCached captured cached.expiresAt))
      | .ok (.alreadyExists existing) => .leave guard (.ok (decision c fingerprint existing))
      | .error _ => .leave guard (.ok (.executedUncached captured .storeUnavailable))
  | s => s

def afterAnswer (s : Stage) : (q : Ask) → q.Answer → Stage
  | .lookup _, r => afterLookup c fingerprint s r
  | .acquire _ _, r => afterAcquire c r s
  | .sleep _, _ => match s with | .waiting left => .polling left | s => s
  | .operate, r => afterOperation c r s
  | .now, now => afterClock fingerprint now s
  | .write _ _, r => afterWrite c fingerprint r s
  | .release _, _ => match s with | .leaving _ result => .finished result | s => s
  | .report _, _ => s
  | .abort, _ => s

def discipline (key : CompositeKey) : Discipline Ask Ask.Answer Stage where
  may s q := (∃ note, q = .report note) ∨ s.question c key = some q
  after := afterAnswer c fingerprint

end

def identity? (c : Context) (r : Request) : Option CompositeKey :=
  match parseKey c r with
  | .ok key => some (CompositeKey.build r.method r.route key)
  | .error _ => none

def Stage.start (c : Context) (r : Request) : Stage :=
  match parseKey c r with
  | .ok _ => .looking
  | .error reason => .finished (.ok (.rejectedInvalidKey reason))

theorem guard_start (c : Context) (r : Request) : (Stage.start c r).guard = none := by
  unfold Stage.start
  split <;> rfl

section

variable {c : Context} {fingerprint : Option String} {key : CompositeKey} {α : Type}

theorem obeys_question {ends : Stage → α → Prop} {q : Ask} {next : q.Answer → Handling α} {s : Stage}
    (asked : s.question c key = some q) :
    ((Handling.ask q).bind next).Obeys (discipline c fingerprint key) ends s ↔
      ∀ r, (next r).Obeys (discipline c fingerprint key) ends (afterAnswer c fingerprint s q r) := by
  simp [Handling.ask, Program.perform, discipline, asked]

@[simp] theorem obeys_report {ends : Stage → α → Prop} {note : Note} {next : Unit → Handling α}
    {s : Stage} :
    ((report note).bind next).Obeys (discipline c fingerprint key) ends s ↔
      (next ()).Obeys (discipline c fingerprint key) ends s := by
  constructor
  · intro obeys
    exact obeys.2 ()
  · intro obeys
    exact ⟨.inl ⟨note, rfl⟩, fun _ => obeys⟩

@[simp] theorem obeys_tick {ends : Stage → α → Prop} {t : Tick} {next : Unit → Handling α}
    {s : Stage} :
    ((tick t).bind next).Obeys (discipline c fingerprint key) ends s ↔
      (next ()).Obeys (discipline c fingerprint key) ends s :=
  obeys_report

theorem ignoresLog_discipline : IgnoresLog (discipline c fingerprint key) :=
  fun _ _ _ _ => ⟨.inl ⟨_, rfl⟩, rfl⟩

@[simp] theorem obeys_log {ends : Stage → α → Prop} {level : Level} {message : String}
    {fields : List (String × FieldValue)} {next : Unit → Handling α} {s : Stage} :
    ((log level message fields).bind next).Obeys (discipline c fingerprint key) ends s ↔
      (next ()).Obeys (discipline c fingerprint key) ends s :=
  obeys_report

@[simp] theorem obeys_replay {ends : Stage → Outcome → Prop} {cached : Cached} {s : Stage} :
    (replay c fingerprint cached).Obeys (discipline c fingerprint key) ends s ↔
      ends s (decision c fingerprint cached) :=
  ignoresLog_discipline.obeys_replay c fingerprint cached

@[simp] theorem obeys_lookupFailed {ends : Stage → Option Failure → Prop} {failure : Failure}
    {s : Stage} :
    (lookupFailed c failure).Obeys (discipline c fingerprint key) ends s ↔
      ends s (if c.policy.failOpen then none else some failure) := by
  unfold lookupFailed
  by_cases opens : c.policy.failOpen <;> simp [opens]

theorem releaseToken_obeys (token : LockToken) (result : Except Failure Outcome) :
    (releaseToken token).Obeys (discipline c fingerprint key) (fun s _ => s = .finished result)
      (.leaving token result) := by
  unfold releaseToken
  simp only [Program.bind_eq]
  rw [obeys_question rfl]
  intro r
  match r with
  | .ok true => exact obeys_report.2 rfl
  | .ok false => exact obeys_report.2 rfl
  | .error failure => exact obeys_report.2 rfl

theorem release_obeys (guard : Option LockToken) (result : Except Failure Outcome) :
    (release guard).Obeys (discipline c fingerprint key) (fun s _ => s = .finished result)
      (.leave guard result) := by
  cases guard with
  | none => simp [release, Stage.leave]
  | some token => exact releaseToken_obeys token result

theorem release_bind_obeys (guard : Option LockToken) (result : Except Failure Outcome) :
    ((release guard).bind fun _ => pure result).Obeys (discipline c fingerprint key)
      (fun s a => s = .finished a) (.leave guard result) := by
  rw [Program.obeys_bind]
  exact release_obeys guard result

theorem conflict_obeys :
    (conflict c).Obeys (discipline c fingerprint key) (fun s a => s = .finished a) (.await c 0) := by
  simp [conflict, Stage.await]

theorem poll_obeys (left attempt : Nat) :
    (poll c key fingerprint left attempt).Obeys (discipline c fingerprint key)
      (fun s a => s = .finished a) (.await c left) := by
  -- By induction on the look-ups that are left; the number of the attempt only appears in the log.
  induction left generalizing attempt with
  | zero => exact conflict_obeys
  | succ left ih =>
    unfold poll
    simp only [Program.bind_eq]
    rw [obeys_question rfl]
    intro slept
    change Program.Obeys _ _ _ (Stage.polling left)
    rw [obeys_question rfl]
    intro r
    match r with
    | .ok (some cached) =>
      simp only [obeys_log]
      rw [Program.obeys_bind, obeys_replay]
      rfl
    | .ok none => exact ih (attempt + 1)
    | .error failure =>
      rw [Program.obeys_bind, obeys_lookupFailed]
      by_cases opens : c.policy.failOpen
      · simpa [afterAnswer, afterLookup, afterFailure, opens] using conflict_obeys
      · simp [afterAnswer, afterLookup, Stage.guard, Stage.leave, opens]

theorem resolveContention_obeys :
    (resolveContention c key fingerprint).Obeys (discipline c fingerprint key)
      (fun s a => s = .finished a) (afterAcquire c (.ok none) .missed) := by
  unfold resolveContention afterAcquire
  cases c.policy.conflictPolicy with
  | waitAndPoll => exact poll_obeys _ _
  | returnConflict => exact conflict_obeys

theorem store_obeys (guard : Option LockToken) (captured : Captured) :
    (store c key captured fingerprint).Obeys (discipline c fingerprint key)
      (fun s outcome => s = .leave guard (.ok outcome)) (produced c guard captured) := by
  unfold store produced
  cases c.policy.isCacheable captured.status with
  | false => simp
  | true =>
    cases c.policy.lifetime? with
    | none => exact ⟨.inr rfl, nofun⟩
    | some lifetime =>
      simp only [Bool.not_true, Bool.false_eq_true, if_false, Program.bind_eq]
      rw [obeys_question rfl]
      intro now
      match snapshot : Cached.ofCaptured now captured lifetime fingerprint with
      | .error .neverExpires =>
        simp only [afterAnswer, afterClock, snapshot]
        exact ⟨.inr rfl, nofun⟩
      | .error .lifetimeNotPositive | .error (.notText _) =>
        simp [afterAnswer, afterClock, snapshot]
      | .ok cached =>
        simp only [afterAnswer, afterClock, snapshot]
        rw [obeys_question rfl]
        intro r
        match r with
        | .ok .written | .error failure => simp [afterAnswer, afterWrite]
        | .ok (.alreadyExists existing) => simp [afterAnswer, afterWrite]

theorem operate_obeys (guard : Option LockToken) (reachable : Bool) :
    (operate c key fingerprint guard reachable).Obeys (discipline c fingerprint key)
      (fun s a => s = .finished a) (.ready guard reachable) := by
  unfold operate
  simp only [Program.bind_eq, obeys_tick]
  rw [obeys_question rfl]
  intro r
  match r with
  | .error failure => exact release_bind_obeys guard (.error failure)
  | .ok captured =>
    cases reachable with
    | false => exact release_bind_obeys guard _
    | true =>
      refine (Program.obeys_bind _ _ _).2 ?_
      refine (store_obeys guard captured).mono fun s outcome reached => ?_
      rw [reached]
      exact release_bind_obeys guard (.ok outcome)

theorem underLock_obeys (token : LockToken) :
    (underLock c key fingerprint token).Obeys (discipline c fingerprint key)
      (fun s a => s = .finished a) (.holding token) := by
  unfold underLock
  simp only [Program.bind_eq]
  rw [obeys_question rfl]
  intro r
  match r with
  | .ok (some cached) =>
    rw [Program.obeys_bind]
    refine (release_obeys (some token) (.ok (decision c fingerprint cached))).mono
      fun s _ reached => ?_
    rw [Program.obeys_bind, obeys_replay]
    exact reached
  | .ok none => exact operate_obeys (some token) true
  | .error failure =>
    rw [Program.obeys_bind, obeys_lookupFailed]
    by_cases opens : c.policy.failOpen
    · simpa [afterAnswer, afterLookup, afterFailure, opens] using operate_obeys (some token) false
    · simpa [afterAnswer, afterLookup, Stage.guard, opens] using
        release_bind_obeys (some token) (.error failure)

def attempted (c : Context) : LockAttempt → Stage
  | .acquired token => .holding token
  | .contended => afterAcquire c (.ok none) .missed
  | .skipped => .ready none true

theorem acquire_obeys :
    (acquire c key).Obeys (discipline c fingerprint key) (fun s a => s = attempted c a)
      (afterMiss c .looking) := by
  unfold acquire afterMiss
  by_cases locking : c.usesLock
  · simp only [locking, if_true, Program.bind_eq]
    rw [obeys_question rfl]
    intro r
    match r with
    | .ok (some token) => simp [afterAnswer, afterAcquire, attempted]
    | .ok none => simp [afterAnswer, attempted]
    | .error failure => simp [afterAnswer, afterAcquire, attempted]
  · simp [locking, attempted]

theorem course_obeys :
    (course c key fingerprint).Obeys (discipline c fingerprint key) (fun s a => s = .finished a)
      .looking := by
  unfold course
  simp only [Program.bind_eq]
  rw [obeys_question rfl]
  intro r
  match r with
  | .ok (some cached) =>
    rw [Program.obeys_bind, obeys_replay]
    rfl
  | .ok none =>
    rw [Program.obeys_bind]
    refine acquire_obeys.mono fun s attempt reached => ?_
    subst reached
    cases attempt with
    | acquired token => exact underLock_obeys token
    | contended => exact resolveContention_obeys
    | skipped => exact operate_obeys none true
  | .error failure =>
    rw [Program.obeys_bind, obeys_lookupFailed]
    by_cases opens : c.policy.failOpen
    · simpa [afterAnswer, afterLookup, afterFailure, opens] using operate_obeys none false
    · simp [afterAnswer, afterLookup, Stage.guard, Stage.leave, opens]

theorem finish_obeys (outcome : Outcome) :
    ((finish outcome).bind fun o => pure (.ok o)).Obeys (discipline c fingerprint key)
      (fun s a => s = .finished a) (.finished (.ok outcome)) := by
  unfold finish
  by_cases replayed : outcome.isReplay <;> simp [replayed, Program.bind_assoc]

theorem execute_obeys {r : Request} (identity : ∀ k, identity? c r = some k → k = key) :
    (execute c r).Obeys (discipline c r.fingerprint key) (fun s a => s = .finished a)
      (.start c r) := by
  unfold execute Stage.start
  simp only [Program.bind_eq, obeys_tick]
  match parsed : parseKey c r with
  | .error reason =>
    simp only [obeys_tick, obeys_log]
    exact finish_obeys _
  | .ok k =>
    have same : CompositeKey.build r.method r.route k = key :=
      identity _ (by simp [identity?, parsed])
    simp only [obeys_report, same]
    rw [Program.obeys_bind]
    refine course_obeys.mono fun s result reached => ?_
    subst reached
    rw [obeys_report]
    cases result with
    | ok outcome => exact finish_obeys outcome
    | error failure => simp

end

end OncePerKey.Request
