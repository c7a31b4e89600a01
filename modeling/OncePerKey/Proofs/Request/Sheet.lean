import OncePerKey.Proofs.Request.Stage

set_option autoImplicit false

namespace OncePerKey.Request

inductive Mark where
  | tick (t : Tick)
  | ended (label : String)
  -- The operation was run, and it failed.
  | operated
  | failed
  -- A look-up failed, a write failed, a write came too late.
  | misread
  | miswritten
  | lost
  deriving DecidableEq

def marksOf : (q : Ask) → q.Answer → List Mark
  | .report (.tick t), _ => [.tick t]
  | .report (.measure (.outcome label)), _ => [.ended label]
  | .operate, .ok _ => [.operated]
  | .operate, .error _ => [.failed, .operated]
  | .lookup _, .error _ => [.misread]
  | .write _ _, .error _ => [.miswritten]
  | .write _ _, .ok (.alreadyExists _) => [.lost]
  | _, _ => []

-- The stage of a request is its sheet, the last mark first.
def sheet : Discipline Ask Ask.Answer (List Mark) where
  may _ _ := True
  after s q r := marksOf q r ++ s

-- A first or second look-up may have failed and been passed over.
def unreadMarks (unread : Bool) : List Mark :=
  if unread then [.tick .storeFailure, .misread] else []

inductive Worked (c : Context) (fingerprint : Option String) :
    List Mark → Except Failure Outcome → Prop where
  | found (cached : Cached) : Worked c fingerprint [] (.ok (decision c fingerprint cached))
  | refused (failure : Failure) :
      Worked c fingerprint (unreadMarks true) (.error failure)
  | contended (unread : Bool) (secs : Nat) :
      Worked c fingerprint (.tick .conflict :: unreadMarks unread) (.ok (.conflict secs))
  | failed (unread : Bool) (failure : Failure) :
      Worked c fingerprint (.failed :: .operated :: .tick .execution :: unreadMarks unread)
        (.error failure)
  | uncached (unread : Bool) (captured : Captured) (reason : UncachedReason) :
      Worked c fingerprint (.operated :: .tick .execution :: unreadMarks unread)
        (.ok (.executedUncached captured reason))
  | cached (captured : Captured) (expiresAt : Timestamp) :
      Worked c fingerprint [.tick .cached, .operated, .tick .execution]
        (.ok (.executedCached captured expiresAt))
  | lost (existing : Cached) :
      Worked c fingerprint [.tick .lostRace, .lost, .operated, .tick .execution]
        (.ok (decision c fingerprint existing))
  | writeFailed (captured : Captured) :
      Worked c fingerprint [.tick .storeFailure, .miswritten, .operated, .tick .execution]
        (.ok (.executedUncached captured .storeUnavailable))

inductive Kind where
  | rejected
  | replayed
  | cached
  | uncached
  | conflict
  | mismatch
  | failed
  deriving DecidableEq

namespace Kind

def of : Except Failure Outcome → Kind
  | .ok (.rejectedInvalidKey _) => .rejected
  | .ok (.replayed _) => .replayed
  | .ok (.executedCached _ _) => .cached
  | .ok (.executedUncached _ _) => .uncached
  | .ok (.conflict _) => .conflict
  | .ok .fingerprintMismatch => .mismatch
  | .error _ => .failed

-- The kinds of results that the tally counts by themselves.
def tick? : Kind → Option Tick
  | .rejected => some .rejectedKey
  | .replayed => some .replay
  | .cached => some .cached
  | .conflict => some .conflict
  | .uncached | .mismatch | .failed => none

def share (k : Kind) (result : Except Failure Outcome) : Nat :=
  if of result = k then 1 else 0

theorem share_total (result : Except Failure Outcome) :
    rejected.share result + replayed.share result + conflict.share result + cached.share result +
      uncached.share result + mismatch.share result + failed.share result = 1 := by
  unfold share
  cases of result <;> rfl

end Kind

def label? : Except Failure Outcome → Option String
  | .ok outcome => some outcome.label
  | .error _ => none

structure Settled (marks : List Mark) (result : Except Failure Outcome) : Prop where
  requests : marks.count (.tick .request) = 1
  executions : marks.count (.tick .execution) = marks.count .operated
  lostRaces : marks.count (.tick .lostRace) = marks.count .lost
  storeFailures :
    marks.count (.tick .storeFailure) = marks.count .misread + marks.count .miswritten
  kinds : ∀ k t, Kind.tick? k = some t → marks.count (.tick t) = k.share result
  labels : ∀ l, marks.count (.ended l) = if label? result = some l then 1 else 0
  operated : marks.count .operated = Kind.cached.share result + marks.count .lost +
    Kind.uncached.share result + marks.count .failed
  operated_le : marks.count .operated ≤ 1
  storeFailures_le : marks.count .misread + marks.count .miswritten ≤ 1

-- What the end of a request adds to its sheet.
def closing : Except Failure Outcome → List Mark
  | .ok outcome => .ended outcome.label :: if outcome.isReplay then [.tick .replay] else []
  | .error _ => []

section

variable {marks : List Mark} {result : Except Failure Outcome}

theorem count_ended_closing (result : Except Failure Outcome) (unended : ∀ l, .ended l ∉ marks)
    (l : String) :
    (closing result ++ marks).count (.ended l) = if label? result = some l then 1 else 0 := by
  rw [List.count_append, List.count_eq_zero.2 (unended l), Nat.add_zero]
  cases result with
  | error failure => rfl
  | ok outcome =>
    have others : (if outcome.isReplay then [Mark.tick .replay] else []).count (.ended l) = 0 := by
      split <;> rfl
    simp [closing, label?, List.count_cons, others]

theorem kinds_of (rejected : marks.count (.tick .rejectedKey) = Kind.rejected.share result)
    (replayed : marks.count (.tick .replay) = Kind.replayed.share result)
    (cached : marks.count (.tick .cached) = Kind.cached.share result)
    (conflict : marks.count (.tick .conflict) = Kind.conflict.share result) :
    ∀ k t, Kind.tick? k = some t → marks.count (.tick t) = k.share result := by
  intro k t counted
  cases k <;> cases counted <;> assumption

end

theorem Worked.unended {c : Context} {fingerprint : Option String} {more : List Mark}
    {result : Except Failure Outcome} (worked : Worked c fingerprint more result) (l : String) :
    .ended l ∉ more ++ [.tick .request] := by
  have unread (b : Bool) : Mark.ended l ∉ unreadMarks b := by
    cases b <;> simp [unreadMarks]
  cases worked <;> simp [unread]

-- One line for each way through a request.
theorem Worked.settled {c : Context} {fingerprint : Option String} {more : List Mark}
    {result : Except Failure Outcome} (worked : Worked c fingerprint more result) :
    Settled (closing result ++ (more ++ [.tick .request])) result := by
  have labels := count_ended_closing result worked.unended
  have zero := Nat.zero_le 1
  have one := Nat.le_refl 1
  cases worked with
  | found cached =>
    rcases decision_eq c fingerprint cached with same | same <;> rw [same] at labels ⊢
    · exact ⟨rfl, rfl, rfl, rfl, kinds_of rfl rfl rfl rfl, labels, rfl, zero, zero⟩
    · exact ⟨rfl, rfl, rfl, rfl, kinds_of rfl rfl rfl rfl, labels, rfl, zero, zero⟩
  | refused failure =>
    exact ⟨rfl, rfl, rfl, rfl, kinds_of rfl rfl rfl rfl, labels, rfl, zero, one⟩
  | contended unread secs =>
    cases unread with
    | true => exact ⟨rfl, rfl, rfl, rfl, kinds_of rfl rfl rfl rfl, labels, rfl, zero, one⟩
    | false => exact ⟨rfl, rfl, rfl, rfl, kinds_of rfl rfl rfl rfl, labels, rfl, zero, zero⟩
  | failed unread failure =>
    cases unread with
    | true => exact ⟨rfl, rfl, rfl, rfl, kinds_of rfl rfl rfl rfl, labels, rfl, one, one⟩
    | false => exact ⟨rfl, rfl, rfl, rfl, kinds_of rfl rfl rfl rfl, labels, rfl, one, zero⟩
  | uncached unread captured reason =>
    cases unread with
    | true => exact ⟨rfl, rfl, rfl, rfl, kinds_of rfl rfl rfl rfl, labels, rfl, one, one⟩
    | false => exact ⟨rfl, rfl, rfl, rfl, kinds_of rfl rfl rfl rfl, labels, rfl, one, zero⟩
  | cached captured expiresAt =>
    exact ⟨rfl, rfl, rfl, rfl, kinds_of rfl rfl rfl rfl, labels, rfl, one, zero⟩
  | lost existing =>
    rcases decision_eq c fingerprint existing with same | same <;> rw [same] at labels ⊢
    · exact ⟨rfl, rfl, rfl, rfl, kinds_of rfl rfl rfl rfl, labels, rfl, one, zero⟩
    · exact ⟨rfl, rfl, rfl, rfl, kinds_of rfl rfl rfl rfl, labels, rfl, one, zero⟩
  | writeFailed captured =>
    exact ⟨rfl, rfl, rfl, rfl, kinds_of rfl rfl rfl rfl, labels, rfl, one, one⟩

theorem settled_rejected (reason : InvalidKey) :
    Settled (closing (.ok (.rejectedInvalidKey reason)) ++ [.tick .rejectedKey, .tick .request])
      (.ok (.rejectedInvalidKey reason)) := by
  have labels := count_ended_closing (.ok (.rejectedInvalidKey reason)) fun l =>
    (by simp : .ended l ∉ [Mark.tick .rejectedKey, .tick .request])
  exact ⟨rfl, rfl, rfl, rfl, kinds_of rfl rfl rfl rfl, labels, rfl, Nat.zero_le 1, Nat.zero_le 1⟩

def Adds {α : Type} (before : List Mark) (P : List Mark → α → Prop) (s : List Mark) (a : α) : Prop :=
  ∃ more, s = more ++ before ∧ P more a

namespace Sheet

section

variable {c : Context} {fingerprint : Option String} {key : CompositeKey} {α : Type} {s : List Mark}

@[simp] theorem obeys_ask {ends : List Mark → α → Prop} {q : Ask} {next : q.Answer → Handling α} :
    ((Handling.ask q).bind next).Obeys sheet ends s ↔
      ∀ r, (next r).Obeys sheet ends (marksOf q r ++ s) := by
  simp [Handling.ask, Program.perform, sheet]

@[simp] theorem obeys_report {ends : List Mark → α → Prop} {note : Note} {next : Unit → Handling α} :
    ((report note).bind next).Obeys sheet ends s ↔
      (next ()).Obeys sheet ends (marksOf (.report note) () ++ s) := by
  constructor
  · intro obeys
    exact obeys.2 ()
  · intro obeys
    exact ⟨trivial, fun _ => obeys⟩

@[simp] theorem obeys_tick {ends : List Mark → α → Prop} {t : Tick} {next : Unit → Handling α} :
    ((tick t).bind next).Obeys sheet ends s ↔ (next ()).Obeys sheet ends (.tick t :: s) :=
  obeys_report

@[simp] theorem obeys_log {ends : List Mark → α → Prop} {level : Level} {message : String}
    {fields : List (String × FieldValue)} {next : Unit → Handling α} :
    ((log level message fields).bind next).Obeys sheet ends s ↔ (next ()).Obeys sheet ends s :=
  obeys_report

theorem ignoresLog_sheet : IgnoresLog sheet :=
  fun _ _ _ _ => ⟨trivial, rfl⟩

@[simp] theorem obeys_replay {ends : List Mark → Outcome → Prop} {cached : Cached} :
    (replay c fingerprint cached).Obeys sheet ends s ↔ ends s (decision c fingerprint cached) :=
  ignoresLog_sheet.obeys_replay c fingerprint cached

@[simp] theorem obeys_lookupFailed {ends : List Mark → Option Failure → Prop} {failure : Failure} :
    (lookupFailed c failure).Obeys sheet ends s ↔
      ends (.tick .storeFailure :: s) (if c.policy.failOpen then none else some failure) := by
  unfold lookupFailed
  by_cases opens : c.policy.failOpen <;> simp [opens]

@[simp] theorem obeys_release {ends : List Mark → Unit → Prop} {guard : Option LockToken} :
    (release guard).Obeys sheet ends s ↔ ends s () := by
  cases guard with
  | none => simp [release]
  | some token =>
    simp only [release, releaseToken, Program.bind_eq, obeys_ask]
    constructor
    · intro obeys
      exact (obeys (.ok true)).2 ()
    · intro ended r
      rcases r with failure | (_ | _)
      · exact obeys_report.2 ended
      · exact obeys_report.2 ended
      · exact obeys_report.2 ended

@[simp] theorem obeys_conflict {ends : List Mark → Except Failure Outcome → Prop} :
    (conflict c).Obeys sheet ends s ↔
      ends (.tick .conflict :: s) (.ok (.conflict c.policy.lockTimeoutSecs.toNat)) := by
  simp [conflict]

theorem conflict_works (unread : Bool) :
    (conflict c).Obeys sheet (Adds s (Worked c fingerprint)) (unreadMarks unread ++ s) :=
  obeys_conflict.2 ⟨_, rfl, .contended unread _⟩

-- By induction on the look-ups that are left; a miss leaves no mark.
theorem poll_works (left attempt : Nat) :
    (poll c key fingerprint left attempt).Obeys sheet (Adds s (Worked c fingerprint)) s := by
  induction left generalizing attempt with
  | zero => exact conflict_works false
  | succ left ih =>
    unfold poll
    simp only [Program.bind_eq, obeys_ask]
    intro slept r
    cases r with
    | error failure =>
      rw [Program.obeys_bind, obeys_lookupFailed]
      by_cases opens : c.policy.failOpen
      · simp only [opens, if_true]
        exact conflict_works true
      · simp only [opens]
        exact ⟨_, rfl, .refused failure⟩
    | ok found =>
      cases found with
      | none => exact ih (attempt + 1)
      | some cached =>
        rw [obeys_log, Program.obeys_bind, obeys_replay]
        exact ⟨[], rfl, .found cached⟩

theorem resolveContention_works :
    (resolveContention c key fingerprint).Obeys sheet (Adds s (Worked c fingerprint)) s := by
  unfold resolveContention
  cases c.policy.conflictPolicy with
  | waitAndPoll => exact poll_works _ _
  | returnConflict => exact conflict_works false

theorem store_works (captured : Captured) :
    (store c key captured fingerprint).Obeys sheet
      (fun s' outcome => Adds s (Worked c fingerprint) s' (.ok outcome))
      (.operated :: .tick .execution :: s) := by
  have uncached (reason : UncachedReason) : Adds s (Worked c fingerprint)
      (.operated :: .tick .execution :: s) (.ok (.executedUncached captured reason)) :=
    ⟨_, rfl, .uncached false captured reason⟩
  unfold store
  cases c.policy.isCacheable captured.status with
  | false => exact uncached _
  | true =>
    cases c.policy.lifetime? with
    | none => exact ⟨trivial, nofun⟩
    | some lifetime =>
      simp only [Bool.not_true, Bool.false_eq_true, if_false, Program.bind_eq, obeys_ask]
      intro now
      match Cached.ofCaptured now captured lifetime fingerprint with
      | .error .neverExpires => exact ⟨trivial, nofun⟩
      | .error .lifetimeNotPositive | .error (.notText _) =>
        simp only [obeys_log]
        exact uncached _
      | .ok cached =>
        simp only [obeys_ask]
        intro r
        match r with
        | .ok .written =>
          rw [obeys_tick]
          exact ⟨_, rfl, .cached captured cached.expiresAt⟩
        | .ok (.alreadyExists existing) =>
          rw [obeys_tick, obeys_log, obeys_replay]
          exact ⟨_, rfl, .lost existing⟩
        | .error failure =>
          rw [obeys_tick, obeys_log]
          exact ⟨_, rfl, .writeFailed captured⟩

theorem release_bind_works {guard : Option LockToken} {result : Except Failure Outcome}
    {s' : List Mark} (adds : Adds s (Worked c fingerprint) s' result) :
    ((release guard).bind fun _ => pure result).Obeys sheet (Adds s (Worked c fingerprint)) s' := by
  rw [Program.obeys_bind, obeys_release]
  exact adds

theorem operate_works (guard : Option LockToken) (unread : Bool) :
    (operate c key fingerprint guard !unread).Obeys sheet (Adds s (Worked c fingerprint))
      (unreadMarks unread ++ s) := by
  unfold operate
  simp only [Program.bind_eq, obeys_tick, obeys_ask]
  intro r
  match r with
  | .error failure => exact release_bind_works ⟨_, rfl, .failed unread failure⟩
  | .ok captured =>
    cases unread with
    | true => exact release_bind_works ⟨_, rfl, .uncached true captured .storeUnavailable⟩
    | false =>
      refine (Program.obeys_bind _ _ _).2 ?_
      exact (store_works captured).mono fun s' outcome adds => release_bind_works adds

theorem underLock_works (token : LockToken) :
    (underLock c key fingerprint token).Obeys sheet (Adds s (Worked c fingerprint)) s := by
  unfold underLock
  simp only [Program.bind_eq, obeys_ask]
  intro r
  match r with
  | .ok (some cached) =>
    rw [Program.obeys_bind, obeys_release, Program.obeys_bind, obeys_replay]
    exact ⟨[], rfl, .found cached⟩
  | .ok none => exact operate_works (some token) false
  | .error failure =>
    rw [Program.obeys_bind, obeys_lookupFailed]
    by_cases opens : c.policy.failOpen
    · simp only [opens, if_true]
      exact operate_works (some token) true
    · simp only [opens]
      exact release_bind_works ⟨_, rfl, .refused failure⟩

theorem acquire_works : (acquire c key).Obeys sheet (fun s' _ => s' = s) s := by
  unfold acquire
  by_cases locking : c.usesLock
  · simp only [locking, if_true, Program.bind_eq, obeys_ask]
    intro r
    match r with
    | .ok (some token) | .ok none => exact obeys_report.2 rfl
    | .error failure => exact obeys_log.2 rfl
  · simp [locking]

theorem course_works :
    (course c key fingerprint).Obeys sheet (Adds s (Worked c fingerprint)) s := by
  unfold course
  simp only [Program.bind_eq, obeys_ask]
  intro r
  match r with
  | .ok (some cached) =>
    rw [Program.obeys_bind, obeys_replay]
    exact ⟨[], rfl, .found cached⟩
  | .ok none =>
    rw [Program.obeys_bind]
    refine acquire_works.mono fun s' attempt same => ?_
    subst same
    cases attempt with
    | acquired token => exact underLock_works token
    | contended => exact resolveContention_works
    | skipped => exact operate_works none false
  | .error failure =>
    rw [Program.obeys_bind, obeys_lookupFailed]
    by_cases opens : c.policy.failOpen
    · simp only [opens, if_true]
      exact operate_works none true
    · simp only [opens]
      exact ⟨_, rfl, .refused failure⟩

end

theorem finish_closes {ends : List Mark → Except Failure Outcome → Prop} (outcome : Outcome)
    (s : List Mark) :
    ((finish outcome).bind fun o => pure (.ok o)).Obeys sheet ends s ↔
      ends (closing (.ok outcome) ++ s) (.ok outcome) := by
  unfold finish closing
  by_cases replayed : outcome.isReplay <;> simp [replayed, Program.bind_assoc, marksOf]

theorem execute_settles (c : Context) (r : Request) : (execute c r).Obeys sheet Settled [] := by
  unfold execute
  simp only [Program.bind_eq, obeys_tick]
  match parseKey c r with
  | .error reason =>
    simp only [obeys_tick, obeys_log]
    exact (finish_closes _ _).2 (settled_rejected reason)
  | .ok key =>
    simp only [obeys_report]
    rw [Program.obeys_bind]
    refine course_works.mono fun s result adds => ?_
    obtain ⟨more, rfl, worked⟩ := adds
    rw [obeys_report]
    cases result with
    | ok outcome => exact (finish_closes _ _).2 worked.settled
    | error failure => exact worked.settled

end Sheet

end OncePerKey.Request
