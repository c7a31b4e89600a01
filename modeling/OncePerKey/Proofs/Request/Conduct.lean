import OncePerKey.Proofs.Request.Calls
import OncePerKey.Proofs.Response.Snapshot

set_option autoImplicit false

namespace OncePerKey.Request

open Call (times)

section

variable {c : Context} {guard : Option LockToken} {reachable : Bool} {calls : List Call}

theorem Opening.early (opening : Opening c guard reachable calls) {kind : Call.Kind}
    (late : kind = .operate ∨ kind = .write ∨ kind = .release) : times kind calls = 0 := by
  rcases late with rfl | rfl | rfl <;> cases opening <;> simp [Call.kind]

theorem Opening.acquires (opening : Opening c guard reachable calls) :
    times .acquire calls ≤ 1 := by
  cases opening <;> simp [Call.kind]

theorem Opening.looks (opening : Opening c guard reachable calls) : times .lookup calls ≤ 2 := by
  cases opening <;> simp [Call.kind]

theorem Opening.uncontended (opening : Opening c guard reachable calls) : .contended ∉ calls := by
  cases opening <;> simp

theorem Opening.read (opening : Opening c guard true calls) (failure : Failure) :
    .lookup (.error failure) ∉ calls := by
  cases opening <;> simp

theorem Opening.granted_iff (opening : Opening c guard reachable calls) (token : LockToken) :
    .acquire (.ok (some token)) ∈ calls ↔ guard = some token := by
  cases opening <;> simp [eq_comm]

theorem Opening.part (opening : Opening c guard reachable calls) : Part c guard calls := by
  cases opening with
  | locked token => exact .lookedAgain token _
  | lockedUnread token failure => exact .lookedAgain token _
  | withoutLocks => exact .looked _
  | lockFailed failure => exact .lockFailed failure
  | unread failure => exact .looked _

theorem Part.granted_iff (part : Part c guard calls) (token : LockToken) :
    .acquire (.ok (some token)) ∈ calls ↔ guard = some token := by
  cases part with
  | nothing | looked | granted | lockFailed | lookedAgain | polled => simp [eq_comm]
  | operated opening | wrote opening => simpa using opening.granted_iff token

theorem Part.unreleased (part : Part c guard calls) : times .release calls = 0 := by
  cases part with
  | nothing | looked | granted | lockFailed | lookedAgain => simp [Call.kind]
  | polled looks => simp [times_lookups, Call.kind]
  | operated opening | wrote opening => simp [Call.kind, opening.early]

theorem Made.part {s : Stage} (made : Made c s calls) :
    (∃ guard, Part c guard calls) ∨
      ∃ token r earlier, Part c (some token) earlier ∧ calls = .release token r :: earlier := by
  cases made with
  | looking => exact .inl ⟨_, .nothing⟩
  | missed => exact .inl ⟨_, .looked _⟩
  | holding token => exact .inl ⟨_, .granted token⟩
  | waiting left looks bound | polling left looks bound => exact .inl ⟨_, .polled looks (by omega)⟩
  | ready opening => exact .inl ⟨_, opening.part⟩
  | ran opening | writing opening => exact .inl ⟨_, .operated opening _⟩
  | stuck part | leaving part | finished part => exact .inl ⟨_, part⟩
  | released part r => exact .inr ⟨_, r, _, part, rfl⟩

end

structure Conduct (c : Context) (calls : List Call) : Prop where
  operates_once : times .operate calls ≤ 1
  operates_after : ∀ r earlier, .operate r :: earlier <:+ calls →
    ∃ guard reachable, Opening c guard reachable earlier
  writes_once : times .write calls ≤ 1
  writes_after : ∀ response r earlier, .write response r :: earlier <:+ calls →
    ∃ captured opening, earlier = .operate (.ok captured) :: opening ∧ c.Stores captured
  writes_read : times .write calls = 1 → ∀ failure, .lookup (.error failure) ∉ calls
  acquires_once : times .acquire calls ≤ 1
  releases_once : times .release calls ≤ 1
  releases_last : ∀ token r earlier, .release token r :: earlier <:+ calls →
    calls = .release token r :: earlier ∧ .acquire (.ok (some token)) ∈ earlier
  uncontended : .contended ∉ calls → times .lookup calls ≤ 2
  contended : .contended ∈ calls → times .lookup calls ≤ 1 + c.policy.pollAttempts.toNat ∧
    times .operate calls = 0 ∧ times .write calls = 0

section

variable {c : Context} {guard : Option LockToken} {reachable : Bool} {calls : List Call}

theorem Context.polls_le (c : Context) : c.polls ≤ c.policy.pollAttempts.toNat := by
  unfold Context.polls
  split
  · exact le_rfl
  · exact Nat.zero_le _

theorem conduct_of_early
    (early : ∀ kind, kind = .operate ∨ kind = .write ∨ kind = .release → times kind calls = 0)
    (acquires : times .acquire calls ≤ 1)
    (uncontended : .contended ∉ calls → times .lookup calls ≤ 2)
    (contended : .contended ∈ calls → times .lookup calls ≤ 1 + c.policy.pollAttempts.toNat) :
    Conduct c calls where
  operates_once := by simp [early]
  operates_after r earlier inside :=
    absurd inside (not_suffix_of_times_eq_zero (early _ (.inl rfl)))
  writes_once := by simp [early]
  writes_after response r earlier inside :=
    absurd inside (not_suffix_of_times_eq_zero (early _ (.inr (.inl rfl))))
  writes_read written := by simp [early] at written
  acquires_once := acquires
  releases_once := by simp [early]
  releases_last token r earlier inside :=
    absurd inside (not_suffix_of_times_eq_zero (early _ (.inr (.inr rfl))))
  uncontended := uncontended
  contended present := ⟨contended present, early _ (.inl rfl), early _ (.inr (.inl rfl))⟩

theorem Opening.conduct_operated (opening : Opening c guard reachable calls)
    (r : Except Failure Captured) : Conduct c (.operate r :: calls) where
  operates_once := by simp [opening.early, Call.kind]
  operates_after r earlier inside := by
    obtain ⟨-, rfl⟩ := eq_of_suffix_cons (opening.early (.inl rfl)) inside
    exact ⟨guard, reachable, opening⟩
  writes_once := by simp [opening.early, Call.kind]
  writes_after response r earlier inside :=
    absurd (suffix_cons_of_kind_ne (by simp [Call.kind]) inside)
      (not_suffix_of_times_eq_zero (opening.early (.inr (.inl rfl))))
  writes_read written := by simp [opening.early, Call.kind] at written
  acquires_once := by simpa [Call.kind] using opening.acquires
  releases_once := by simp [opening.early, Call.kind]
  releases_last token r earlier inside :=
    absurd (suffix_cons_of_kind_ne (by simp [Call.kind]) inside)
      (not_suffix_of_times_eq_zero (opening.early (.inr (.inr rfl))))
  uncontended _ := by simpa [Call.kind] using opening.looks
  contended present := by simp [opening.uncontended] at present

theorem Opening.conduct_wrote {captured : Captured} (opening : Opening c guard true calls)
    (stores : c.Stores captured) (response : Cached) (r : Except Failure WriteOutcome) :
    Conduct c (.write response r :: .operate (.ok captured) :: calls) where
  operates_once := by simp [opening.early, Call.kind]
  operates_after _ earlier inside :=
    (opening.conduct_operated (.ok captured)).operates_after _ earlier
      (suffix_cons_of_kind_ne (by simp [Call.kind]) inside)
  writes_once := by simp [opening.early, Call.kind]
  writes_after _ _ earlier inside := by
    obtain ⟨-, rfl⟩ := eq_of_suffix_cons (by simp [opening.early, Call.kind]) inside
    exact ⟨captured, calls, rfl, stores⟩
  writes_read _ failure := by simpa using opening.read failure
  acquires_once := by simpa [Call.kind] using opening.acquires
  releases_once := by simp [opening.early, Call.kind]
  releases_last token _ earlier inside :=
    absurd inside (not_suffix_of_times_eq_zero (by simp [opening.early, Call.kind]))
  uncontended _ := by simpa [Call.kind] using opening.looks
  contended present := by simp [opening.uncontended] at present

theorem Part.conduct (part : Part c guard calls) : Conduct c calls := by
  have polls := c.polls_le
  cases part with
  | nothing | looked | granted | lockFailed | lookedAgain =>
    exact conduct_of_early (by rintro _ (rfl | rfl | rfl) <;> simp [Call.kind])
      (by simp [Call.kind]) (by simp [Call.kind]) (by simp)
  | polled looks bound =>
    exact conduct_of_early (by rintro _ (rfl | rfl | rfl) <;> simp [times_lookups, Call.kind])
      (by simp [times_lookups, Call.kind]) (by simp)
      (fun _ => by
        simp only [times_lookups, times_cons, times_nil, Call.kind]
        simp
        omega)
  | operated opening r => exact opening.conduct_operated r
  | wrote opening stores response r => exact opening.conduct_wrote stores response r

theorem Part.conduct_released {token : LockToken} (part : Part c (some token) calls)
    (r : Except Failure Bool) : Conduct c (.release token r :: calls) where
  operates_once := by simpa [Call.kind] using part.conduct.operates_once
  operates_after _ _ inside :=
    part.conduct.operates_after _ _ (suffix_cons_of_kind_ne (by simp [Call.kind]) inside)
  writes_once := by simpa [Call.kind] using part.conduct.writes_once
  writes_after _ _ _ inside :=
    part.conduct.writes_after _ _ _ (suffix_cons_of_kind_ne (by simp [Call.kind]) inside)
  writes_read := by simpa [Call.kind] using part.conduct.writes_read
  acquires_once := by simpa [Call.kind] using part.conduct.acquires_once
  releases_once := by simp [part.unreleased, Call.kind]
  releases_last _ _ _ inside := by
    obtain ⟨same, rfl⟩ := eq_of_suffix_cons (by exact part.unreleased) inside
    cases same
    exact ⟨rfl, (part.granted_iff token).2 rfl⟩
  uncontended := by simpa [Call.kind] using part.conduct.uncontended
  contended := by simpa [Call.kind] using part.conduct.contended

theorem Made.conduct {s : Stage} (made : Made c s calls) : Conduct c calls := by
  rcases made.part with ⟨guard, part⟩ | ⟨token, r, earlier, part, rfl⟩
  · exact part.conduct
  · exact part.conduct_released r

-- A request that ended has given back the lock that it was granted.
theorem Made.released_of_granted {result : Except Failure Outcome}
    (made : Made c (.finished result) calls) {token : LockToken}
    (granted : .acquire (.ok (some token)) ∈ calls) :
    ∃ r earlier, calls = .release token r :: earlier := by
  cases made with
  | finished part => exact nomatch (part.granted_iff token).1 granted
  | released part r =>
    have earlier := (part.granted_iff token).1 (by simpa using granted)
    cases earlier
    exact ⟨r, _, rfl⟩

end

section

variable {S : Surroundings Ask Ask.Answer} {ι : Type} [DecidableEq ι] {contexts : ι → Context}
  {requests : ι → Request} {w₀ w : World S ι (Except Failure Outcome)}

@[simp] theorem Stage.leave_ne_stuck (guard other : Option LockToken)
    (result : Except Failure Outcome) : Stage.leave guard result ≠ .stuck other := by
  cases guard <;> simp [Stage.leave]

@[simp] theorem Stage.await_ne_stuck (c : Context) (left : Nat) (guard : Option LockToken) :
    Stage.await c left ≠ .stuck guard := by
  cases left <;> simp [Stage.await]

theorem plus?_of_neverExpires {now : Timestamp} {captured : Captured} {lifetime : Int}
    {fingerprint : Option String}
    (snapshot : Cached.ofCaptured now captured lifetime fingerprint = .error .neverExpires) :
    now.plus? lifetime = none := by
  unfold Cached.ofCaptured at snapshot
  split at snapshot
  · exact nomatch snapshot
  · split at snapshot
    · exact nomatch snapshot
    · assumption
    · exact nomatch snapshot

-- The request was shown a moment from which its response would outlive the calendar.
def SawTooLate (c : Context) (i : ι) (history : List (Exchange ι Ask Ask.Answer)) : Prop :=
  ∃ time now, ⟨i, time, .now, now⟩ ∈ history ∧
    now.plus? (c.policy.expirationSecs.toNat * nanosPerSecond) = none

theorem sawTooLate_of_abort (starts : w₀.Starts fun i => execute (contexts i) (requests i))
    (run : World.Reaches w₀ w) {i : ι} (valid : (contexts i).policy.Valid)
    {next : Empty → Handling (Except Failure Outcome)} (asks : w.tasks i = .ask .abort next) :
    SawTooLate (contexts i) i w.history := by
  have lives := Policy.lifetime?_of_valid valid
  refine cause_of_stageOf (i := i) (p := fun s => ∃ guard, s = .stuck guard)
    (P := fun w => SawTooLate (contexts i) i w.history) starts ?_ ?_ ?_ run ?_
  · unfold Stage.start
    split <;> simp
  · rintro u v step ⟨time, now, shown, beyond⟩
    exact ⟨time, now, step.history_suffix.subset shown, beyond⟩
  · rintro v q next r s s' reached - - move ⟨guard, stuck⟩
    have made := made_of_reaches starts (i := i) rfl reached
    generalize stageOf (contexts i) (requests i) i v.history = stage at move made
    cases move with
    | noted => exact .inl ⟨guard, stuck⟩
    | tooLong _ _ endless => simp [lives] at endless
    | beyondCalendar _ _ _ now snapshot =>
      cases lives.symm.trans made.lifetime?_eq
      exact .inr ⟨v.now, now, List.mem_cons_self, plus?_of_neverExpires snapshot⟩
    | _ => simp at stuck
  · rcases question_of_ask starts rfl run asks with ⟨note, same⟩ | asked
    · exact nomatch same
    · generalize stageOf (contexts i) (requests i) i w.history = stage at asked
      cases stage with
      | stuck guard => exact ⟨guard, rfl⟩
      | _ => exact nomatch asked

-- Whatever it is answered, a request keeps to the conduct, and has given its lock back when it ends.
theorem execute_conduct (starts : w₀.Starts fun i => execute (contexts i) (requests i))
    (run : World.Reaches w₀ w) (i : ι) :
    Conduct (contexts i) (calls i w.history) ∧
      (∀ q next r, w.tasks i = .ask q next →
        Conduct (contexts i) (calls i (⟨i, w.now, q, r⟩ :: w.history))) ∧
      (∀ result token, w.tasks i = .done result → .acquire (.ok (some token)) ∈ calls i w.history →
        ∃ r earlier, calls i w.history = .release token r :: earlier) ∧
      ∀ next : Empty → Handling (Except Failure Outcome), (contexts i).policy.Valid →
        w.tasks i = .ask .abort next → SawTooLate (contexts i) i w.history := by
  have made := made_of_reaches starts (i := i) rfl run
  refine ⟨made.conduct, ?_, ?_, fun next valid asks => sawTooLate_of_abort starts run valid asks⟩
  · intro q next r asks
    rw [calls, shownBy_cons_self]
    exact (made.move i w.now (move_of_ask starts run asks w.now r)).conduct
  · intro result token ended granted
    rw [stageOf_of_done starts run ended] at made
    exact made.released_of_granted granted

end

-- Surroundings that may answer anything. The state counts the look-ups.
def anything : Surroundings Ask Ask.Answer where
  State := Nat
  answers _ _ _ _ _ := True

def down : Failure :=
  .storeUnavailable (.backend "down")

def orderToken : LockToken :=
  { key := CompositeKey.build "POST" "/orders" ⟨"k-1"⟩, holder := .ofSeed 0, acquiredAt := .epoch,
    lifetime := 30000000000 }

def accepted : Captured :=
  { status := 202, contentType := none, body := [] }

def goneAfterLock (now : Timestamp) (looks : Nat) : (q : Ask) → Option (q.Answer × Nat)
  | .now => some (now, looks)
  | .sleep _ | .report _ => some ((), looks)
  | .lookup _ => some (if looks = 0 then .ok none else .error down, looks + 1)
  | .acquire _ _ => some (.ok (some orderToken), looks)
  | .operate => some (.ok accepted, looks)
  | .write _ _ => some (.error down, looks)
  | .release _ => some (.ok true, looks)
  | .abort => none

def failingOpen : Context :=
  { policy := { failOpen := true }, backend := "redis", hasLocks := true }

def unserved : World anything Unit (Except Failure Outcome) :=
  { now := .epoch, state := (0 : Nat), history := []
    tasks := fun _ => execute failingOpen placeOrder }

def servedUnread : World anything Unit (Except Failure Outcome) :=
  unserved.play goneAfterLock (List.replicate 20 ())

theorem unread_request_releases :
    calls () servedUnread.history =
        [.release orderToken (.ok true), .operate (.ok accepted), .lookup (.error down),
          .acquire (.ok (some orderToken)), .missed] ∧
      Conduct failingOpen (calls () servedUnread.history) ∧
      ∃ r earlier, calls () servedUnread.history = .release orderToken r :: earlier := by
  have starts : unserved.Starts fun _ => execute failingOpen placeOrder := ⟨rfl, rfl⟩
  have run : World.Reaches unserved servedUnread :=
    World.reaches_play (fun _ _ _ _ _ _ => trivial) unserved _
  have ended : servedUnread.tasks () = .done (.ok (.executedUncached accepted .storeUnavailable)) :=
    rfl
  have all : calls () servedUnread.history =
      [.release orderToken (.ok true), .operate (.ok accepted), .lookup (.error down),
        .acquire (.ok (some orderToken)), .missed] := rfl
  obtain ⟨conduct, -, released, -⟩ := execute_conduct starts run ()
  exact ⟨all, conduct, released _ orderToken ended (by simp [all])⟩

end OncePerKey.Request
