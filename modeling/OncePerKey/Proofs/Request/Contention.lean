import OncePerKey.Proofs.Request.Conduct
import OncePerKey.Proofs.Store.Memory

set_option autoImplicit false

namespace OncePerKey

namespace Program

variable {Q : Type} {R : Q → Type} {σ α β : Type}

def run? (answer : (q : Q) → σ → Option (R q × σ)) : Program Q R α → σ → Option (α × σ)
  | .done a, s => some (a, s)
  | .ask q next, s =>
      match answer q s with
      | some (r, s) => (next r).run? answer s
      | none => none

variable {answer : (q : Q) → σ → Option (R q × σ)}

@[simp] theorem run?_done (a : α) (s : σ) : (done a : Program Q R α).run? answer s = some (a, s) := rfl

theorem run?_ask {q : Q} {next : R q → Program Q R α} {s s' : σ} {r : R q}
    (replied : answer q s = some (r, s')) :
    (ask q next).run? answer s = (next r).run? answer s' := by
  simp [run?, replied]

theorem run?_bind (p : Program Q R α) (f : α → Program Q R β) (s : σ) :
    (p.bind f).run? answer s = (p.run? answer s).bind fun r => (f r.1).run? answer r.2 := by
  induction p generalizing s with
  | done a => rfl
  | ask q next ih =>
    cases replied : answer q s with
    | none => simp [run?, replied]
    | some r => simp [run?, replied, ih]

end Program

namespace Request

structure Wait where
  elapsed : Nat := 0
  calls : List (Nat × Call) := []

def Wait.made (w : Wait) (call : Call) : Wait :=
  { w with calls := (w.elapsed, call) :: w.calls }

-- The first look-up misses, and another request holds the lock; after that the store shows what it shows then.
def whileHeld (look : Nat → CompositeKey → Except Failure (Option Cached)) :
    (q : Ask) → Wait → Option (q.Answer × Wait)
  | .report _, w => some ((), w)
  | .sleep ms, w => some ((), { w with elapsed := w.elapsed + ms })
  | .lookup key, w =>
      let r := if w.calls.isEmpty then .ok none else look w.elapsed key
      some (r, w.made (.lookup r))
  | .acquire _ _, w => some (.ok none, w.made .contended)
  | _, _ => none

-- The time of a look-up while the lock is held.
def Context.instant (c : Context) (k : Nat) : Nat :=
  k * c.policy.pollIntervalMs.toNat

def waited (c : Context) (look : Nat → Except Failure (Option Cached)) (looks : Nat) : Wait where
  elapsed := c.instant looks
  calls :=
    (List.range looks).reverse.map (fun k => (c.instant (k + 1), .lookup (look (c.instant (k + 1))))) ++
      [(0, .contended), (0, .missed)]

inductive Resolved (c : Context) (fingerprint : Option String)
    (look : Nat → Except Failure (Option Cached)) : Nat → Except Failure Outcome → Prop where
  | found (k : Nat) (allowed : k < c.polls)
      (missed : ∀ j, 1 ≤ j → j ≤ k → look (c.instant j) = .ok none) (cached : Cached)
      (shown : look (c.instant (k + 1)) = .ok (some cached)) :
      Resolved c fingerprint look (k + 1) (.ok (decision c fingerprint cached))
  | refused (k : Nat) (allowed : k < c.polls)
      (missed : ∀ j, 1 ≤ j → j ≤ k → look (c.instant j) = .ok none) (failure : Failure)
      (shown : look (c.instant (k + 1)) = .error failure) (closed : c.policy.failOpen = false) :
      Resolved c fingerprint look (k + 1) (.error failure)
  | gaveUp (k : Nat) (allowed : k < c.polls)
      (missed : ∀ j, 1 ≤ j → j ≤ k → look (c.instant j) = .ok none) (failure : Failure)
      (shown : look (c.instant (k + 1)) = .error failure) (opens : c.policy.failOpen = true) :
      Resolved c fingerprint look (k + 1) (.ok (.conflict c.policy.lockTimeoutSecs.toNat))
  | waitedOut (missed : ∀ j, 1 ≤ j → j ≤ c.polls → look (c.instant j) = .ok none) :
      Resolved c fingerprint look c.polls (.ok (.conflict c.policy.lockTimeoutSecs.toNat))

section

variable {c : Context} {fingerprint : Option String} {key : CompositeKey}
  {look : Nat → CompositeKey → Except Failure (Option Cached)} {α : Type}

theorem run?_answered {q : Ask} {next : q.Answer → Handling α} {r : q.Answer} {w w' : Wait}
    (replied : whileHeld look q w = some (r, w')) :
    ((Handling.ask q).bind next).run? (whileHeld look) w = (next r).run? (whileHeld look) w' :=
  Program.run?_ask replied

@[simp] theorem run?_report (note : Note) (next : Unit → Handling α) (w : Wait) :
    ((report note).bind next).run? (whileHeld look) w = (next ()).run? (whileHeld look) w := rfl

@[simp] theorem run?_tick (t : Tick) (next : Unit → Handling α) (w : Wait) :
    ((tick t).bind next).run? (whileHeld look) w = (next ()).run? (whileHeld look) w := rfl

@[simp] theorem run?_log (level : Level) (message : String) (fields : List (String × FieldValue))
    (next : Unit → Handling α) (w : Wait) :
    ((log level message fields).bind next).run? (whileHeld look) w =
      (next ()).run? (whileHeld look) w := rfl

@[simp] theorem run?_replay (cached : Cached) (w : Wait) :
    (replay c fingerprint cached).run? (whileHeld look) w =
      some (decision c fingerprint cached, w) := by
  rcases replay_eq c fingerprint cached with same | same <;> simp [same]

@[simp] theorem run?_conflict (w : Wait) :
    (conflict c).run? (whileHeld look) w =
      some (.ok (.conflict c.policy.lockTimeoutSecs.toNat), w) := rfl

@[simp] theorem run?_lookupFailed (failure : Failure) (w : Wait) :
    (lookupFailed c failure).run? (whileHeld look) w =
      some (if c.policy.failOpen then none else some failure, w) := by
  unfold lookupFailed
  by_cases opens : c.policy.failOpen <;> simp [opens]

@[simp] theorem run?_finish (outcome : Outcome) (w : Wait) :
    (finish outcome).run? (whileHeld look) w = some (outcome, w) := by
  unfold finish
  by_cases replayed : outcome.isReplay <;> simp [replayed]

theorem whileHeld_sleep (k : Nat) :
    whileHeld look (.sleep c.policy.pollIntervalMs.toNat) (waited c (look · key) k) =
      some ((), { waited c (look · key) k with elapsed := c.instant (k + 1) }) := by
  simp only [whileHeld, waited, Context.instant, Nat.succ_mul]
  rfl

theorem waited_zero (looks : Nat → Except Failure (Option Cached)) :
    waited c looks 0 = ⟨0, [(0, .contended), (0, .missed)]⟩ := by
  simp [waited, Context.instant]

theorem waited_succ (looks : Nat → Except Failure (Option Cached)) (k : Nat) :
    waited c looks (k + 1) =
      { waited c looks k with elapsed := c.instant (k + 1) }.made
        (.lookup (looks (c.instant (k + 1)))) := by
  simp [waited, Wait.made, List.range_succ]

theorem whileHeld_lookup (k : Nat) :
    whileHeld look (.lookup key) { waited c (look · key) k with elapsed := c.instant (k + 1) } =
      some (look (c.instant (k + 1)) key, waited c (look · key) (k + 1)) := by
  have called : (waited c (look · key) k).calls.isEmpty = false := by simp [waited]
  simp only [whileHeld, called, waited_succ]
  rfl

theorem exists_resolved (left attempt k : Nat) (all : k + left = c.polls)
    (missed : ∀ j, 1 ≤ j → j ≤ k → look (c.instant j) key = .ok none) :
    ∃ looks result, (poll c key fingerprint left attempt).run? (whileHeld look)
        (waited c (look · key) k) = some (result, waited c (look · key) looks) ∧
      Resolved c fingerprint (look · key) looks result := by
  -- By induction on the look-ups that are left: each look-up that misses moves one of them to the others.
  induction left generalizing attempt k with
  | zero =>
    obtain rfl : k = c.polls := all
    exact ⟨c.polls, _, rfl, .waitedOut missed⟩
  | succ left ih =>
    unfold poll
    simp only [Program.bind_eq, run?_answered (whileHeld_sleep k), run?_answered (whileHeld_lookup k)]
    have allowed : k < c.polls := by omega
    cases shown : look (c.instant (k + 1)) key with
    | ok found =>
      cases found with
      | some cached =>
        refine ⟨k + 1, _, ?_, .found k allowed missed cached shown⟩
        rw [run?_log, Program.run?_bind, run?_replay]
        rfl
      | none =>
        refine ih (attempt + 1) (k + 1) (by omega) fun j first last => ?_
        rcases Nat.lt_or_eq_of_le last with earlier | rfl
        · exact missed j first (by omega)
        · exact shown
    | error failure =>
      rw [Program.run?_bind, run?_lookupFailed]
      by_cases opens : c.policy.failOpen
      · refine ⟨k + 1, _, ?_, .gaveUp k allowed missed failure shown opens⟩
        simp [opens]
      · refine ⟨k + 1, _, ?_, .refused k allowed missed failure shown (by simpa using opens)⟩
        simp [opens]

theorem exists_resolved_contention (c : Context) (fingerprint : Option String) (key : CompositeKey)
    (look : Nat → CompositeKey → Except Failure (Option Cached)) :
    ∃ looks result, (resolveContention c key fingerprint).run? (whileHeld look)
        (waited c (look · key) 0) = some (result, waited c (look · key) looks) ∧
      Resolved c fingerprint (look · key) looks result := by
  unfold resolveContention
  cases policy : c.policy.conflictPolicy with
  | waitAndPoll =>
    have polls : c.polls = c.policy.pollAttempts.toNat := by simp [Context.polls, policy]
    exact exists_resolved _ 1 0 (by omega) (by omega)
  | returnConflict =>
    have polls : c.polls = 0 := by simp [Context.polls, policy]
    have waits : Resolved c fingerprint (look · key) c.polls
        (.ok (.conflict c.policy.lockTimeoutSecs.toNat)) := .waitedOut (by omega)
    rw [polls] at waits
    exact ⟨0, _, rfl, waits⟩

-- Up to the moment at which the lock is refused the store is looked at once.
theorem run?_course (locking : c.usesLock = true) :
    (course c key fingerprint).run? (whileHeld look) {} =
      (resolveContention c key fingerprint).run? (whileHeld look) (waited c (look · key) 0) := by
  unfold course acquire
  rw [waited_zero, if_pos locking]
  rfl

theorem exists_resolved_execute {r : Request} (identity : identity? c r = some key)
    (locking : c.usesLock = true) (look : Nat → CompositeKey → Except Failure (Option Cached)) :
    ∃ looks result, (execute c r).run? (whileHeld look) {} =
        some (result, waited c (look · key) looks) ∧
      Resolved c r.fingerprint (look · key) looks result := by
  obtain ⟨looks, result, ran, resolved⟩ := exists_resolved_contention c r.fingerprint key look
  refine ⟨looks, result, ?_, resolved⟩
  unfold identity? at identity
  unfold execute
  match parsed : parseKey c r with
  | .error reason => simp [parsed] at identity
  | .ok k =>
    have same : CompositeKey.build r.method r.route k = key := by simpa [parsed] using identity
    simp only [Program.bind_eq, run?_tick, run?_report, same]
    rw [Program.run?_bind, run?_course locking, ran]
    cases result with
    | error failure => rfl
    | ok outcome =>
      simp only [Option.bind_some, run?_report]
      rw [Program.run?_bind, run?_finish]
      rfl

theorem Resolved.looks_le {looks : Nat} {result : Except Failure Outcome}
    {shows : Nat → Except Failure (Option Cached)} (resolved : Resolved c fingerprint shows looks result) :
    looks ≤ c.polls := by
  cases resolved with
  | found | refused | gaveUp => assumption
  | waitedOut => exact le_rfl

theorem Resolved.decision_iff {looks : Nat} {result : Except Failure Outcome}
    {shows : Nat → Except Failure (Option Cached)} (resolved : Resolved c fingerprint shows looks result)
    {found : Nat → Option Cached} (unfailing : ∀ time, shows time = .ok (found time)) :
    (∃ cached, result = .ok (decision c fingerprint cached)) ↔
      ∃ j, 1 ≤ j ∧ j ≤ c.polls ∧ ∃ cached, found (c.instant j) = some cached := by
  cases resolved with
  | found k allowed missed cached shown =>
    have there := Except.ok.inj ((unfailing _).symm.trans shown)
    exact ⟨fun _ => ⟨k + 1, by omega, allowed, cached, there⟩, fun _ => ⟨cached, rfl⟩⟩
  | refused k allowed missed failure shown | gaveUp k allowed missed failure shown =>
    exact nomatch (unfailing _).symm.trans shown
  | waitedOut missed =>
    constructor
    · rintro ⟨cached, same⟩
      exact absurd (Except.ok.inj same).symm (decision_ne_conflict c fingerprint cached _)
    · rintro ⟨j, first, last, cached, there⟩
      have none := Except.ok.inj ((unfailing _).symm.trans (missed j first last))
      exact nomatch none.symm.trans there

theorem kind_of_mem_waited {shows : Nat → Except Failure (Option Cached)} {looks time : Nat} {call : Call}
    (present : (time, call) ∈ (waited c shows looks).calls) :
    call.kind = .lookup ∨ call.kind = .acquire := by
  simp only [waited, List.mem_append, List.mem_map, List.mem_cons, Prod.mk.injEq, List.not_mem_nil,
    or_false] at present
  rcases present with ⟨k, -, -, rfl⟩ | ⟨-, rfl⟩ | ⟨-, rfl⟩
  · exact .inl rfl
  · exact .inr rfl
  · exact .inl rfl

-- A response for the key lives in the store at a time since the lock was refused.
def LivesAt (memory : Nat → MemoryStore) (clock : Nat → Timestamp) (key : CompositeKey) (time : Nat) :
    Prop :=
  ∃ cached, (memory time).kept? key = some cached ∧ clock time < cached.expiresAt

-- A contended request looks once after each pause, and what it is shown first decides how it ends. It runs
-- nothing.
theorem execute_contended {r : Request} (identity : identity? c r = some key)
    (locking : c.usesLock = true) (look : Nat → CompositeKey → Except Failure (Option Cached)) :
    ∃ looks result,
      (execute c r).run? (whileHeld look) {} = some (result, waited c (look · key) looks) ∧
      Resolved c r.fingerprint (look · key) looks result ∧
      looks ≤ c.policy.pollAttempts.toNat ∧
      (c.policy.conflictPolicy = .returnConflict →
        looks = 0 ∧ result = .ok (.conflict c.policy.lockTimeoutSecs.toNat)) ∧
      (∀ time call, (time, call) ∈ (waited c (look · key) looks).calls →
        call.kind = .lookup ∨ call.kind = .acquire) ∧
      ∀ memory clock, (∀ time other, look time other = .ok ((memory time).get (clock time) other)) →
        ((∃ cached, result = .ok (decision c r.fingerprint cached)) ↔
          ∃ j, 1 ≤ j ∧ j ≤ c.polls ∧ LivesAt memory clock key (c.instant j)) ∧
        (c.policy.fingerprintPolicy = .ignore →
          ((∃ cached, result = .ok (.replayed cached)) ↔
            ∃ j, 1 ≤ j ∧ j ≤ c.polls ∧ LivesAt memory clock key (c.instant j))) := by
  obtain ⟨looks, result, ran, resolved⟩ := exists_resolved_execute identity locking look
  refine ⟨looks, result, ran, resolved, resolved.looks_le.trans c.polls_le, fun policy => ?_,
    fun time call => kind_of_mem_waited, fun memory clock inMemory => ?_⟩
  · have none : c.polls = 0 := by simp [Context.polls, policy]
    cases resolved with
    | found _ allowed | refused _ allowed | gaveUp _ allowed => omega
    | waitedOut => exact ⟨none, rfl⟩
  · have lives := resolved.decision_iff (inMemory · key)
    simp only [MemoryStore.get_eq_some_iff] at lives
    refine ⟨lives, fun ignores => ?_⟩
    have replays (cached : Cached) : decision c r.fingerprint cached = .replayed cached :=
      decision_eq_replayed fun rejects => by simp [ignores] at rejects
    simp only [replays] at lives
    exact lives

end

def patient : Context :=
  { policy := { conflictPolicy := .waitAndPoll, pollAttempts := 3 }, backend := "memory", hasLocks := true }

def keptReceipt : Cached :=
  { status := 202, body := none, contentType := none, createdAt := .epoch
    expiresAt := ⟨3600, 0, by decide⟩, fingerprint := none }

-- The request that holds the lock stores its response just when the other one looks for the second time.
def finishingStore (time : Nat) : MemoryStore :=
  if time < 400 then {} else ({} : MemoryStore).put orderToken.key keptReceipt

def showFinishing (time : Nat) (key : CompositeKey) : Except Failure (Option Cached) :=
  .ok ((finishingStore time).get .epoch key)

theorem patient_order_is_replayed :
    (execute patient placeOrder).run? (whileHeld showFinishing) {} =
        some (.ok (.replayed keptReceipt), waited patient (showFinishing · orderToken.key) 2) ∧
      ∃ looks, waited patient (showFinishing · orderToken.key) 2 =
          waited patient (showFinishing · orderToken.key) looks ∧
        Resolved patient none (showFinishing · orderToken.key) looks (.ok (.replayed keptReceipt)) ∧
        ∃ j, 1 ≤ j ∧ j ≤ 3 ∧ LivesAt finishingStore (fun _ => .epoch) orderToken.key (patient.instant j) := by
  have ran : (execute patient placeOrder).run? (whileHeld showFinishing) {} =
      some (.ok (.replayed keptReceipt), waited patient (showFinishing · orderToken.key) 2) := rfl
  have identity : identity? patient placeOrder = some orderToken.key := rfl
  obtain ⟨looks, result, same, resolved, -, -, -, memory⟩ :=
    execute_contended identity rfl showFinishing
  obtain ⟨ended, waits⟩ := Prod.mk.inj (Option.some.inj (ran.symm.trans same))
  obtain ⟨-, replays⟩ := memory finishingStore (fun _ => .epoch) fun _ _ => rfl
  subst ended
  exact ⟨ran, looks, waits, resolved, (replays rfl).1 ⟨keptReceipt, rfl⟩⟩

end Request

end OncePerKey
