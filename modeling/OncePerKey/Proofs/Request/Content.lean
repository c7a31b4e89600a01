import OncePerKey.Proofs.Request.Conduct
import OncePerKey.Proofs.Request.Winner

set_option autoImplicit false

namespace OncePerKey

-- The clock that programs read shows the time.
def Surroundings.TellsTime (S : Surroundings Ask Ask.Answer) : Prop :=
  ∀ now s r s', S.answers now s .now r s' → r = now

theorem Policy.status_of_isCacheable {p : Policy} {status : UInt16}
    (eligible : p.isCacheable status = true) : (200 ≤ status ∧ status ≤ 399) ∨
      (400 ≤ status ∧ status ≤ 499 ∧ p.cacheErrorResponses = true) := by
  unfold isCacheable at eligible
  split at eligible
  · rename_i success
    exact .inl (by simpa using success)
  · split at eligible
    · rename_i refusal
      simp only [Bool.and_eq_true, decide_eq_true_eq] at refusal
      exact .inr ⟨refusal.1, refusal.2, eligible⟩
    · exact nomatch eligible

namespace Request

open Call (times)

structure Holding (S : Surroundings Ask Ask.Answer) where
  holds : S.State → CompositeKey → Cached → Prop
  answer : ∀ {now : Timestamp} {s s' : S.State} {q : Ask} {r : q.Answer} {key : CompositeKey}
    {cached : Cached}, S.answers now s q r s' → holds s' key cached →
      holds s key cached ∨ q = .write key cached
  change : ∀ {now : Timestamp} {s s' : S.State} {key : CompositeKey} {cached : Cached},
    S.changes now s s' → holds s' key cached → holds s key cached

namespace Stage

def offered? : Stage → Option (Captured × Cached)
  | .writing _ captured cached => some (captured, cached)
  | _ => none

theorem offered?_leave (guard : Option LockToken) (result : Except Failure Outcome) :
    (leave guard result).offered? = none := by
  cases guard <;> rfl

theorem offered?_await (c : Context) (left : Nat) : (await c left).offered? = none := by
  cases left <;> rfl

theorem offered?_start (c : Context) (r : Request) : (start c r).offered? = none := by
  unfold start
  split <;> rfl

end Stage

section

variable {S : Surroundings Ask Ask.Answer} {ι : Type} [DecidableEq ι] {contexts : ι → Context}
  {requests : ι → Request} {w₀ w : World S ι (Except Failure Outcome)} {i : ι}

theorem exists_operate {history : List (Exchange ι Ask Ask.Answer)} {r : Except Failure Captured}
    (ran : .operate r ∈ calls i history) : ∃ completed, ⟨i, completed, .operate, r⟩ ∈ history := by
  obtain ⟨completed, q, answer, inside, shown⟩ := exists_of_mem_calls ran
  cases q with
  | operate =>
    cases shown
    exact ⟨completed, inside⟩
  | _ => exact nomatch shown

def Prepared (c : Context) (fingerprint : Option String) (i : ι) (captured : Captured)
    (cached : Cached) (history : List (Exchange ι Ask Ask.Answer)) : Prop :=
  c.policy.isCacheable captured.status = true ∧
    (∃ lifetime, c.policy.lifetime? = some lifetime ∧
      Cached.ofCaptured cached.createdAt captured lifetime fingerprint = .ok cached) ∧
    ∃ completed read, List.Sublist
      [⟨i, read, .now, cached.createdAt⟩, ⟨i, completed, .operate, .ok captured⟩] history

theorem prepared_of_offered (starts : w₀.Starts fun i => execute (contexts i) (requests i))
    (run : World.Reaches w₀ w) {captured : Captured} {cached : Cached}
    (offered : (stageOf (contexts i) (requests i) i w.history).offered? = some (captured, cached)) :
    Prepared (contexts i) (requests i).fingerprint i captured cached w.history := by
  refine cause_of_stageOf (i := i) (p := fun s => s.offered? = some (captured, cached))
    (P := fun w => Prepared (contexts i) (requests i).fingerprint i captured cached w.history)
    starts (by simp [Stage.offered?_start]) ?_ ?_ run offered
  · rintro u v step ⟨eligible, made, completed, read, inside⟩
    exact ⟨eligible, made, completed, read, inside.trans step.history_suffix.sublist⟩
  · intro v q next r s s' reached asks _ move offered
    have made := made_of_reaches starts (i := i) rfl reached
    generalize stageOf (contexts i) (requests i) i v.history = stage at move made
    cases move with
    | noted => exact .inl offered
    | stored guard captured lifetime now cached snapshot =>
      cases offered
      cases Cached.createdAt_of_ofCaptured snapshot
      generalize before : calls i v.history = earlier at made
      cases made with
      | ran opening _ _ eligible lives =>
        have ran : .operate (.ok captured) ∈ calls i v.history := before ▸ List.mem_cons_self
        obtain ⟨completed, inside⟩ := exists_operate ran
        exact .inr ⟨eligible, ⟨lifetime, lives, snapshot⟩, completed, v.now,
          (List.singleton_sublist.2 inside).cons_cons _⟩
    | found | refused | failed | unreachable | notEligible | unstorable | written | lost | writeFailed =>
      exact nomatch (Stage.offered?_leave _ _).symm.trans offered
    | polled | gaveUp | contended => exact nomatch (Stage.offered?_await _ _).symm.trans offered
    | _ => exact nomatch offered

theorem offered_of_write (starts : w₀.Starts fun i => execute (contexts i) (requests i))
    (run : World.Reaches w₀ w) {key : CompositeKey} {cached : Cached}
    {next : Except Failure WriteOutcome → Handling (Except Failure Outcome)}
    (asks : w.tasks i = .ask (.write key cached) next) :
    identity? (contexts i) (requests i) = some key ∧ ∃ captured,
      (stageOf (contexts i) (requests i) i w.history).offered? = some (captured, cached) := by
  have identity := identity?_of_question starts run asks fun _ => nofun
  have move := move_of_ask starts run asks w.now (.ok .written)
  obtain ⟨rfl, guard, captured, writing⟩ := move.writing_of_write
  rw [writing]
  exact ⟨identity, captured, rfl⟩

structure Content (S : Surroundings Ask Ask.Answer) (c : Context) (r : Request) (i : ι)
    (time : Timestamp) (key : CompositeKey) (cached : Cached) (answer : Except Failure WriteOutcome)
    (history : List (Exchange ι Ask Ask.Answer)) : Prop where
  identity : identity? c r = some key
  eligible : (200 ≤ cached.status ∧ cached.status ≤ 399) ∨
    (400 ≤ cached.status ∧ cached.status ≤ 499 ∧ c.policy.cacheErrorResponses = true)
  ends : cached.createdAt.plus? (c.policy.expirationSecs.toNat * nanosPerSecond) = some cached.expiresAt
  mortal : cached.createdAt < cached.expiresAt
  lives : cached.createdAt.IsPlain →
    cached.expiresAt.since cached.createdAt = c.policy.expirationSecs.toNat * nanosPerSecond ∧
      0 < cached.expiresAt.since cached.createdAt
  body : cached.body ≠ some ""
  fingerprint : cached.fingerprint = r.fingerprint
  made : ∃ completed read,
    List.Sublist [⟨i, time, .write key cached, answer⟩, ⟨i, read, .now, cached.createdAt⟩,
      ⟨i, completed, .operate, .ok cached.toCaptured⟩] history ∧
    completed ≤ read ∧ read ≤ time ∧ (S.TellsTime → cached.createdAt = read)
  succeeded : ∀ completed failure, ⟨i, completed, .operate, .error failure⟩ ∉ history
  looked : ∀ looked own failure, ⟨i, looked, .lookup own, .error failure⟩ ∉ history

theorem content_of_write (starts : w₀.Starts fun i => execute (contexts i) (requests i))
    (run : World.Reaches w₀ w) (valid : (contexts i).policy.Valid) {time : Timestamp}
    {key : CompositeKey} {cached : Cached} {answer : Except Failure WriteOutcome}
    (present : ⟨i, time, .write key cached, answer⟩ ∈ w.history) :
    Content S (contexts i) (requests i) i time key cached answer w.history := by
  obtain ⟨v, v', happened⟩ := World.happened_of_mem starts.2 run present
  obtain ⟨next, asks⟩ := happened.asks
  obtain ⟨identity, captured, offered⟩ := offered_of_write starts happened.before asks
  obtain ⟨eligible, ⟨lifetime, lives, snapshot⟩, completed, read, before⟩ :=
    prepared_of_offered starts happened.before offered
  obtain rfl : cached.toCaptured = captured := Cached.toCaptured_of_ofCaptured snapshot
  obtain rfl : lifetime = (contexts i).policy.expirationSecs.toNat * nanosPerSecond :=
    Option.some.inj (lives.symm.trans (Policy.lifetime?_of_valid valid))
  have positive := Policy.lifetime_pos valid lives
  have ends := Cached.plus?_of_ofCaptured snapshot
  have whole : List.Sublist [⟨i, time, .write key cached, answer⟩, ⟨i, read, .now, cached.createdAt⟩,
      ⟨i, completed, .operate, .ok cached.toCaptured⟩] w.history := by
    have first := before.cons_cons ⟨i, time, .write key cached, answer⟩
    rw [← happened.history] at first
    exact first.trans happened.after.history_suffix.sublist
  obtain ⟨⟨late, -⟩, early⟩ : (read ≤ time ∧ completed ≤ time) ∧ completed ≤ read := by
    simpa using (World.pairwise_time starts.2 run).sublist whole
  have conduct := (made_of_reaches starts (i := i) rfl run).conduct
  have wrote : .write cached answer ∈ calls i w.history := mem_calls present rfl
  have clock := whole.subset (List.mem_cons_of_mem _ List.mem_cons_self)
  have ran : .operate (.ok cached.toCaptured) ∈ calls i w.history :=
    mem_calls (whole.subset (List.mem_cons_of_mem _ (List.mem_cons_of_mem _ List.mem_cons_self))) rfl
  exact {
    identity
    eligible := Policy.status_of_isCacheable eligible
    ends
    mortal := Timestamp.lt_of_plus? positive ends
    lives := by
      intro plain
      rw [Timestamp.since_of_plus? plain ends]
      exact ⟨rfl, positive⟩
    body := Cached.body_of_ofCaptured snapshot
    fingerprint := Cached.fingerprint_of_ofCaptured snapshot
    made := by
      refine ⟨completed, read, whole, early, late, fun tells => ?_⟩
      obtain ⟨u, u', shown⟩ := World.happened_of_mem starts.2 run clock
      exact (tells _ _ _ _ shown.answers).trans shown.time.symm
    succeeded := by
      intro completed failure failed
      have present : .operate (.error failure) ∈ calls i w.history := mem_calls failed rfl
      exact nomatch eq_of_times_le_one conduct.operates_once ran rfl present rfl
    looked := by
      intro looked own failure failed
      have once : times .write (calls i w.history) = 1 :=
        le_antisymm conduct.writes_once (times_pos_of_mem wrote)
      exact conduct.writes_read once failure (mem_calls failed rfl) }

theorem written_of_holds (H : Holding S)
    (empty : ∀ key cached, ¬ H.holds w₀.state key cached) (run : World.Reaches w₀ w)
    {key : CompositeKey} {cached : Cached} (held : H.holds w.state key cached) :
    ∃ i time answer, ⟨i, time, .write key cached, answer⟩ ∈ w.history := by
  induction run with
  | refl => exact absurd held (empty key cached)
  | @tail v w _ step ih =>
    cases step with
    | pass => exact ih held
    | change s changes => exact ih (H.change changes held)
    | answer i q next r s asks answers =>
      rcases H.answer answers held with old | rfl
      · obtain ⟨j, time, answer, present⟩ := ih old
        exact ⟨j, time, answer, List.mem_cons_of_mem _ present⟩
      · exact ⟨i, v.now, r, List.mem_cons_self⟩

-- Every response that is written befits a request, and a store that was empty holds nothing else.
theorem store_content (H : Holding S) (valid : ∀ i, (contexts i).policy.Valid)
    (starts : w₀.Starts fun i => execute (contexts i) (requests i))
    (empty : ∀ key cached, ¬ H.holds w₀.state key cached) (run : World.Reaches w₀ w) :
    (∀ i time key cached answer, ⟨i, time, .write key cached, answer⟩ ∈ w.history →
      Content S (contexts i) (requests i) i time key cached answer w.history) ∧
    ∀ key cached, H.holds w.state key cached →
      ∃ i time answer, ⟨i, time, .write key cached, answer⟩ ∈ w.history :=
  ⟨fun i _ _ _ _ present => content_of_write starts run (valid i) present,
    fun _ _ held => written_of_holds H empty run held⟩

end

def memoryHolding (locks : Coordinator) : Holding (overMemory locks) where
  holds s key cached := s.store.kept? key = some cached
  answer {now s s' q r key cached} answers held := by
    rcases Shared.store_cases () answers with ⟨-, same, -⟩ | ⟨x, written, -, -, put⟩
    · exact .inl (same ▸ held)
    · rw [put] at held
      by_cases own : key = x.key
      · subst own
        rw [MemoryStore.kept?_put_self] at held
        cases Option.some.inj held
        exact .inr (question_of_writeOf written)
      · rw [MemoryStore.kept?_put_of_ne own] at held
        exact .inl held
  change swept held := Shared.kept?_of_swept swept held

set_option maxRecDepth 4000 in
theorem content_of_race :
    raced.state.store.kept? (CompositeKey.build "POST" "/orders" ⟨"k-1"⟩) = some firstCreated ∧
      ∃ i time answer, Content (overMemory .memory) withoutLocks placeOrder i time
        (CompositeKey.build "POST" "/orders" ⟨"k-1"⟩) firstCreated answer raced.history := by
  have starts : race.Starts fun _ => execute withoutLocks placeOrder := ⟨rfl, rfl⟩
  have kept : raced.state.store.kept? (CompositeKey.build "POST" "/orders" ⟨"k-1"⟩) =
      some firstCreated := rfl
  obtain ⟨written, held⟩ := store_content (memoryHolding .memory) (fun _ => by decide) starts
    (fun _ _ => nofun) race_reaches_raced
  obtain ⟨i, time, answer, present⟩ := held _ _ kept
  exact ⟨kept, i, time, answer, written i time _ _ answer present⟩

end Request

end OncePerKey
