import OncePerKey.Proofs.Request.Kept

set_option autoImplicit false

namespace OncePerKey.Request

def Write.lifetime (x : Write) : Set Timestamp :=
  Set.Ico x.time x.response.expiresAt

def readOf {ι : Type} : Exchange ι Ask Ask.Answer → Option (CompositeKey × Cached)
  | ⟨_, _, .lookup key, .ok (some cached)⟩ => some (key, cached)
  | ⟨_, _, .write key _, .ok (.alreadyExists cached)⟩ => some (key, cached)
  | _ => none

section

variable {c : Context} {fingerprint : Option String} {cached : Cached}

theorem not_replayed_await (left : Nat) :
    (Stage.await c left).result? ≠ some (.ok (.replayed cached)) := by
  cases left <;> simp [Stage.await, Stage.result?]

theorem not_replayed_start (r : Request) :
    (Stage.start c r).result? ≠ some (.ok (.replayed cached)) := by
  unfold Stage.start
  split <;> simp [Stage.result?]

theorem readOf_of_replayed {ι : Type} {key : CompositeKey} {s s' : Stage} {q : Ask} {r : q.Answer}
    (i : ι) (time : Timestamp) (move : Move c fingerprint key s q r s')
    (replayed : s'.result? = some (.ok (.replayed cached))) :
    s.result? = some (.ok (.replayed cached)) ∨ readOf ⟨i, time, q, r⟩ = some (key, cached) := by
  cases move with
  | noted => exact .inl replayed
  | released => exact .inl replayed
  | found s found looks =>
    simp only [Stage.result?_leave, Option.some.injEq, Except.ok.injEq] at replayed
    rw [eq_of_decision_eq_replayed replayed]
    exact .inr rfl
  | lost guard captured offered existing =>
    simp only [Stage.result?_leave, Option.some.injEq, Except.ok.injEq] at replayed
    rw [eq_of_decision_eq_replayed replayed]
    exact .inr rfl
  | polled left => exact absurd replayed (not_replayed_await left)
  | gaveUp => exact absurd replayed (not_replayed_await 0)
  | contended left => exact absurd replayed (not_replayed_await left)
  | refused | failed | unreachable | notEligible | unstorable | written | writeFailed =>
    simp at replayed
  | _ => exact nomatch replayed

end

section

variable {locks : Coordinator} {ι : Type} {w₀ v w : World (overMemory locks) ι (Except Failure Outcome)}

theorem get_of_readOf {now time : Timestamp} {s s' : Shared locks} {i : ι} {q : Ask} {r : q.Answer}
    {key : CompositeKey} {cached : Cached} (answers : s.answers now q r s')
    (read : readOf ⟨i, time, q, r⟩ = some (key, cached)) : s.store.get now key = some cached := by
  cases q with
  | lookup k =>
    obtain ⟨rfl, -⟩ := answers
    cases found : s.store.get now k with
    | none => simp [readOf, found] at read
    | some c =>
      simp only [readOf, found, Option.some.injEq, Prod.mk.injEq] at read
      rw [← read.1, ← read.2, found]
  | write k offered =>
    obtain ⟨rfl, -⟩ := answers
    cases found : s.store.get now k with
    | none => simp [readOf, MemoryStore.set_of_get_eq_none found] at read
    | some c =>
      simp only [readOf, MemoryStore.set_of_get_eq_some found, Option.some.injEq,
        Prod.mk.injEq] at read
      rw [← read.1, ← read.2, found]
  | _ => simp [readOf] at read

variable [DecidableEq ι]

theorem writes_inTurn (begun : w₀.history = []) (run : World.Reaches w₀ w) :
    (writes w.history).Pairwise fun later earlier =>
      earlier.key = later.key → earlier.response.expiresAt ≤ later.time := by
  refine World.pairwise_filterMap writeOf begun run ?_
  intro ⟨i, time, q, r⟩ v v' x happened stored y earlier same
  obtain rfl : time = v.now := happened.time
  rcases Shared.store_cases i happened.answers with ⟨nothing, -, -⟩ | ⟨z, written, atNow, free, -⟩
  · exact nomatch nothing.symm.trans stored
  · obtain rfl : z = x := Option.some.inj (written.symm.trans stored)
    -- A response that is still live would be found by the write.
    by_contra longer
    rw [atNow, not_le] at longer
    have given := get_of_written begun happened.before earlier longer
    rw [same, free] at given
    exact nomatch given

variable {contexts : ι → Context} {requests : ι → Request}

def ReadLive (w₀ w : World (overMemory locks) ι (Except Failure Outcome)) (i : ι)
    (key : CompositeKey) (cached : Cached) : Prop :=
  ∃ e v v', World.Happened w₀ w e v v' ∧ e.task = i ∧ readOf e = some (key, cached) ∧
    v.state.store.get v.now key = some cached ∧
    ((∃ x ∈ writes v.history, x.key = key ∧ x.response = cached) ∨
      w₀.state.store.get w₀.now key = some cached)

theorem ReadLive.mono {i : ι} {key : CompositeKey} {cached : Cached}
    (read : ReadLive w₀ v i key cached) (run : World.Reaches v w) : ReadLive w₀ w i key cached := by
  obtain ⟨e, u, u', happened, rest⟩ := read
  exact ⟨e, u, u', happened.mono run, rest⟩

theorem readLive_of_certain (starts : w₀.Starts fun i => execute (contexts i) (requests i))
    (run : World.Reaches w₀ w) {i : ι} {cached : Cached}
    (certain : (stageOf (contexts i) (requests i) i w.history).result? =
      some (.ok (.replayed cached))) :
    ∃ key, identity? (contexts i) (requests i) = some key ∧ ReadLive w₀ w i key cached := by
  refine cause_of_stageOf (p := fun s => s.result? = some (.ok (.replayed cached)))
    (P := fun w => ∃ key, identity? (contexts i) (requests i) = some key ∧ ReadLive w₀ w i key cached)
    starts (not_replayed_start (requests i)) ?_ ?_ run certain
  · rintro u v step ⟨key, identity, read⟩
    exact ⟨key, identity, read.mono (.single step)⟩
  · intro v q next r s s' run asks answers move certain
    rcases readOf_of_replayed i v.now move certain with old | read
    · exact .inl old
    · have question : ∀ note, q ≠ .report note := by
        rintro note rfl
        simp [readOf] at read
      have live := get_of_readOf answers read
      exact .inr ⟨_, identity?_of_question starts run asks question, _, v, _,
        World.happened_of_answer run asks answers, rfl, read, live, origin_of_get run live⟩

-- A request replays the response that was live when it read it.
theorem store_decides (starts : w₀.Starts fun i => execute (contexts i) (requests i))
    (run : World.Reaches w₀ w) :
    ((writes w.history).Pairwise fun x y => x.key = y.key → Disjoint x.lifetime y.lifetime) ∧
      ∀ i cached, w.tasks i = .done (.ok (.replayed cached)) →
        ∃ key, identity? (contexts i) (requests i) = some key ∧ ReadLive w₀ w i key cached := by
  constructor
  · refine (writes_inTurn starts.2 run).imp ?_
    intro later earlier inTurn same
    exact Timestamp.disjoint_of_le (inTurn same.symm)
  · intro i cached ended
    apply readLive_of_certain starts run
    rw [stageOf_of_done starts run ended]
    rfl

end

def withoutLocks : Context :=
  { policy := { useLock := false }, backend := "memory", hasLocks := false }

def race : World (overMemory .memory) Bool (Except Failure Outcome) :=
  twoOrders withoutLocks

def created : Captured :=
  { status := 201, contentType := none, body := [] }

def raced : World (overMemory .memory) Bool (Except Failure Outcome) :=
  race.play (Shared.reply (.ok created)) (List.replicate 13 [false, true]).flatten

theorem race_reaches_raced : World.Reaches race raced :=
  World.reaches_play (Shared.answers_of_reply (.ok created)) race _

def firstCreated : Cached :=
  { status := 201, body := none, contentType := none, createdAt := .epoch,
    expiresAt := ⟨86400, 0, by decide⟩, fingerprint := none }

set_option maxRecDepth 4000 in
theorem loser_of_race_replays :
    raced.tasks true = .done (.ok (.replayed firstCreated)) ∧
      ∃ key, identity? withoutLocks placeOrder = some key ∧
        ReadLive race raced true key firstCreated := by
  have starts : race.Starts fun _ => execute withoutLocks placeOrder := ⟨rfl, rfl⟩
  have ended : raced.tasks true = .done (.ok (.replayed firstCreated)) := rfl
  exact ⟨ended, (store_decides starts race_reaches_raced).2 true firstCreated ended⟩

end OncePerKey.Request
