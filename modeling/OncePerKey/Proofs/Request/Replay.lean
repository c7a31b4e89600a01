import OncePerKey.Proofs.Request.Kept
import OncePerKey.Proofs.Request.Verdict

set_option autoImplicit false

namespace OncePerKey.Request

open Call (times)

section

variable {c : Context} {fingerprint : Option String} {key : CompositeKey} {s s' : Stage}
  {calls : List Call} {result : Except Failure Outcome} {captured : Captured}

theorem eq_of_operates_once {r r' : Except Failure Captured} {earlier : List Call}
    (once : times .operate (.operate r :: earlier) ≤ 1)
    (present : .operate r' ∈ Call.operate r :: earlier) : r' = r :=
  Call.operate.inj (eq_of_times_le_one once List.mem_cons_self rfl present rfl)

structure Undenied (calls : List Call) : Prop where
  read : ∀ failure, .lookup (.error failure) ∉ calls
  wrote : ∀ cached failure, .write cached (.error failure) ∉ calls
  won : ∀ cached existing, .write cached (.ok (.alreadyExists existing)) ∉ calls

theorem Undenied.of_cons {call : Call} (undenied : Undenied (call :: calls)) : Undenied calls where
  read failure present := undenied.read failure (List.mem_cons_of_mem _ present)
  wrote cached failure present := undenied.wrote cached failure (List.mem_cons_of_mem _ present)
  won cached existing present := undenied.won cached existing (List.mem_cons_of_mem _ present)

theorem Snapshot.decision_eq {cached : Cached} {other : Option String}
    (snapshot : Snapshot fingerprint captured cached)
    (permitted : c.policy.fingerprintPolicy = .ignore ∨ other = fingerprint) :
    decision c other cached = .replayed cached := by
  obtain ⟨now, lifetime, made⟩ := snapshot
  have stored := Cached.fingerprint_of_ofCaptured made
  refine decision_eq_replayed fun rejects => not_differs_iff.2 (.inr (.inr ?_))
  rcases permitted with ignores | same
  · exact nomatch rejects.symm.trans ignores
  · exact same.trans stored.symm

theorem Verdict.executed (verdict : Verdict c fingerprint calls result) (valid : c.policy.Valid)
    (once : times .operate calls ≤ 1) (ran : .operate (.ok captured) ∈ calls)
    (undenied : Undenied calls) :
    (∃ cached, .write cached (.ok .written) ∈ calls ∧ Snapshot fingerprint captured cached ∧
      result = .ok (.executedCached captured cached.expiresAt)) ∨
    ∃ reason, result = .ok (.executedUncached captured reason) ∧ ¬ c.Stores captured := by
  induction verdict with
  | unrun calls result idle =>
    have some := times_pos_of_mem ran
    simp only [Call.kind, idle, Nat.lt_irrefl] at some
  | failed failure earlier => cases eq_of_operates_once once ran
  | unread _ failure earlier unread =>
    exact absurd (List.mem_cons_of_mem _ unread) (undenied.read failure)
  | notEligible got earlier refused =>
    cases eq_of_operates_once once ran
    exact .inr ⟨_, rfl, fun stores => by simp [stores.1] at refused⟩
  | unstorable got earlier lifetime now fault lives snapshot other =>
    cases eq_of_operates_once once ran
    refine .inr ⟨_, rfl, ?_⟩
    rintro ⟨-, text, decoded⟩
    rcases Cached.ofCaptured_of_text (Policy.lifetime_pos valid lives) decoded with
      never | ⟨cached, made⟩
    · exact other (Except.error.inj (snapshot.symm.trans never))
    · cases snapshot.symm.trans made
  | written got cached earlier snapshot =>
    have once' : times .operate (.operate (.ok got) :: earlier) ≤ 1 := by
      simpa [Call.kind] using once
    cases eq_of_operates_once once' ((List.mem_cons.1 ran).resolve_left (by simp))
    exact .inl ⟨cached, List.mem_cons_self, snapshot, rfl⟩
  | lost got cached existing earlier => exact absurd List.mem_cons_self (undenied.won cached existing)
  | writeFailed got cached failure earlier =>
    exact absurd List.mem_cons_self (undenied.wrote cached failure)
  | released token r verdict ih =>
    have once' := once
    simp only [times_cons, Call.kind, reduceCtorEq, if_false, Nat.add_zero] at once'
    rcases ih once' (by simpa using ran) undenied.of_cons with ⟨cached, stored, rest⟩ | uncached
    · exact .inl ⟨cached, List.mem_cons_of_mem _ stored, rest⟩
    · exact .inr uncached

inductive Finds (c : Context) (r : Request) (response : Cached) : Stage → List Call → Prop where
  | before : Finds c r response .looking []
  | found : Finds c r response (.finished (.ok (decision c r.fingerprint response)))
      [.lookup (.ok (some response))]

theorem Finds.move {ι : Type} {r : Request} {response : Cached} {q : Ask} {a : q.Answer} (j : ι)
    (time : Timestamp)
    (finds : Finds c r response s calls) (move : Move c r.fingerprint key s q a s')
    (there : ∀ looked, callOf ⟨j, time, q, a⟩ = some (.lookup looked) → looked = .ok (some response)) :
    Finds c r response s' ((callOf ⟨j, time, q, a⟩).toList ++ calls) := by
  cases finds with
  | before =>
    cases move with
    | noted => exact .before
    | found _ cached =>
      cases there _ rfl
      exact .found
    | missed | missedWithoutLocks | refused | passedOver => cases there _ rfl
  | found =>
    cases move with
    | noted => exact .found
    | found _ _ looks | refused _ _ looks => cases looks

theorem Finds.idle {r : Request} {response : Cached} (finds : Finds c r response s calls) :
    times .operate calls = 0 := by
  cases finds <;> rfl

theorem Move.key_of_lookup {other : CompositeKey} {looked : Except Failure (Option Cached)}
    (move : Move c fingerprint key s (.lookup other) looked s') : other = key := by
  cases move <;> rfl

end

section

variable {S : Surroundings Ask Ask.Answer} {ι : Type} [DecidableEq ι] {contexts : ι → Context}
  {requests : ι → Request} {w₀ w : World S ι (Except Failure Outcome)} {i : ι}

theorem executed_of_written (starts : w₀.Starts fun i => execute (contexts i) (requests i))
    (run : World.Reaches w₀ w) {time : Timestamp} {key : CompositeKey} {cached : Cached}
    (written : ⟨i, time, .write key cached, .ok .written⟩ ∈ w.history) :
    identity? (contexts i) (requests i) = some key ∧
      ∃ captured, .operate (.ok captured) ∈ calls i w.history ∧ (contexts i).Stores captured ∧
        Snapshot (requests i).fingerprint captured cached ∧
        (stageOf (contexts i) (requests i) i w.history).result? =
          some (.ok (.executedCached captured cached.expiresAt)) := by
  obtain ⟨v, v', happened⟩ := World.happened_of_mem starts.2 run written
  obtain ⟨next, asks⟩ := happened.asks
  have identity := identity?_of_question starts happened.before asks fun _ => nofun
  have move := move_of_ask starts happened.before asks time (.ok .written)
  have made := made_of_reaches starts (i := i) rfl happened.before
  have ledger := ledger_of_reaches starts happened.before i
  have ended : ∀ {result}, (stageOf (contexts i) (requests i) i v'.history).result? = some result →
      (stageOf (contexts i) (requests i) i w.history).result? = some result :=
    certain_of_reaches starts happened.reaches happened.after
  have earlier {call : Call} (present : call ∈ calls i v.history) : call ∈ calls i w.history :=
    shownBy_mono happened.rest.history_suffix present
  rw [happened.history] at ended
  simp only at identity move
  generalize keyOf (contexts i) (requests i) = own at identity move
  generalize calls i v.history = before at made ledger earlier
  generalize stageOf (contexts i) (requests i) i v.history = stage at made move ledger
  generalize stageOf (contexts i) (requests i) i (_ :: v.history) = later at move ended
  cases move with
  | written guard captured =>
    cases made with
    | writing opening stores =>
      exact ⟨identity, captured, earlier List.mem_cons_self, stores, ledger.of_writing.1,
        ended (Stage.result?_leave guard _)⟩

end

section

variable {locks : Coordinator} {ι : Type} [DecidableEq ι] {contexts : ι → Context}
  {requests : ι → Request} {w₀ v w : World (overMemory locks) ι (Except Failure Outcome)} {i j : ι}

theorem undenied_of_reaches (begun : w₀.history = []) (run : World.Reaches w₀ w)
    (won : ∀ time key offered existing,
      ⟨i, time, .write key offered, .ok (.alreadyExists existing)⟩ ∉ w.history) :
    Undenied (calls i w.history) := by
  constructor
  · intro failure present
    obtain ⟨time, q, r, inside, shown⟩ := exists_of_mem_calls present
    obtain ⟨u, u', happened⟩ := World.happened_of_mem begun run inside
    have answers := happened.answers
    cases q with
    | lookup key =>
      obtain ⟨given, -⟩ := answers
      cases given
      cases shown
    | _ => cases shown
  · intro cached failure present
    obtain ⟨time, q, r, inside, shown⟩ := exists_of_mem_calls present
    obtain ⟨u, u', happened⟩ := World.happened_of_mem begun run inside
    have answers := happened.answers
    cases q with
    | write key offered =>
      obtain ⟨given, -⟩ := answers
      cases given
      cases shown
    | _ => cases shown
  · intro cached existing present
    obtain ⟨time, q, r, inside, shown⟩ := exists_of_mem_calls present
    cases q with
    | write key offered =>
      cases shown
      exact won time key cached existing inside
    | _ => cases shown

theorem stageOf_of_quiet (c : Context) (r : Request) {history : List (Exchange ι Ask Ask.Answer)}
    (quiet : ∀ e ∈ history, e.task = j → ∃ note, e.question = .report note) :
    stageOf c r j history = .start c r := by
  induction history with
  | nil => rfl
  | cons e earlier ih =>
    have before := ih fun e inside => quiet e (List.mem_cons_of_mem _ inside)
    obtain ⟨i, time, q, a⟩ := e
    by_cases same : i = j
    · subst same
      obtain ⟨note, rfl⟩ := quiet _ List.mem_cons_self rfl
      rw [stageOf_cons_self]
      exact before
    · rw [stageOf_cons_of_ne c r same]
      exact before

theorem calls_of_quiet {history : List (Exchange ι Ask Ask.Answer)}
    (quiet : ∀ e ∈ history, e.task = j → ∃ note, e.question = .report note) :
    calls j history = [] := by
  refine List.eq_nil_iff_forall_not_mem.2 fun call present => ?_
  obtain ⟨⟨i, time, q, a⟩, inside, mine, shown⟩ := mem_shownBy.1 present
  obtain ⟨note, rfl⟩ := quiet _ inside mine
  cases shown

theorem start_of_identity {c : Context} {r : Request} {key : CompositeKey}
    (identity : identity? c r = some key) : Stage.start c r = .looking := by
  unfold identity? at identity
  unfold Stage.start
  split
  · rfl
  · rename_i parsed
    simp [parsed] at identity

theorem finds_of_kept (starts : w₀.Starts fun i => execute (contexts i) (requests i)) {key : CompositeKey}
    (identity : identity? (contexts j) (requests j) = some key) (before : World.Reaches w₀ v)
    (quiet : ∀ e ∈ v.history, e.task = j → ∃ note, e.question = .report note) {response : Cached}
    (kept : ∀ u, World.Reaches v u → u.now < response.expiresAt →
      u.state.store.get u.now key = some response) (more : World.Reaches v w)
    (early : ∀ time key r, ⟨j, time, .lookup key, r⟩ ∈ w.history → time < response.expiresAt) :
    Finds (contexts j) (requests j) response (stageOf (contexts j) (requests j) j w.history)
      (calls j w.history) := by
  induction more with
  | refl =>
    rw [calls_of_quiet quiet, stageOf_of_quiet _ _ quiet, start_of_identity identity]
    exact .before
  | @tail u w more step ih =>
    have finds := ih fun time key r inside => early time key r (step.history_suffix.subset inside)
    cases step with
    | pass | change => exact finds
    | answer k q next a s asks answers =>
      by_cases same : k = j
      · subst same
        have move := move_of_ask starts (before.trans more) asks u.now a
        rw [World.answered_history, calls, shownBy_cons_self]
        refine finds.move k u.now move fun looked shown => ?_
        cases q with
        | lookup key =>
          cases shown
          have there := kept u more (early u.now key _ List.mem_cons_self)
          rw [← keyOf_eq identity, ← move.key_of_lookup] at there
          rw [answers.1, there]
        | _ => cases shown
      · have still : (u.answered k q a (next a) s).history.filter (·.task = j) =
            u.history.filter (·.task = j) := List.filter_cons_of_neg (by simpa using same)
        rw [calls, shownBy_congr still, World.answered_history, stageOf_cons_of_ne _ _ same]
        exact finds

theorem finds_of_reaches (starts : w₀.Starts fun i => execute (contexts i) (requests i)) {x : Write}
    (identity : identity? (contexts j) (requests j) = some x.key) (before : World.Reaches w₀ v)
    (written : x ∈ writes v.history)
    (quiet : ∀ e ∈ v.history, e.task = j → ∃ note, e.question = .report note)
    (more : World.Reaches v w)
    (early : ∀ time key r, ⟨j, time, .lookup key, r⟩ ∈ w.history → time < x.response.expiresAt) :
    Finds (contexts j) (requests j) x.response (stageOf (contexts j) (requests j) j w.history)
      (calls j w.history) :=
  finds_of_kept starts identity before quiet (fun _ after live =>
    get_of_written starts.2 (before.trans after)
      (writes_mono (World.Reaches.history_suffix after) written) live) more early

theorem result_of_executed (starts : w₀.Starts fun i => execute (contexts i) (requests i))
    (run : World.Reaches w₀ w) (valid : (contexts i).policy.Valid) {result : Except Failure Outcome}
    (ended : w.tasks i = .done result) {captured : Captured}
    (ran : .operate (.ok captured) ∈ calls i w.history)
    (won : ∀ time key offered existing,
      ⟨i, time, .write key offered, .ok (.alreadyExists existing)⟩ ∉ w.history) :
    (∃ time key cached, ⟨i, time, .write key cached, .ok .written⟩ ∈ w.history ∧
      result = .ok (.executedCached captured cached.expiresAt)) ∨
    ∃ reason, result = .ok (.executedUncached captured reason) ∧ ¬ (contexts i).Stores captured := by
  have conduct := (made_of_reaches starts (i := i) rfl run).conduct
  have verdict := verdict_of_done starts run ended
  rcases verdict.executed valid conduct.operates_once ran (undenied_of_reaches starts.2 run won) with
    ⟨cached, stored, -, ends⟩ | uncached
  · obtain ⟨time, q, r, inside, shown⟩ := exists_of_mem_calls stored
    cases q with
    | write key offered =>
      cases shown
      exact .inl ⟨time, key, cached, inside, ends⟩
    | _ => cases shown
  · exact .inr uncached

end

end OncePerKey.Request
