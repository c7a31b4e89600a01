import OncePerKey.Proofs.Request.Progress
import OncePerKey.Proofs.Request.Upshot
import OncePerKey.Proofs.Request.Winner

set_option autoImplicit false

namespace OncePerKey.Request

open Call (times)

-- The response that the store shows: what a look-up finds, or what was there before a write.
def Call.entry? : Call → Option Cached
  | .lookup (.ok found) => found
  | .write _ (.ok (.alreadyExists existing)) => some existing
  | _ => none

def entries (calls : List Call) : List Cached :=
  calls.filterMap Call.entry?

structure Compared (c : Context) (fingerprint : Option String) (calls : List Call)
    (result : Except Failure Outcome) : Prop where
  decides : ∀ cached ∈ entries calls, result = .ok (decision c fingerprint cached)
  -- The first look-up, the one under the lock, those while another has it, and the lost race.
  way : ∀ cached ∈ entries calls, ∃ guard earlier, Finding c cached guard earlier ∧
    (guard = none ∧ calls = earlier ∨
      ∃ token r, guard = some token ∧ calls = .release token r :: earlier)
  replayed : ∀ cached, result = .ok (.replayed cached) → cached ∈ entries calls ∧
    (c.policy.fingerprintPolicy = .reject →
      fingerprint = none ∨ cached.fingerprint = none ∨ fingerprint = cached.fingerprint)
  mismatch_iff : result = .ok .fingerprintMismatch ↔
    c.policy.fingerprintPolicy = .reject ∧ ∃ cached ∈ entries calls, Differs fingerprint cached
  ignored : c.policy.fingerprintPolicy = .ignore → result ≠ .ok .fingerprintMismatch

section

variable {c : Context} {fingerprint : Option String} {guard : Option LockToken} {reachable : Bool}
  {calls : List Call} {result : Except Failure Outcome}

theorem Opening.entries_eq (opening : Opening c guard reachable calls) : entries calls = [] := by
  cases opening <;> rfl

theorem Looking.entries_eq (looking : Looking c guard calls) : entries calls = [] := by
  cases looking with
  | first | again => rfl
  | poll misses => simp [awaited, entries, Call.entry?]

theorem Finding.entries_eq {cached : Cached} (finding : Finding c cached guard calls) :
    entries calls = [cached] := by
  cases finding with
  | looked looking => exact congrArg (cached :: ·) looking.entries_eq
  | lost opening => exact congrArg (cached :: ·) opening.entries_eq

theorem Upshot.entries_cases (upshot : Upshot c fingerprint guard calls result) :
    (∃ cached, Finding c cached guard calls ∧ result = .ok (decision c fingerprint cached)) ∨
      entries calls = [] ∧ (∀ cached, result ≠ .ok (.replayed cached)) ∧
        result ≠ .ok .fingerprintMismatch := by
  cases upshot with
  | found cached finding => exact .inl ⟨cached, finding, rfl⟩
  | rejected => exact .inr ⟨rfl, by simp, by simp⟩
  | refused looking => exact .inr ⟨looking.entries_eq, by simp, by simp⟩
  | gaveUp misses allowed => exact .inr ⟨(Looking.poll misses allowed).entries_eq, by simp, by simp⟩
  | contended => exact .inr ⟨by simp [awaited, entries, Call.entry?], by simp, by simp⟩
  | failed opening | unread opening | notEligible opening | unstorable opening | written opening
  | writeFailed opening => exact .inr ⟨opening.entries_eq, by simp, by simp⟩

theorem Finding.compared {cached : Cached} {earlier : List Call}
    (finding : Finding c cached guard earlier) (same : entries calls = entries earlier)
    (way : guard = none ∧ calls = earlier ∨
      ∃ token r, guard = some token ∧ calls = .release token r :: earlier) :
    Compared c fingerprint calls (.ok (decision c fingerprint cached)) := by
  rw [finding.entries_eq] at same
  have only : ∀ other ∈ entries calls, other = cached := by simp [same]
  constructor
  · intro other shown
    rw [only other shown]
  · intro other shown
    rw [only other shown]
    exact ⟨guard, earlier, finding, way⟩
  · intro other replays
    obtain rfl : cached = other := eq_of_decision_eq_replayed (Except.ok.inj replays)
    refine ⟨by simp [same], fun rejects => not_differs_iff.1 fun differs => ?_⟩
    have mismatch := decision_eq_mismatch_iff.2 ⟨rejects, differs⟩
    cases mismatch.symm.trans (Except.ok.inj replays)
  · rw [same]
    simp [decision_eq_mismatch_iff]
  · intro ignores mismatch
    simp [decision_eq_mismatch_iff, ignores] at mismatch

theorem compared_of_nothing_shown (none : entries calls = [])
    (unreplayed : ∀ cached, result ≠ .ok (.replayed cached)) (other : result ≠ .ok .fingerprintMismatch) :
    Compared c fingerprint calls result where
  decides cached shown := by simp [none] at shown
  way cached shown := by simp [none] at shown
  replayed cached ended := absurd ended (unreplayed cached)
  mismatch_iff := by simp [none, other]
  ignored _ := other

theorem Ended.compared (ended : Ended c fingerprint calls result) :
    Compared c fingerprint calls result := by
  cases ended with
  | unlocked upshot =>
    rcases upshot.entries_cases with ⟨cached, finding, rfl⟩ | ⟨none, unreplayed, other⟩
    · exact finding.compared rfl (.inl ⟨rfl, rfl⟩)
    · exact compared_of_nothing_shown none unreplayed other
  | released token r upshot =>
    rcases upshot.entries_cases with ⟨cached, finding, rfl⟩ | ⟨none, unreplayed, other⟩
    · exact finding.compared rfl (.inr ⟨token, r, rfl, rfl⟩)
    · exact compared_of_nothing_shown none unreplayed other

end

section

variable {ι : Type} {i : ι} {time : Timestamp} {q : Ask} {r : q.Answer} {cached : Cached}

theorem readOf_of_entry? {call : Call}
    (shown : callOf (⟨i, time, q, r⟩ : Exchange ι Ask Ask.Answer) = some call)
    (entry : call.entry? = some cached) :
    ∃ key, readOf (⟨i, time, q, r⟩ : Exchange ι Ask Ask.Answer) = some (key, cached) := by
  cases q with
  | lookup key =>
    cases shown
    match r with
    | .ok (some found) =>
      cases entry
      exact ⟨key, rfl⟩
  | write key offered =>
    cases shown
    match r with
    | .ok (.alreadyExists existing) =>
      cases entry
      exact ⟨key, rfl⟩
  | acquire | release | operate =>
    cases shown
    cases entry
  | _ => cases shown

theorem key_of_readOf {c : Context} {own key : CompositeKey} {s : Stage}
    (asked : s.question c own = some q)
    (read : readOf (⟨i, time, q, r⟩ : Exchange ι Ask Ask.Answer) = some (key, cached)) : key = own := by
  cases q with
  | lookup other =>
    cases s <;> cases asked <;> match r, read with | .ok (some _), rfl => rfl
  | write other offered =>
    cases s <;> cases asked
    match r, read with | .ok (.alreadyExists _), rfl => rfl
  | _ => cases read

end

section

variable {S : Surroundings Ask Ask.Answer} {ι : Type} [DecidableEq ι] {contexts : ι → Context}
  {requests : ι → Request} {w₀ w : World S ι (Except Failure Outcome)} {i : ι} {cached : Cached}

theorem exists_read_of_entries (starts : w₀.Starts fun i => execute (contexts i) (requests i))
    (run : World.Reaches w₀ w) (shown : cached ∈ entries (calls i w.history)) :
    ∃ key e v v', identity? (contexts i) (requests i) = some key ∧ World.Happened w₀ w e v v' ∧
      e.task = i ∧ readOf e = some (key, cached) := by
  obtain ⟨call, inside, entry⟩ := List.mem_filterMap.1 shown
  obtain ⟨time, q, r, present, shown⟩ := exists_of_mem_calls inside
  obtain ⟨v, v', happened⟩ := World.happened_of_mem starts.2 run present
  obtain ⟨key, read⟩ := readOf_of_entry? shown entry
  obtain ⟨next, asks⟩ := happened.asks
  rcases question_of_ask starts rfl happened.before asks with ⟨note, rfl⟩ | asked
  · cases shown
  · have identity := identity?_of_question starts happened.before asks (by rintro note rfl; cases shown)
    obtain rfl := key_of_readOf asked read
    exact ⟨_, _, v, v', identity, happened, rfl, read⟩

end

section

variable {locks : Coordinator} {ι : Type} [DecidableEq ι] (contexts : ι → Context)
  (requests : ι → Request) (w : World (overMemory locks) ι (Except Failure Outcome))

structure Awaits (j : ι) (key : CompositeKey) (cached : Cached) : Prop where
  identity : identity? (contexts j) (requests j) = some key
  quiet : ∀ e ∈ w.history, e.task = j → ∃ note, e.question = .report note
  agrees : (contexts j).policy.fingerprintPolicy = .reject →
    ¬ Differs (requests j).fingerprint cached

structure Spares (w₀ : World (overMemory locks) ι (Except Failure Outcome)) (i : ι)
    (key : CompositeKey) (cached : Cached) : Prop where
  identity : identity? (contexts i) (requests i) = some key
  differs : Differs (requests i).fingerprint cached
  shown : ∃ e v v', World.Happened w₀ w e v v' ∧ e.task = i ∧ readOf e = some (key, cached) ∧
    v.state.store.get v.now key = some cached
  unchanged : ∀ e v v', World.Happened w₀ w e v v' → e.task = i → v'.state.store = v.state.store
  released : ∀ token, .acquire (.ok (some token)) ∈ calls i w.history →
    ∃ r earlier, calls i w.history = .release token r :: earlier
  kept : ∀ u, World.Reaches w u → u.now < cached.expiresAt →
    u.state.store.get u.now key = some cached
  replayed : ∀ j u, Awaits contexts requests w j key cached → World.Reaches w u →
    (∀ time other r, ⟨j, time, .lookup other, r⟩ ∈ u.history → time < cached.expiresAt) →
    (∀ result, u.tasks j = .done result →
      result = .ok (.replayed cached) ∧ times .operate (calls j u.history) = 0) ∧
    (u.now < cached.expiresAt →
      ∃ x, World.Reaches u x ∧ x.now = u.now ∧ x.tasks j = .done (.ok (.replayed cached)))

variable {contexts} {requests} {w} {w₀ : World (overMemory locks) ι (Except Failure Outcome)} {i j : ι}
  {key : CompositeKey} {cached : Cached}

theorem unchanged_of_mismatch (starts : w₀.Starts fun i => execute (contexts i) (requests i))
    (run : World.Reaches w₀ w) (ended : w.tasks i = .done (.ok .fingerprintMismatch))
    {e : Exchange ι Ask Ask.Answer} {v v' : World (overMemory locks) ι (Except Failure Outcome)}
    (happened : World.Happened w₀ w e v v') (mine : e.task = i) : v'.state.store = v.state.store := by
  obtain ⟨i, time, q, r⟩ := e
  subst mine
  rcases Shared.store_cases i happened.answers with ⟨-, same, -⟩ | ⟨x, written, -⟩
  · exact same
  -- A request whose write is taken ends with its own response.
  · have inside : ⟨i, time, q, r⟩ ∈ w.history := by
      apply happened.after.history_suffix.subset
      rw [happened.history]
      exact List.mem_cons_self
    obtain rfl := question_of_writeOf written
    obtain rfl := answer_of_writeOf written
    obtain ⟨-, captured, -, -, -, certain⟩ := executed_of_written starts run inside
    rw [stageOf_of_done starts run ended] at certain
    cases certain

theorem Awaits.finds (awaits : Awaits contexts requests w j key cached)
    (starts : w₀.Starts fun i => execute (contexts i) (requests i)) (run : World.Reaches w₀ w)
    (kept : ∀ u, World.Reaches w u → u.now < cached.expiresAt →
      u.state.store.get u.now key = some cached)
    {u : World (overMemory locks) ι (Except Failure Outcome)} (more : World.Reaches w u)
    (early : ∀ time other r, ⟨j, time, .lookup other, r⟩ ∈ u.history → time < cached.expiresAt) :
    Finds (contexts j) (requests j) cached (stageOf (contexts j) (requests j) j u.history)
      (calls j u.history) :=
  finds_of_kept starts awaits.identity run awaits.quiet kept more early

theorem Finds.result_eq {c : Context} {r : Request} {calls : List Call}
    {result : Except Failure Outcome} (finds : Finds c r cached (.finished result) calls)
    (agrees : c.policy.fingerprintPolicy = .reject → ¬ Differs r.fingerprint cached) :
    result = .ok (.replayed cached) := by
  cases finds
  rw [decision_eq_replayed agrees]

theorem Awaits.replayed (awaits : Awaits contexts requests w j key cached)
    (starts : w₀.Starts fun i => execute (contexts i) (requests i)) (run : World.Reaches w₀ w)
    (kept : ∀ u, World.Reaches w u → u.now < cached.expiresAt →
      u.state.store.get u.now key = some cached)
    {u : World (overMemory locks) ι (Except Failure Outcome)} (more : World.Reaches w u)
    (early : ∀ time other r, ⟨j, time, .lookup other, r⟩ ∈ u.history → time < cached.expiresAt)
    {result : Except Failure Outcome} (ended : u.tasks j = .done result) :
    result = .ok (.replayed cached) ∧ times .operate (calls j u.history) = 0 := by
  have finds := awaits.finds starts run kept more early
  rw [stageOf_of_done starts (run.trans more) ended] at finds
  exact ⟨finds.result_eq awaits.agrees, finds.idle⟩

theorem Awaits.exists_done (awaits : Awaits contexts requests w j key cached)
    (starts : w₀.Starts fun i => execute (contexts i) (requests i)) (run : World.Reaches w₀ w)
    (kept : ∀ u, World.Reaches w u → u.now < cached.expiresAt →
      u.state.store.get u.now key = some cached)
    {u : World (overMemory locks) ι (Except Failure Outcome)} (more : World.Reaches w u)
    (live : u.now < cached.expiresAt) :
    ∃ x, World.Reaches u x ∧ x.now = u.now ∧ x.tasks j = .done (.ok (.replayed cached)) := by
  -- Without time passing no look-up of the request is late.
  have early {x : World (overMemory locks) ι (Except Failure Outcome)} (rest : World.Reaches u x)
      (still : x.now = u.now) (time : Timestamp) (other : CompositeKey)
      (r : Except Failure (Option Cached)) (inside : ⟨j, time, .lookup other, r⟩ ∈ x.history) :
      time < cached.expiresAt := by
    have shown := World.time_le_of_mem starts.2 (run.trans (more.trans rest)) inside
    rw [still] at shown
    exact lt_of_le_of_lt shown live
  obtain ⟨x, result, rest, still, ended⟩ := World.exists_done (w := u) (i := j)
    fun x q next rest still asks => exists_answer_of_finds starts (run.trans (more.trans rest))
      (awaits.finds starts run kept (more.trans rest) (early rest still)) asks
  obtain ⟨rfl, -⟩ := awaits.replayed starts run kept (more.trans rest) (early rest still) ended
  exact ⟨x, rest, still, ended⟩

theorem spares_of_mismatch (starts : w₀.Starts fun i => execute (contexts i) (requests i))
    (run : World.Reaches w₀ w) (ended : w.tasks i = .done (.ok .fingerprintMismatch))
    (shown : cached ∈ entries (calls i w.history)) :
    ∃ key, Spares contexts requests w w₀ i key cached := by
  have made := made_of_reaches starts (i := i) rfl run
  rw [stageOf_of_done starts run ended] at made
  have decided := (ended_of_done starts run ended).compared.decides cached shown
  have differs := (decision_eq_mismatch_iff.1 (Except.ok.inj decided).symm).2
  obtain ⟨key, ⟨_, time, q, r⟩, v, v', identity, happened, mine, read⟩ :=
    exists_read_of_entries starts run shown
  have there := get_of_readOf happened.answers read
  have kept (u : World (overMemory locks) ι (Except Failure Outcome)) (more : World.Reaches w u)
      (live : u.now < cached.expiresAt) : u.state.store.get u.now key = some cached :=
    get_of_reaches (happened.rest.trans more) there live
  exact ⟨key, {
    identity
    differs
    shown := ⟨_, v, v', happened, mine, read, there⟩
    unchanged := fun e v v' => unchanged_of_mismatch starts run ended
    released := fun token => made.released_of_granted
    kept
    replayed := fun j u awaits more early =>
      ⟨fun result => awaits.replayed starts run kept more early,
        awaits.exists_done starts run kept more⟩ }⟩

end

-- Whatever the store and the locks do, fingerprints are compared on every way to a stored response.
theorem fingerprints_compared {ι : Type} [DecidableEq ι] (contexts : ι → Context)
    (requests : ι → Request) :
    (∀ (S : Surroundings Ask Ask.Answer) (w₀ w : World S ι (Except Failure Outcome)),
      (w₀.Starts fun i => execute (contexts i) (requests i)) → World.Reaches w₀ w →
      ∀ i result, w.tasks i = .done result →
        Compared (contexts i) (requests i).fingerprint (calls i w.history) result) ∧
    ∀ (locks : Coordinator) (w₀ w : World (overMemory locks) ι (Except Failure Outcome)),
      (w₀.Starts fun i => execute (contexts i) (requests i)) → World.Reaches w₀ w →
      ∀ i, w.tasks i = .done (.ok .fingerprintMismatch) →
        ∀ cached ∈ entries (calls i w.history), ∃ key, Spares contexts requests w w₀ i key cached :=
  ⟨fun _ _ _ starts run _ _ ended => (ended_of_done starts run ended).compared,
    fun _ _ _ starts run _ ended _ shown => spares_of_mismatch starts run ended shown⟩

def comparing : Context :=
  { policy := { fingerprintPolicy := .reject }, backend := "memory", hasLocks := true }

inductive Guest where
  | first
  | second
  | third
deriving DecidableEq

def drinks : Guest → Request
  | .second => { placeOrder with fingerprint := some "tea" }
  | _ => { placeOrder with fingerprint := some "coffee" }

def threeDrinks : World (overMemory .memory) Guest (Except Failure Outcome) :=
  { now := .epoch, state := ⟨{}, {}⟩, tasks := fun i => execute comparing (drinks i), history := [] }

def refusedTea : World (overMemory .memory) Guest (Except Failure Outcome) :=
  threeDrinks.play (Shared.reply (.ok created)) (List.replicate 20 .first ++ List.replicate 10 .second)

def coffee : Cached :=
  { firstCreated with fingerprint := some "coffee" }

set_option maxRecDepth 4000 in
theorem coffee_replayed_after_refused_tea :
    refusedTea.tasks .second = .done (.ok .fingerprintMismatch) ∧
      Compared comparing (some "tea") (calls .second refusedTea.history) (.ok .fingerprintMismatch) ∧
      ∃ u, World.Reaches refusedTea u ∧ u.now = .epoch ∧ u.tasks .third = .done (.ok (.replayed coffee)) := by
  have starts : threeDrinks.Starts fun i => execute comparing (drinks i) := ⟨rfl, rfl⟩
  have run : World.Reaches threeDrinks refusedTea :=
    World.reaches_play (Shared.answers_of_reply (.ok created)) threeDrinks _
  have ended : refusedTea.tasks .second = .done (.ok .fingerprintMismatch) := rfl
  have shown : entries (calls .second refusedTea.history) = [coffee] := rfl
  obtain ⟨compared, spared⟩ := fingerprints_compared (fun _ => comparing) drinks
  obtain ⟨key, spares⟩ := spared _ _ _ starts run .second ended coffee (by simp [shown])
  have others : refusedTea.history.all (·.task != .third) = true := rfl
  have awaits : Awaits (fun _ => comparing) drinks refusedTea .third key coffee := by
    refine ⟨spares.identity, fun e inside mine => ?_, fun _ differs => ?_⟩
    · have other := List.all_eq_true.1 others e inside
      simp [mine] at other
    · obtain ⟨_, _, ⟨⟩, ⟨⟩, differ⟩ := differs
      exact differ rfl
  refine ⟨ended, compared _ _ _ starts run .second _ ended, ?_⟩
  refine (spares.replayed .third refusedTea awaits .refl fun time other r inside => ?_).2 ?_
  · have none := List.all_eq_true.1 others _ inside
    simp at none
  · decide

end OncePerKey.Request
