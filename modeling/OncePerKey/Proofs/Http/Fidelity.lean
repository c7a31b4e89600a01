import OncePerKey.Proofs.Http.Admission
import OncePerKey.Proofs.Http.Rebuilt
import OncePerKey.Proofs.Request.Progress

set_option autoImplicit false

namespace OncePerKey.Http

variable {E : Type}

-- The gate over a store in memory. An endpoint answers whatever it likes.
def gateOver (locks : Coordinator) (E : Type) : Surroundings (Ask E) Ask.Answer where
  State := Request.Shared locks
  answers now s q r s' :=
    match q, r with
    | .engine q, r => s.answers now q r s'
    | .forward _ _, _ => s' = s
  changes := Request.Shared.swept

theorem fronts_gateOver (locks : Coordinator) :
    Fronts (gateOver locks E) (Request.overMemory locks) id where
  engine answers := answers
  aside answers := answers
  forward answers := ⟨answers, rfl⟩
  change changes := changes
  shown _ := trivial

section

variable {ι : Type} (history : List (Exchange ι (Ask E) Ask.Answer)) (i : ι)

-- The store has taken this response from the visit.
def Stored (cached : Cached) : Prop :=
  ∃ time key, ⟨i, time, .engine (.write key cached), .ok .written⟩ ∈ history

def LostRace : Prop :=
  ∃ time key cached existing,
    ⟨i, time, .engine (.write key cached), .ok (.alreadyExists existing)⟩ ∈ history

def LooksBefore (expiry : Timestamp) : Prop :=
  ∀ time key r, ⟨i, time, .engine (.lookup key), r⟩ ∈ history → time < expiry

variable {history} {i}

theorem Stored.mono {later : List (Exchange ι (Ask E) Ask.Answer)} {cached : Cached}
    (stored : Stored history i cached) (grows : history <:+ later) : Stored later i cached := by
  obtain ⟨time, key, inside⟩ := stored
  exact ⟨time, key, grows.subset inside⟩

end

variable {locks : Coordinator} {ι : Type} [DecidableEq ι]

structure GivenBack (visits : ι → Visit E) (w₀ w : World (gateOver locks E) ι Response) (i : ι)
    (D : Response) (bytes : Bytes) : Prop where
  stored : ∀ cached R, Stored w.history i cached → w.tasks i = .done R →
    Received D bytes (some cached.expiresAt) R
  unstored : ∀ R, (∀ cached, ¬ Stored w.history i cached) → ¬ LostRace w.history i →
    w.tasks i = .done R → Received D bytes none R
  kept : ∀ R, ¬ LostRace w.history i → w.tasks i = .done R →
    ((∃ cached, Stored w.history i cached) ↔
      (visits i).context.policy.isCacheable D.status = true ∧ ∃ text, Utf8.decode bytes = .ok text)
  ends : (visits i).context.Dated w₀.now w.now →
    ∃ w' R, World.Reaches w w' ∧ w'.now = w.now ∧ w'.tasks i = .done R

structure Retries (visits : ι → Visit E) (w₀ w : World (gateOver locks E) ι Response) (i j : ι)
    (cached : Cached) : Prop where
  begins : ∃ v, World.Reaches w₀ v ∧ World.Reaches v w ∧ Stored v.history i cached ∧
    ∀ e ∈ v.history, e.task ≠ j
  read : (visits j).read?.isSome
  sameKey : Request.identity? (visits j).context (visits j).handed =
    Request.identity? (visits i).context (visits i).handed
  permitted : (visits j).context.policy.fingerprintPolicy = .ignore ∨
    (visits j).handed.fingerprint = (visits i).handed.fingerprint
  early : LooksBefore w.history j cached.expiresAt

structure GivenAgain (w : World (gateOver locks E) ι Response) (j : ι) (D : Response) (bytes : Bytes)
    (cached : Cached) : Prop where
  unrun : (w.asked j).countP Ask.isForward = 0
  replayed : ∀ R, w.tasks j = .done R → Replayed D bytes cached.expiresAt R
  ends : w.now < cached.expiresAt →
    ∃ w' R, World.Reaches w w' ∧ w'.now = w.now ∧ w'.tasks j = .done R

section

variable {visits : ι → Visit E} {w₀ v w : World (gateOver locks E) ι Response}
  {u₀ u : World (Request.overMemory locks) ι (Except Failure Outcome)} {i j : ι} {D : Response}
  {bytes request : Bytes} {cached : Cached}

theorem Behind.responses_eq (behind : Behind visits id w u)
    (starts : u₀.Starts fun i => Request.execute (visits i).context (visits i).handed)
    (run : World.Reaches u₀ u) (read : (visits i).read? = some request)
    (given : D ∈ responses i w.history) : responses i w.history = [D] := by
  have most := (behind.length_responses_le starts run read).1
  generalize responses i w.history = all at given most
  match all with
  | [] => cases given
  | [_] => rw [List.mem_singleton.1 given]
  | _ :: _ :: _ => simp at most

theorem operated_of_whole (whole : D.body.bytes? = some bytes) :
    operated D = .ok (D.captureWith bytes) := by
  rw [operated, capture_of_bytes? whole]
  rfl

theorem Behind.exists_result_of_given (behind : Behind visits id w u)
    (read : (visits i).read? = some request) (all : responses i w.history = [D])
    (whole : D.body.bytes? = some bytes) {R : Response} (ended : w.tasks i = .done R) :
    ∃ result, u.tasks i = .done result ∧ Ends (E := E) (closing (some D) result) R := by
  obtain ⟨result, ended', ends⟩ := behind.exists_result read ended
  rw [all, kept, capture_of_bytes? whole] at ends
  exact ⟨result, ended', ends⟩

theorem Behind.executed_of_stored (behind : Behind visits id w u)
    (starts : u₀.Starts fun i => Request.execute (visits i).context (visits i).handed)
    (run : World.Reaches u₀ u) (read : (visits i).read? = some request)
    (given : D ∈ responses i w.history) (whole : D.body.bytes? = some bytes)
    (stored : Stored w.history i cached) :
    (visits i).context.Stores (D.captureWith bytes) ∧
      Request.Snapshot (visits i).handed.fingerprint (D.captureWith bytes) cached ∧
      (Request.stageOf (visits i).context (visits i).handed i u.history).result? =
        some (.ok (.executedCached (D.captureWith bytes) cached.expiresAt)) := by
  obtain ⟨time, key, inside⟩ := stored
  have isRead : (visits i).read?.isSome := by simp [read]
  have written := (behind.mem_iff (q := .write key cached) isRead rfl nofun).2 inside
  obtain ⟨-, captured, ran, rest⟩ := Request.executed_of_written starts run written
  obtain ⟨other, present, same⟩ := (behind.operate_mem_calls_iff read).1 ran
  rw [behind.responses_eq starts run read given, List.mem_singleton] at present
  rw [present, operated_of_whole whole] at same
  cases same
  exact rest

theorem Behind.result_of_executed (behind : Behind visits id w u)
    (starts : u₀.Starts fun i => Request.execute (visits i).context (visits i).handed)
    (run : World.Reaches u₀ u) (read : (visits i).read? = some request)
    (valid : (visits i).context.policy.Valid) (given : D ∈ responses i w.history)
    (whole : D.body.bytes? = some bytes) (won : ¬ LostRace w.history i)
    {result : Except Failure Outcome} (ended : u.tasks i = .done result) :
    (∃ cached, Stored w.history i cached) ∨
      ∃ reason, result = .ok (.executedUncached (D.captureWith bytes) reason) ∧
        ¬ (visits i).context.Stores (D.captureWith bytes) := by
  have isRead : (visits i).read?.isSome := by simp [read]
  have ran : .operate (.ok (D.captureWith bytes)) ∈ Request.calls i u.history :=
    (behind.operate_mem_calls_iff read).2 ⟨D, given, operated_of_whole whole⟩
  have unlost : ∀ time key offered existing,
      ⟨i, time, .write key offered, .ok (.alreadyExists existing)⟩ ∉ u.history := by
    intro time key offered existing inside
    exact won ⟨time, key, offered, existing,
      (behind.mem_iff (q := .write key offered) isRead rfl nofun).1 inside⟩
  rcases Request.result_of_executed starts run valid ended ran unlost with
    ⟨time, key, cached, written, -⟩ | uncached
  · exact .inl ⟨cached, time, key,
      (behind.mem_iff (q := .write key cached) isRead rfl nofun).1 written⟩
  · exact .inr uncached

theorem Behind.exists_answer (behind : Behind visits id w u) {q : Ask E}
    {next : q.Answer → Serving E Response} (asks : w.tasks i = Program.ask q next)
    (engine : ∀ (q : OncePerKey.Ask) next, u.tasks i = Program.ask q next →
      ∃ r s, (Request.overMemory locks).answers u.now u.state q r s) :
    ∃ r s, (gateOver locks E).answers w.now w.state q r s := by
  cases behind.turn asks with
  | aside => exact ⟨(), w.state, rfl⟩
  | passing | forward => exact ⟨(default : Response), w.state, rfl⟩
  | engine _ _ _ next' asks' =>
    have given := engine _ next' asks'
    rw [behind.now, behind.state] at given
    exact given

theorem exists_end_of_ran (starts : w₀.Starts fun i => (visits i).program) (run : World.Reaches w₀ w)
    (releases : locks.AnswersReleases) (read : (visits i).read? = some request)
    (valid : (visits i).context.policy.Valid) (given : D ∈ responses i w.history)
    (dated : (visits i).context.Dated w₀.now w.now) :
    ∃ w' R, World.Reaches w w' ∧ w'.now = w.now ∧ w'.tasks i = .done R := by
  obtain ⟨u₀, starts', behind₀⟩ := exists_behind (T := Request.overMemory locks) id starts
  obtain ⟨u, run', behind⟩ := behind₀.reaches (fronts_gateOver locks) run
  have ran : .operate (operated D) ∈ Request.calls i u.history :=
    (behind.operate_mem_calls_iff read).2 ⟨D, given, rfl⟩
  refine World.exists_done fun v q next more still asks => ?_
  obtain ⟨u', more', behind'⟩ := behind.reaches (fronts_gateOver locks) more
  have ran' := Request.shownBy_mono (World.Reaches.history_suffix more') ran
  refine behind'.exists_answer asks fun q next asks' =>
    Request.exists_answer_of_ran starts' (run'.trans more') valid releases ?_
      (Nat.pos_iff_ne_zero.1 (Request.times_pos_of_mem ran')) asks'
  rw [behind₀.now, behind'.now, still]
  exact dated

theorem given_back (starts : w₀.Starts fun i => (visits i).program) (run : World.Reaches w₀ w)
    (releases : locks.AnswersReleases) (read : (visits i).read? = some request)
    (valid : (visits i).context.policy.Valid) (given : D ∈ responses i w.history)
    (whole : D.body.bytes? = some bytes) (unmarked : D.headers.Unmarked) :
    GivenBack visits w₀ w i D bytes := by
  obtain ⟨u₀, starts', behind₀⟩ := exists_behind (T := Request.overMemory locks) id starts
  obtain ⟨u, run', behind⟩ := behind₀.reaches (fronts_gateOver locks) run
  have all := behind.responses_eq starts' run' read given
  constructor
  · intro cached R stored ended
    obtain ⟨result, ended', ends⟩ := behind.exists_result_of_given read all whole ended
    have certain := (behind.executed_of_stored starts' run' read given whole stored).2.2
    rw [Request.stageOf_of_done starts' run' ended'] at certain
    cases certain
    exact received_of_cached unmarked ends
  · intro R unstored won ended
    obtain ⟨result, ended', ends⟩ := behind.exists_result_of_given read all whole ended
    rcases behind.result_of_executed starts' run' read valid given whole won ended' with
      ⟨cached, stored⟩ | ⟨reason, rfl, -⟩
    · exact absurd stored (unstored cached)
    · exact received_of_uncached unmarked ends
  · intro R won ended
    obtain ⟨result, ended', -⟩ := behind.exists_result_of_given read all whole ended
    constructor
    · rintro ⟨cached, stored⟩
      exact (behind.executed_of_stored starts' run' read given whole stored).1
    · intro stores
      rcases behind.result_of_executed starts' run' read valid given whole won ended' with
        stored | ⟨-, -, refused⟩
      · exact stored
      · exact absurd stores refused
  · exact exists_end_of_ran starts run releases read valid given

theorem Retries.later (retries : Retries visits w₀ v i j cached)
    (starts : w₀.Starts fun i => (visits i).program) (more : World.Reaches v w)
    (live : w.now < cached.expiresAt) : Retries visits w₀ w i j cached := by
  obtain ⟨x, before, after, stored, fresh⟩ := retries.begins
  refine ⟨⟨x, before, after.trans more, stored, fresh⟩, retries.read, retries.sameKey,
    retries.permitted, fun time key r inside => ?_⟩
  have shown := World.time_le_of_mem starts.2 (before.trans (after.trans more)) inside
  exact lt_of_le_of_lt shown live

theorem Retries.finds (retries : Retries visits w₀ w i j cached)
    (starts : w₀.Starts fun i => (visits i).program) (read : (visits i).read? = some request) :
    ∃ u₀ u, (u₀.Starts fun i => Request.execute (visits i).context (visits i).handed) ∧
      World.Reaches u₀ u ∧ Behind (T := Request.overMemory locks) visits id w u ∧
      Request.Finds (visits j).context (visits j).handed cached
        (Request.stageOf (visits j).context (visits j).handed j u.history)
        (Request.calls j u.history) := by
  have isRead : (visits i).read?.isSome := by simp [read]
  obtain ⟨v, before, after, ⟨time, key, inside⟩, fresh⟩ := retries.begins
  obtain ⟨u₀, starts', behind₀⟩ := exists_behind (T := Request.overMemory locks) id starts
  obtain ⟨x, before', atStore⟩ := behind₀.reaches (fronts_gateOver locks) before
  obtain ⟨u, after', behind⟩ := atStore.reaches (fronts_gateOver locks) after
  have written := (atStore.mem_iff (q := .write key cached) isRead rfl nofun).2 inside
  have identity := (Request.executed_of_written starts' before' written).1
  refine ⟨u₀, u, starts', before'.trans after', behind,
    Request.finds_of_reaches (x := ⟨time, key, cached⟩) starts' (retries.sameKey.trans identity) before'
      (Request.mem_writes.2 ⟨_, written, rfl⟩) (atStore.quiet retries.read fresh) after' ?_⟩
  intro time key r looked
  exact retries.early time key r ((behind.mem_iff (q := .lookup key) retries.read rfl nofun).1 looked)

theorem Behind.countP_asked_of_finds (behind : Behind visits id w u)
    (starts : u₀.Starts fun i => Request.execute (visits i).context (visits i).handed)
    (run : World.Reaches u₀ u) (read : (visits j).read? = some request)
    (finds : Request.Finds (visits j).context (visits j).handed cached
      (Request.stageOf (visits j).context (visits j).handed j u.history) (Request.calls j u.history)) :
    (w.asked j).countP Ask.isForward = 0 := by
  have none := finds.idle
  rw [behind.times_operate read] at none
  cases asks : w.tasks j with
  | done => rw [asked_of_done asks, none]
  | ask q next =>
    rw [asked_of_ask asks, none]
    cases behind.turn asks with
    | aside | engine => rfl
    | passing passes => simp [Visit.read?, passes] at read
    | forward _ _ next' asks' =>
      rcases Request.question_of_ask starts rfl run asks' with ⟨note, same⟩ | question
      · cases same
      · cases finds.asks_lookup question

theorem given_again (retries : Retries visits w₀ w i j cached)
    (starts : w₀.Starts fun i => (visits i).program) (read : (visits i).read? = some request)
    (given : D ∈ responses i w.history) (whole : D.body.bytes? = some bytes) :
    GivenAgain w j D bytes cached := by
  obtain ⟨own, readToo⟩ := Option.isSome_iff_exists.1 retries.read
  obtain ⟨u₀, u, starts', run', behind, finds⟩ := retries.finds starts read
  constructor
  · exact behind.countP_asked_of_finds starts' run' readToo finds
  · intro R ended
    obtain ⟨result, ended', ends⟩ := behind.exists_result readToo ended
    rw [Request.stageOf_of_done starts' run' ended'] at finds
    obtain ⟨v, -, after, stored, -⟩ := retries.begins
    obtain ⟨stores, snapshot, -⟩ := behind.executed_of_stored starts' run' read given whole
      (stored.mono (World.Reaches.history_suffix after))
    have found : result = .ok (.replayed cached) := by
      rw [← snapshot.decision_eq retries.permitted]
      generalize Request.calls j u.history = calls at finds
      cases finds
      rfl
    rw [found] at ends
    obtain rfl := ends_done.1 ends
    obtain ⟨now, lifetime, made⟩ := snapshot
    exact replayed_of_stored (knownStatus_of_isCacheable stores.1) (Cached.toCaptured_of_ofCaptured made)
  · intro live
    refine World.exists_done fun v q next more still asks => ?_
    obtain ⟨u₀, u, starts', run', behind, finds⟩ :=
      (retries.later starts more (by rw [still]; exact live)).finds starts read
    exact behind.exists_answer asks fun q next asks' =>
      Request.exists_answer_of_finds starts' run' finds asks'

-- The first visit is given all that its endpoint gave, and each later one under its key, and in time, the
-- status, the content type, the body and the expiry of what was stored.
theorem replay_faithful (starts : w₀.Starts fun i => (visits i).program) (run : World.Reaches w₀ w)
    (releases : locks.AnswersReleases) (read : (visits i).read? = some request)
    (valid : (visits i).context.policy.Valid) (given : D ∈ responses i w.history)
    (whole : D.body.bytes? = some bytes) (unmarked : D.headers.Unmarked) :
    GivenBack visits w₀ w i D bytes ∧
      ∀ j cached, Retries visits w₀ w i j cached → GivenAgain w j D bytes cached :=
  ⟨given_back starts run releases read valid given whole unmarked,
    fun _ _ retries => given_again retries starts read given whole⟩

end

def receiptGiven : Response :=
  { status := 201
    headers := [("content-type", [0x74, 0x65, 0x78, 0x74, 0x2F, 0x78]), ("x-order", [0xE9])]
    body := [.ok [0x6F], .ok [0x6B]] }

def gateReply (D : Response) (now : Timestamp) (s : Request.Shared .memory) :
    (q : Ask Unit) → Option (q.Answer × Request.Shared .memory)
  | .engine q => s.reply (operated D) now q
  | .forward _ _ => some (D, s)

theorem gateOver_answers_of_reply (D : Response) (now : Timestamp) (s : Request.Shared .memory)
    (q : Ask Unit) (r : q.Answer) (s' : Request.Shared .memory)
    (replied : gateReply D now s q = some (r, s')) : (gateOver .memory Unit).answers now s q r s' := by
  cases q with
  | engine q => exact Request.Shared.answers_of_reply (operated D) now s q r s' replied
  | forward =>
    cases replied
    exact (rfl : s = s)

def lockedOrder : Visit Unit where
  context := Request.locking
  route := "/orders"
  endpoint := ()
  request := { method := "POST", uri := default, headers := [("idempotency-key", [0x6B, 0x2D, 0x31])],
               body := [.ok [0x7B], .ok [0x7D]] }

def twice : Bool → Visit Unit :=
  fun _ => lockedOrder

def orderedTwice : World (gateOver .memory Unit) Bool Response where
  now := .epoch
  state := ⟨{}, {}⟩
  tasks i := (twice i).program
  history := []

def firstServed : World (gateOver .memory Unit) Bool Response :=
  orderedTwice.play (gateReply receiptGiven) (List.replicate 20 true)

def bothServed : World (gateOver .memory Unit) Bool Response :=
  firstServed.play (gateReply receiptGiven) (List.replicate 20 false)

theorem retry_given_again :
    ∃ cached R R', Stored bothServed.history true cached ∧
      bothServed.tasks true = .done R ∧ Received receiptGiven [0x6F, 0x6B] (some cached.expiresAt) R ∧
      bothServed.tasks false = .done R' ∧ Replayed receiptGiven [0x6F, 0x6B] cached.expiresAt R' ∧
      (bothServed.asked false).countP Ask.isForward = 0 := by
  have starts : orderedTwice.Starts fun i => (twice i).program := ⟨rfl, rfl⟩
  have first : World.Reaches orderedTwice firstServed :=
    World.reaches_play (gateOver_answers_of_reply receiptGiven) orderedTwice _
  have second : World.Reaches firstServed bothServed :=
    World.reaches_play (gateOver_answers_of_reply receiptGiven) firstServed _
  obtain ⟨cached, stored, live⟩ :
      ∃ cached, Stored firstServed.history true cached ∧ Timestamp.epoch < cached.expiresAt :=
    ⟨_, ⟨_, _, List.mem_of_getElem? (i := 5) rfl⟩, (Timestamp.before_iff _ _).1 rfl⟩
  have own : ∀ e ∈ firstServed.history, e.task ≠ false := by
    have all : firstServed.history.all (·.task) = true := rfl
    intro e inside
    simp [List.all_eq_true.1 all e inside]
  have early : LooksBefore bothServed.history false cached.expiresAt := fun time key r inside =>
    lt_of_le_of_lt (World.time_le_of_mem starts.2 (first.trans second) inside) live
  have retries : Retries twice orderedTwice bothServed true false cached :=
    ⟨⟨firstServed, first, second, stored, own⟩, rfl, rfl, .inl rfl, early⟩
  have read : (twice true).read? = some [0x7B, 0x7D] := rfl
  have given : receiptGiven ∈ responses true bothServed.history := List.mem_of_getElem? (i := 0) rfl
  have unmarked : receiptGiven.headers.Unmarked := by
    unfold Headers.Unmarked
    decide
  obtain ⟨back, again⟩ := replay_faithful starts (first.trans second)
    Coordinator.memory_answersReleases read rfl given rfl unmarked
  have replay := again false cached retries
  have kept := stored.mono (World.Reaches.history_suffix second)
  exact ⟨cached, _, _, kept, rfl, back.stored cached _ kept rfl, rfl, replay.replayed _ rfl, replay.unrun⟩

end OncePerKey.Http
