import OncePerKey.Proofs.Http.Behind
import OncePerKey.Proofs.Key.Spelling
import OncePerKey.Proofs.Request.Conduct

set_option autoImplicit false

namespace OncePerKey

def World.asked {Q : Type} {R : Q → Type} {S : Surroundings Q R} {ι α : Type} [DecidableEq ι]
    (w : World S ι α) (i : ι) : List Q :=
  (match w.tasks i with
    | .done _ => []
    | .ask q _ => [q]) ++ (w.history.filter (·.task = i)).map (·.question)

theorem World.exists_ask_of_mem_asked {Q : Type} {R : Q → Type} {S : Surroundings Q R} {ι α : Type}
    [DecidableEq ι] {w₀ w : World S ι α} (begun : w₀.history = []) (run : Reaches w₀ w) {i : ι} {q : Q}
    (present : q ∈ w.asked i) : ∃ v next, Reaches w₀ v ∧ v.tasks i = .ask q next := by
  rcases List.mem_append.1 present with pending | past
  · cases asks : w.tasks i with
    | done => simp [asks] at pending
    | ask q' next =>
      rw [asks, List.mem_singleton] at pending
      subst pending
      exact ⟨w, next, run, asks⟩
  · obtain ⟨e, inside, rfl⟩ := List.mem_map.1 past
    obtain ⟨old, mine⟩ := List.mem_filter.1 inside
    obtain ⟨v, v', happened⟩ := happened_of_mem begun run old
    obtain ⟨next, asks⟩ := happened.asks
    rw [of_decide_eq_true mine] at asks
    exact ⟨v, next, happened.before, asks⟩

theorem Request.execute_of_key {c : Context} {r : Request} {key : Key}
    (parsed : parseKey c r = .ok key) :
    ∃ first second next, execute c r =
      Program.ask (.report first) fun _ => Program.ask (.report second) fun _ =>
        Program.ask (Ask.lookup (CompositeKey.build r.method r.route key)) next := by
  unfold execute
  rw [parsed]
  exact ⟨_, _, _, rfl⟩

namespace Http

variable {E : Type}

def Ask.isForward : Ask E → Bool
  | .forward _ _ => true
  | .engine _ => false

def Ask.key? : Ask E → Option CompositeKey
  | .engine (.lookup key) | .engine (.write key _) | .engine (.acquire key _) => some key
  | _ => none

namespace Visit

def Bypasses (v : Visit E) : Prop :=
  v.request.method ∈ ["GET", "HEAD", "OPTIONS", "TRACE"] ∨
    v.key? = none ∧ v.context.policy.requireKey = false

def IsKeyed (v : Visit E) : Prop :=
  ∃ value, v.key? = some value ∧ Key.Spelled v.context.policy.maxKeyLength.toNat value

variable {v : Visit E}

theorem passes_iff : v.passes = true ↔ v.Bypasses := by
  unfold passes Bypasses isSafe
  simp

theorem not_bypasses_iff : v.passes = false ↔ ¬ v.Bypasses := by
  rw [← passes_iff, Bool.not_eq_true]

theorem read?_of_whole {bytes : Bytes} (stopped : ¬ v.Bypasses)
    (whole : v.request.body.bytes? = some bytes) (fits : bytes.length ≤ v.room) :
    v.read? = some bytes :=
  read?_eq_some_iff.2 ⟨not_bypasses_iff.2 stopped, Body.collect_of_bytes? whole fits⟩

theorem parseKey_of_keyed (bytes : Bytes) {value : Bytes} (has : v.key? = some value)
    (spelled : Key.Spelled v.context.policy.maxKeyLength.toNat value) :
    Request.parseKey v.context (v.engineRequest bytes) = .ok ⟨Utf8.ofAscii value⟩ := by
  simp only [Request.parseKey, engineRequest, has, Option.map_some]
  exact Key.parse_of_spelled spelled

theorem parseKey_of_not_keyed (bytes : Bytes) (unkeyed : ¬ v.IsKeyed) :
    ∃ reason, Request.parseKey v.context (v.engineRequest bytes) = .error reason := by
  cases parsed : Request.parseKey v.context (v.engineRequest bytes) with
  | error reason => exact ⟨reason, rfl⟩
  | ok key =>
    cases has : v.key? with
    | none => simp [Request.parseKey, engineRequest, has] at parsed
    | some value =>
      simp only [Request.parseKey, engineRequest, has, Option.map_some] at parsed
      exact absurd ⟨value, has, Key.parse_decodeLossy_iff.1 ⟨key, parsed⟩⟩ unkeyed

theorem rest_of_rejected {bytes : Bytes} {reason : InvalidKey}
    (parsed : Request.parseKey v.context (v.engineRequest bytes) = .error reason) :
    ∃ notes, v.rest bytes (Request.execute v.context (v.engineRequest bytes)) none =
      reporting notes (.done (refusal 400 "INVALID_IDEMPOTENCY_KEY" reason.message)) := by
  unfold Request.execute
  rw [parsed]
  exact ⟨[_, _, _, _], rfl⟩

theorem rest_of_parsed {bytes : Bytes} {key : Key}
    (parsed : Request.parseKey v.context (v.engineRequest bytes) = .ok key) :
    ∃ notes next, v.rest bytes (Request.execute v.context (v.engineRequest bytes)) none =
      reporting notes (Program.ask
        (Ask.engine (.lookup (CompositeKey.build v.request.method v.route key))) next) := by
  obtain ⟨first, second, next, opens⟩ := Request.execute_of_key parsed
  refine ⟨[first, second], fun r => v.rest bytes (next r) none, ?_⟩
  rw [opens, rest_ask (by simp)]
  rfl

theorem refused_of_fault {fault : BodyFault} (stopped : ¬ v.Bypasses)
    (faulty : v.request.body.collect v.room = .error fault) :
    ∃ event response, v.program = reporting [.event event] (.done response) ∧
      response.status = if fault.exceedsLimit then 413 else 400 := by
  rw [program_of_fault (not_bypasses_iff.2 stopped) faulty, bodyRefusal]
  cases fault.exceedsLimit <;> exact ⟨_, _, rfl, rfl⟩

theorem refused_of_not_keyed {bytes : Bytes} (read : v.read? = some bytes) (unkeyed : ¬ v.IsKeyed) :
    ∃ notes response, v.program = reporting notes (.done response) ∧ response.status = 400 := by
  obtain ⟨reason, parsed⟩ := parseKey_of_not_keyed bytes unkeyed
  obtain ⟨notes, refused⟩ := rest_of_rejected parsed
  rw [program_of_read read, refused]
  exact ⟨notes, _, rfl, rfl⟩

theorem identity?_of_keyed {bytes value : Bytes} (read : v.read? = some bytes)
    (has : v.key? = some value) (spelled : Key.Spelled v.context.policy.maxKeyLength.toNat value) :
    Request.identity? v.context v.handed =
      some (CompositeKey.build v.request.method v.route ⟨Utf8.ofAscii value⟩) := by
  rw [handed_eq read, Request.identity?, parseKey_of_keyed bytes has spelled]
  rfl

end Visit

structure Admission (v : Visit E) (asked : List (Ask E)) : Prop where
  passed : v.Bypasses → v.program = forwarding v.endpoint v.request
  tooLong : ¬ v.Bypasses → v.room < v.request.body.readable.length →
    ∃ event response, v.program = reporting [.event event] (.done response) ∧ response.status = 413
  broken : ∀ fault, ¬ v.Bypasses → v.request.body.readable.length ≤ v.room →
    v.request.body.fault? = some fault → ∃ event response,
      v.program = reporting [.event event] (.done response) ∧
        response.status = if fault.exceedsLimit then 413 else 400
  unkeyed : ∀ bytes, ¬ v.Bypasses → v.request.body.bytes? = some bytes → bytes.length ≤ v.room →
    ¬ v.IsKeyed → ∃ notes response, v.program = reporting notes (.done response) ∧ response.status = 400
  keyed : ∀ bytes value, ¬ v.Bypasses → v.request.body.bytes? = some bytes → bytes.length ≤ v.room →
    v.key? = some value → Key.Spelled v.context.policy.maxKeyLength.toNat value →
    ∃ text key, Utf8.encode text = value ∧ key = CompositeKey.build v.request.method v.route ⟨text⟩ ∧
      (∃ notes next, v.program = reporting notes (Program.ask (Ask.engine (.lookup key)) next)) ∧
      (∀ q ∈ asked, ∀ other, q.key? = some other → other = key) ∧
      ∀ endpoint r, .forward endpoint r ∈ asked → endpoint = v.endpoint ∧ r = v.whole bytes

-- Surroundings in which anything can happen.
def unbound : Surroundings OncePerKey.Ask OncePerKey.Ask.Answer where
  State := Unit
  answers _ _ _ _ _ := True
  changes _ _ _ := True

theorem fronts_unbound (S : Surroundings (Ask E) Ask.Answer) : Fronts S unbound fun _ => () where
  engine _ := trivial
  aside _ := rfl
  forward _ := ⟨rfl, trivial⟩
  change _ := trivial
  shown _ := trivial

theorem callOf_of_isReport {ι : Type} (e : Exchange ι OncePerKey.Ask OncePerKey.Ask.Answer)
    (reports : isReport e.question = true) : Request.callOf e = none := by
  obtain ⟨i, time, q, r⟩ := e
  cases q with
  | report => rfl
  | _ => cases reports

theorem isSome_responseOf {ι : Type} (e : Exchange ι (Ask E) Ask.Answer) :
    (responseOf e).isSome = Ask.isForward e.question := by
  obtain ⟨i, time, q, r⟩ := e
  cases q <;> rfl

theorem operates_inner {ι : Type} (e : Exchange ι (Ask E) Ask.Answer) :
    (((inner e).bind Request.callOf).map (·.kind = .operate : _ → Bool)).getD false =
      Ask.isForward e.question := by
  obtain ⟨i, time, q, r⟩ := e
  cases q with
  | forward => rfl
  | engine q => cases q <;> rfl

theorem times_inner {ι : Type} (history : List (Exchange ι (Ask E) Ask.Answer)) :
    Request.Call.times .operate ((history.filterMap inner).filterMap Request.callOf) =
      (history.map (·.question)).countP Ask.isForward := by
  rw [Request.Call.times, List.filterMap_filterMap, List.countP_filterMap, List.countP_map]
  refine List.countP_congr fun e _ => ?_
  rw [operates_inner]
  rfl

section

variable {S : Surroundings (Ask E) Ask.Answer} {T : Surroundings OncePerKey.Ask OncePerKey.Ask.Answer}
  {view : S.State → T.State} {ι : Type} [DecidableEq ι] {visits : ι → Visit E}
  {w₀ w : World S ι Response} {u₀ u : World T ι (Except Failure Outcome)} {i : ι} {bytes : Bytes}

theorem key_of_question {c : Request.Context} {s : Request.Stage} {key other : CompositeKey}
    {q : OncePerKey.Ask} (asked : s.question c key = some q)
    (named : Ask.key? (E := E) (.engine q) = some other) : other = key := by
  cases s with
  | finished => cases asked
  | looking | missed | holding | polling | writing =>
    cases asked
    exact (Option.some.inj named).symm
  | waiting | ready | ran | leaving | stuck =>
    cases asked
    cases named

theorem length_responses (i : ι) (history : List (Exchange ι (Ask E) Ask.Answer)) :
    (responses i history).length =
      ((history.filter (·.task = i)).map (·.question)).countP Ask.isForward := by
  rw [responses, List.length_filterMap_eq_countP, List.countP_map]
  exact List.countP_congr fun e _ => by rw [isSome_responseOf]; rfl

theorem asked_of_done {response : Response} (ended : w.tasks i = .done response) :
    (w.asked i).countP Ask.isForward = (responses i w.history).length := by
  rw [World.asked, ended, List.nil_append, length_responses]

theorem asked_of_ask {q : Ask E} {next : q.Answer → Serving E Response}
    (asks : w.tasks i = Program.ask q next) :
    (w.asked i).countP Ask.isForward =
      (responses i w.history).length + if q.isForward then 1 else 0 := by
  rw [World.asked, asks, List.singleton_append, List.countP_cons, length_responses]

theorem Behind.times_operate (behind : Behind visits view w u) (read : (visits i).read? = some bytes) :
    Request.Call.times .operate (Request.calls i u.history) = (responses i w.history).length := by
  rw [Request.calls, behind.shownBy_eq (by simp [read]) callOf_of_isReport, times_inner, length_responses]

theorem Behind.operate_mem_calls_iff (behind : Behind visits view w u)
    (read : (visits i).read? = some bytes) {r : Except Failure Captured} :
    .operate r ∈ Request.calls i u.history ↔ ∃ D ∈ responses i w.history, operated D = r := by
  rw [Request.calls, behind.shownBy_eq (by simp [read]) callOf_of_isReport, List.filterMap_filterMap, responses]
  simp only [List.mem_filterMap]
  constructor
  · rintro ⟨⟨k, time, q, a⟩, inside, shown⟩
    cases q with
    | forward endpoint request =>
      cases shown
      exact ⟨a, ⟨_, inside, rfl⟩, rfl⟩
    | engine q => cases q <;> cases shown
  · rintro ⟨D, ⟨⟨k, time, q, a⟩, inside, gives⟩, rfl⟩
    cases q with
    | forward endpoint request =>
      cases gives
      exact ⟨_, inside, rfl⟩
    | engine q => cases gives

theorem Behind.length_responses_le (behind : Behind visits view w u)
    (starts : u₀.Starts fun i => Request.execute (visits i).context (visits i).handed)
    (run : World.Reaches u₀ u) (read : (visits i).read? = some bytes) :
    (responses i w.history).length ≤ 1 ∧
      ((∃ next, u.tasks i = Program.ask .operate next) → (responses i w.history).length = 0) := by
  have made := Request.made_of_reaches starts (i := i) rfl run
  rw [← behind.times_operate read]
  refine ⟨made.conduct.operates_once, fun ⟨next, asks⟩ => ?_⟩
  have move := Request.move_of_ask starts run asks u.now (operated default)
  have more := (made.move i u.now move).conduct.operates_once
  simp only [Request.callOf, Option.toList_some, List.singleton_append, Request.times_cons,
    Request.Call.kind, if_true] at more
  omega

theorem Left.of_unread {v : Visit E} {answered : List Response} {x : Serving E Response}
    {p : Handling (Except Failure Outcome)} (left : Left v answered x p) (unread : v.read? = none) :
    answered = [] ∨ ∃ response, answered = [response] ∧ x = .done response := by
  cases left with
  | passing _ _ first | refused _ _ _ _ first => exact .inl first
  | passed _ _ response all => exact .inr ⟨response, all, rfl⟩
  | working read | closing read => rw [unread] at read; cases read

theorem Behind.countP_asked_le_one (behind : Behind visits view w u)
    (starts : u₀.Starts fun i => Request.execute (visits i).context (visits i).handed)
    (run : World.Reaches u₀ u) (i : ι) : (w.asked i).countP Ask.isForward ≤ 1 := by
  cases read : (visits i).read? with
  | none =>
    rcases (behind.left i).of_unread read with first | ⟨response, all, ended⟩
    · cases asks : w.tasks i with
      | done => rw [asked_of_done asks, first]; exact Nat.zero_le 1
      | ask q next => rw [asked_of_ask asks, first]; split <;> simp
    · rw [asked_of_done ended, all]
      exact le_refl 1
  | some bytes =>
    obtain ⟨most, unforwarded⟩ := behind.length_responses_le starts run read
    cases asks : w.tasks i with
    | done => rw [asked_of_done asks]; exact most
    | ask q next =>
      rw [asked_of_ask asks]
      cases behind.turn asks with
      | aside | engine => simpa [Ask.isForward] using most
      | passing passes => simp [Visit.read?, passes] at read
      | forward _ _ next' asks' => simp [unforwarded ⟨next', asks'⟩, Ask.isForward]

theorem Behind.asked_of_read (behind : Behind visits view w u)
    (starts : u₀.Starts fun i => Request.execute (visits i).context (visits i).handed)
    (run : World.Reaches u₀ u) (read : (visits i).read? = some bytes) {key : CompositeKey}
    (identity : Request.identity? (visits i).context (visits i).handed = some key) {q : Ask E}
    {next : q.Answer → Serving E Response} (asks : w.tasks i = Program.ask q next) :
    (∀ other, q.key? = some other → other = key) ∧
      ∀ endpoint r, q = .forward endpoint r →
        endpoint = (visits i).endpoint ∧ r = (visits i).whole bytes := by
  cases behind.turn asks with
  | aside =>
    constructor
    · rintro _ ⟨⟩
    · rintro _ _ ⟨⟩
  | passing passes => simp [Visit.read?, passes] at read
  | engine _ _ _ next' asks' =>
    constructor
    · intro other named
      rcases Request.question_of_ask starts rfl run asks' with ⟨note, rfl⟩ | question
      · cases named
      · rw [Request.keyOf_eq identity] at question
        exact key_of_question question named
    · rintro _ _ ⟨⟩
  | forward read' =>
    rw [read] at read'
    cases read'
    constructor
    · rintro _ ⟨⟩
    · rintro _ _ ⟨⟩
      exact ⟨rfl, rfl⟩

theorem of_mem_asked (starts : w₀.Starts fun i => (visits i).program) (run : World.Reaches w₀ w)
    (read : (visits i).read? = some bytes) {key : CompositeKey}
    (identity : Request.identity? (visits i).context (visits i).handed = some key) {q : Ask E}
    (present : q ∈ w.asked i) :
    (∀ other, q.key? = some other → other = key) ∧
      ∀ endpoint r, q = .forward endpoint r →
        endpoint = (visits i).endpoint ∧ r = (visits i).whole bytes := by
  obtain ⟨v, next, before, asks⟩ := World.exists_ask_of_mem_asked starts.2 run present
  obtain ⟨u₀, starts', behind₀⟩ := exists_behind (T := unbound) (fun _ => ()) starts
  obtain ⟨u, run', behind⟩ := behind₀.reaches (fronts_unbound S) before
  exact behind.asked_of_read starts' run' read identity asks

-- Whatever is answered, a visit is let in or refused as its method, its body and its key header demand.
theorem gate_admits (starts : w₀.Starts fun i => (visits i).program) (run : World.Reaches w₀ w) (i : ι) :
    (w.asked i).countP Ask.isForward ≤ 1 ∧ Admission (visits i) (w.asked i) := by
  obtain ⟨u₀, starts', behind₀⟩ := exists_behind (T := unbound) (fun _ => ()) starts
  have fronts := fronts_unbound S
  constructor
  · obtain ⟨u, run', behind⟩ := behind₀.reaches fronts run
    exact behind.countP_asked_le_one starts' run' i
  constructor
  · intro bypasses
    exact Visit.program_of_passes (Visit.passes_iff.2 bypasses)
  · intro stopped long
    exact Visit.refused_of_fault stopped (Body.collect_eq_error_iff.2 (.inl ⟨long, rfl⟩))
  · intro fault stopped fits breaks
    exact Visit.refused_of_fault stopped (Body.collect_eq_error_iff.2 (.inr ⟨fits, breaks⟩))
  · intro bytes stopped whole fits unkeyed
    exact Visit.refused_of_not_keyed (Visit.read?_of_whole stopped whole fits) unkeyed
  · intro bytes value stopped whole fits has spelled
    have read := Visit.read?_of_whole stopped whole fits
    have identity := Visit.identity?_of_keyed read has spelled
    have ascii b inside := toNat_lt_of_isKeyByte (spelled.own b inside)
    refine ⟨_, _, Utf8.encode_ofAscii ascii, rfl, ?_,
      fun q present => (of_mem_asked starts run read identity present).1,
      fun endpoint r present => (of_mem_asked starts run read identity present).2 endpoint r rfl⟩
    rw [Visit.program_of_read read]
    exact Visit.rest_of_parsed (Visit.parseKey_of_keyed bytes has spelled)

end

-- Surroundings that may answer anything.
def anywhere : Surroundings (Ask Unit) Ask.Answer where
  State := Unit
  answers _ _ _ _ _ := True

def answering (now : Timestamp) (s : Unit) : (q : Ask Unit) → Option (q.Answer × Unit)
  | .engine .now => some (now, s)
  | .engine (.sleep _) | .engine (.report _) => some ((), s)
  | .engine (.lookup _) => some (.ok none, s)
  | .engine (.write _ _) => some (.ok .written, s)
  | .engine (.acquire _ _) => some (.ok none, s)
  | .engine (.release _) => some (.ok true, s)
  | .engine .operate | .engine .abort => none
  | .forward _ _ => some ({ status := 201 }, s)

def orderVisit (key : Bytes) : Visit Unit where
  context := { policy := { useLock := false }, backend := "memory", hasLocks := false }
  route := "/orders"
  endpoint := ()
  request := { method := "POST", uri := default, headers := [("idempotency-key", key)],
               body := [.ok [0x7B], .ok [0x7D]] }

-- The key of one visit is good, and that of the other has a byte that no text has.
def twoVisits (good : Bool) : Visit Unit :=
  orderVisit (if good then [0x6B, 0x2D, 0x31] else [0x6B, 0xFF])

def arrived : World anywhere Bool Response where
  now := .epoch
  state := ()
  tasks i := (twoVisits i).program
  history := []

def answeredBoth : World anywhere Bool Response :=
  arrived.play answering (List.replicate 20 [true, false]).flatten

theorem good_key_let_in :
    (∃ response, answeredBoth.tasks true = .done response ∧ response.status = 201) ∧
      (∃ response, answeredBoth.tasks false = .done response ∧ response.status = 400) ∧
      (answeredBoth.asked true).countP Ask.isForward = 1 ∧
      (∃ notes response, (twoVisits false).program = reporting notes (.done response) ∧
        response.status = 400) ∧
      ∃ text key, Utf8.encode text = [0x6B, 0x2D, 0x31] ∧
        key = CompositeKey.build "POST" "/orders" ⟨text⟩ ∧
        (answeredBoth.asked true).countP (·.key?.isSome) = 2 ∧
        ∀ q ∈ answeredBoth.asked true, ∀ other, q.key? = some other → other = key := by
  have starts : arrived.Starts fun i => (twoVisits i).program := ⟨rfl, rfl⟩
  have run : World.Reaches arrived answeredBoth :=
    World.reaches_play (fun _ _ _ _ _ _ => trivial) arrived _
  have needed (good : Bool) : ¬ (twoVisits good).Bypasses := by
    rw [← Visit.passes_iff]
    cases good <;> exact nofun
  have own : ([0x6B, 0x2D, 0x31] : Bytes).all isKeyByte = true := rfl
  have spelled : Key.Spelled 256 [0x6B, 0x2D, 0x31] := ⟨by decide, by decide, List.all_eq_true.1 own⟩
  have misspelled : ¬ (twoVisits false).IsKeyed := by
    rintro ⟨value, has, spelled⟩
    cases has
    exact absurd (spelled.own 0xFF (by simp)) (by decide)
  obtain ⟨-, admitted⟩ := gate_admits starts run true
  obtain ⟨-, refused⟩ := gate_admits starts run false
  obtain ⟨text, key, spelling, same, -, only, -⟩ :=
    admitted.keyed [0x7B, 0x7D] _ (needed true) rfl (by decide) rfl spelled
  exact ⟨⟨_, rfl, rfl⟩, ⟨_, rfl, rfl⟩, rfl, refused.unkeyed [0x7B, 0x7D] (needed false) rfl (by decide)
    misspelled, text, key, spelling, same, rfl, only⟩

-- A body of one byte that breaks off at a limit of somebody else, or one that breaks off behind a piece for
-- which there is no room.
def cutVisit (crowded : Bool) : Visit Unit :=
  let visit := orderVisit [0x6B, 0x2D, 0x31]
  let cut : Body :=
    if crowded then [.ok [0x7B, 0x7D], .error (.plain "peer went away")]
    else [.ok [0x7B], .error (.caused "error reading a body" .lengthLimit)]
  { visit with
    context := { visit.context with policy := { visit.context.policy with maxBodyBytes := 1 } }
    request := { visit.request with body := cut } }

theorem cut_bodies_too_large :
    ((cutVisit false).passes = false ∧ (cutVisit false).request.body.bytes? = none ∧
      (cutVisit false).request.body.readable.length ≤ (cutVisit false).room ∧
      ∃ event response, (cutVisit false).program = reporting [.event event] (.done response) ∧
        response.status = 413) ∧
    (cutVisit true).passes = false ∧ (cutVisit true).request.body.bytes? = none ∧
      ∃ event response, (cutVisit true).program = reporting [.event event] (.done response) ∧
        response.status = 413 :=
  ⟨⟨rfl, rfl, by decide, _, _, rfl, rfl⟩, rfl, rfl, _, _, rfl, rfl⟩

end Http

end OncePerKey
