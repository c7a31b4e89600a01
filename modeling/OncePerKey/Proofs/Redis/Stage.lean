import OncePerKey.Proofs.Discipline
import OncePerKey.Redis.Client

set_option autoImplicit false

namespace OncePerKey.Redis

inductive Call where
  | get (key : CompositeKey)
  | set (key : CompositeKey) (response : Cached)

inductive Returned where
  | got (r : Except Failure (Option Cached))
  | set (r : Except Failure WriteOutcome)

namespace Call

def key : Call → CompositeKey
  | .get key | .set key _ => key

def program (space : String) : Call → Talking Returned
  | .get key => do return .got (← Redis.get space key)
  | .set key response => do return .set (← Redis.set space key response)

def failed (fault : Fault) : Call → Returned
  | .get _ => .got (.error fault.toFailure)
  | .set _ _ => .set (.error fault.toFailure)

end Call

-- A round of a write: when the time left was taken, and how many rounds may follow.
structure Round where
  taken : Timestamp
  left : Nat

-- A call that reads within a write has a round, and a look-up has none.
inductive Stage where
  | timing
  | connecting (taken : Option Timestamp)
  | setting (round : Round)
  | reading (round : Option Round)
  | discarding (round : Option Round)
  | judging (response : Cached)
  | ended (r : Returned)

def millis (response : Cached) (taken : Timestamp) : Int :=
  response.remaining taken / 1000000

def unsettled (key : CompositeKey) : Failure :=
  .storeUnavailable (.backend
    s!"write for {key.shown} did not settle after {maxWriteAttempts} attempts")

namespace Stage

def start : Call → Stage
  | .get _ => .connecting none
  | .set _ _ => .timing

def question (space : String) (c : Call) : Stage → Option Ask
  | .timing | .judging _ => some .now
  | .connecting _ => some .connect
  | .setting round =>
      match c with
      | .set key response => some (.send (.setAbsent (responseName space key)
          (Cached.codec.render response) (millis response round.taken).toNat))
      | .get _ => none
  | .reading _ => some (.send (.get (responseName space c.key)))
  | .discarding _ => some (.send (.del (responseName space c.key)))
  | .ended _ => none

-- Before a round of a write, with `left` rounds still allowed.
def attempt (c : Call) (taken : Timestamp) : (left : Nat) → Stage
  | 0 => .ended (.set (.error (unsettled c.key)))
  | left + 1 => .setting ⟨taken, left⟩

def vanished (c : Call) : Option Round → Stage
  | none => .ended (.got (.ok none))
  | some round => attempt c round.taken round.left

def found (response : Cached) : Option Round → Stage
  | none => .judging response
  | some _ => .ended (.set (.ok (.alreadyExists response)))

def afterClock (c : Call) (now : Timestamp) : Stage → Stage
  | .timing =>
      match c with
      | .set _ response =>
          if millis response now ≤ 0 then
            .ended (.set (.error (.validation "Cannot cache a response that has already expired")))
          else .connecting (some now)
      | .get _ => .timing
  | .judging response => .ended (.got (.ok (if response.isLiveAt now then some response else none)))
  | s => s

def afterConnect (c : Call) (r : Except Fault Unit) : Stage → Stage
  | .connecting taken =>
      match r, taken with
      | .error fault, _ => .ended (c.failed fault)
      | .ok (), none => .reading none
      | .ok (), some taken => attempt c taken maxWriteAttempts
  | s => s

def afterSet (c : Call) (r : Reply) : Stage → Stage
  | .setting round =>
      match r.text? with
      | .error fault => .ended (c.failed fault)
      | .ok (some _) => .ended (.set (.ok .written))
      | .ok none => .reading (some round)
  | s => s

def afterGet (c : Call) (r : Reply) : Stage → Stage
  | .reading round =>
      match r.text? with
      | .error fault => .ended (c.failed fault)
      | .ok none => vanished c round
      | .ok (some text) =>
          match Cached.codec.parse text with
          | .ok response => found response round
          | .error _ => .discarding round
  | s => s

def afterDel (c : Call) (r : Reply) : Stage → Stage
  | .discarding round =>
      match r.number? with
      | .error fault => .ended (c.failed fault)
      | .ok _ => vanished c round
  | s => s

def after (c : Call) (s : Stage) : (q : Ask) → q.Answer → Stage
  | .now, now => afterClock c now s
  | .connect, r => afterConnect c r s
  | .send (.setAbsent _ _ _), r => afterSet c r s
  | .send (.get _), r => afterGet c r s
  | .send (.del _), r => afterDel c r s
  | _, _ => s

end Stage

def stages (space : String) (c : Call) : Discipline Ask Ask.Answer Stage where
  may s q := (∃ note, q = .report note) ∨ s.question space c = some q
  after := Stage.after c

section

variable {space : String} {c : Call} {s : Stage} {α : Type} {ends : Stage → α → Prop}

theorem obeys_question {q : Ask} {next : q.Answer → Talking α} (asked : s.question space c = some q) :
    ((Talking.ask q).bind next).Obeys (stages space c) ends s ↔
      ∀ r, (next r).Obeys (stages space c) ends (s.after c q r) := by
  simp [Talking.ask, Program.perform, stages, asked]

@[simp] theorem obeys_report {note : Note} {next : Unit → Talking α} :
    ((Talking.ask (.report note)).bind next).Obeys (stages space c) ends s ↔
      (next ()).Obeys (stages space c) ends s := by
  constructor
  · intro obeys
    exact obeys.2 ()
  · intro obeys
    exact ⟨.inl ⟨note, rfl⟩, fun _ => obeys⟩

@[simp] theorem obeys_log {level : Level} {message : String} {fields : List (String × FieldValue)}
    {next : Unit → Talking α} :
    ((log level message fields).bind next).Obeys (stages space c) ends s ↔
      (next ()).Obeys (stages space c) ends s :=
  obeys_report

theorem observed_stages {operation : String} {t : Talking (Except Failure α)}
    {ends : Stage → Except Failure α → Prop} (obeys : t.Obeys (stages space c) ends s) :
    (observed operation t).Obeys (stages space c) ends s := by
  unfold observed
  rw [Program.bind_eq, Program.obeys_bind]
  exact obeys.mono fun s result reached => obeys_report.2 reached

def wasRead (c : Call) (round : Option Round) : Except Fault (Option Cached) → Stage
  | .error fault => .ended (c.failed fault)
  | .ok none => .vanished c round
  | .ok (some response) => .found response round

theorem read_stages (round : Option Round) :
    (read (responseName space c.key)).Obeys (stages space c) (fun s r => s = wasRead c round r)
      (.reading round) := by
  unfold read
  simp only [Program.bind_eq]
  rw [obeys_question rfl]
  intro answer
  cases taken : Reply.text? answer with
  | error fault => simp [Stage.after, Stage.afterGet, taken, wasRead]
  | ok value =>
    cases value with
    | none => simp [Stage.after, Stage.afterGet, taken, wasRead]
    | some text =>
      cases parsed : Cached.codec.parse text with
      | ok response => simp [Stage.after, Stage.afterGet, taken, parsed, wasRead]
      | error fault =>
        simp only [parsed, obeys_log, Stage.after, Stage.afterGet, taken]
        rw [obeys_question rfl]
        intro answer
        cases counted : Reply.number? answer with
        | error fault => simp [Stage.after, Stage.afterDel, counted, wasRead]
        | ok n => simp [Stage.after, Stage.afterDel, counted, wasRead]

theorem lookup_stages (key : CompositeKey) :
    (lookup space key).Obeys (stages space (.get key)) (fun s r => s = .ended (.got r))
      (.connecting none) := by
  unfold lookup
  simp only [Program.bind_eq]
  rw [obeys_question rfl]
  intro connected
  match connected with
  | .error fault => exact rfl
  | .ok () =>
    simp only
    rw [Program.obeys_bind]
    refine (read_stages (c := .get key) none).mono fun s result reached => ?_
    rw [reached]
    match result with
    | .error fault => exact rfl
    | .ok none => exact rfl
    | .ok (some response) =>
      rw [wasRead, Stage.found, obeys_question rfl]
      intro now
      exact rfl

variable {key : CompositeKey} {response : Cached}

theorem writeAttempts_stages (taken : Timestamp) (left attempt : Nat) :
    (writeAttempts (responseName space key) key (Cached.codec.render response)
      (millis response taken).toNat left attempt).Obeys (stages space (.set key response))
      (fun s r => s = .ended (.set r)) (.attempt (.set key response) taken left) := by
  induction left generalizing attempt with
  | zero => exact rfl
  | succ left ih =>
    unfold writeAttempts
    simp only [Program.bind_eq]
    rw [Stage.attempt, obeys_question rfl]
    intro answer
    cases text : Reply.text? answer with
    | error fault => simp [Stage.after, Stage.afterSet, text, Call.failed]
    | ok value =>
      cases value with
      | some _ => simp [Stage.after, Stage.afterSet, text]
      | none =>
        simp only [Stage.after, Stage.afterSet, text]
        rw [Program.obeys_bind]
        refine (read_stages (c := .set key response) _).mono fun s result reached => ?_
        rw [reached]
        match result with
        | .error fault => exact rfl
        | .ok (some existing) => exact rfl
        | .ok none => exact obeys_log.2 (ih (attempt + 1))

theorem write_stages :
    (write space key response).Obeys (stages space (.set key response))
      (fun s r => s = .ended (.set r)) .timing := by
  unfold write
  simp only [Program.bind_eq]
  rw [obeys_question rfl]
  intro now
  by_cases expired : millis response now ≤ 0
  · have expired' : response.remaining now / 1000000 ≤ 0 := expired
    simp [Stage.after, Stage.afterClock, expired, expired']
  · have expired' : ¬ response.remaining now / 1000000 ≤ 0 := expired
    simp only [Stage.after, Stage.afterClock, expired, expired', if_false]
    rw [obeys_question rfl]
    intro connected
    match connected with
    | .error fault => exact rfl
    | .ok () => exact writeAttempts_stages now _ _

theorem program_stages (space : String) (c : Call) :
    (c.program space).Obeys (stages space c) (fun s r => s = .ended r) (.start c) := by
  cases c with
  | get key =>
    change ((Redis.get space key).bind fun r => .done (Returned.got r)).Obeys _ _ _
    rw [Program.obeys_bind]
    exact observed_stages (lookup_stages key)
  | set key response =>
    change ((Redis.set space key response).bind fun r => .done (Returned.set r)).Obeys _ _ _
    rw [Program.obeys_bind]
    exact observed_stages write_stages

end

inductive Move (space : String) : Call → Stage → (q : Ask) → q.Answer → Stage → Prop where
  | noted (c : Call) (s : Stage) (note : Note) : Move space c s (.report note) () s
  | late (key : CompositeKey) (response : Cached) (now : Timestamp) (expired : millis response now ≤ 0) :
      Move space (.set key response) .timing .now now
        (.ended (.set (.error (.validation "Cannot cache a response that has already expired"))))
  | timed (key : CompositeKey) (response : Cached) (now : Timestamp) (left : 0 < millis response now) :
      Move space (.set key response) .timing .now now (.connecting (some now))
  | untimed (key : CompositeKey) (now : Timestamp) : Move space (.get key) .timing .now now .timing
  | judged (c : Call) (response : Cached) (now : Timestamp) :
      Move space c (.judging response) .now now
        (.ended (.got (.ok (if response.isLiveAt now then some response else none))))
  | unconnected (c : Call) (taken : Option Timestamp) (fault : Fault) :
      Move space c (.connecting taken) .connect (.error fault) (.ended (c.failed fault))
  | reads (c : Call) : Move space c (.connecting none) .connect (.ok ()) (.reading none)
  | writes (c : Call) (taken : Timestamp) :
      Move space c (.connecting (some taken)) .connect (.ok ()) (.attempt c taken maxWriteAttempts)
  | unset (key : CompositeKey) (response : Cached) (round : Round) (r : Reply) (fault : Fault)
      (said : r.text? = .error fault) :
      Move space (.set key response) (.setting round) (.send (.setAbsent (responseName space key)
        (Cached.codec.render response) (millis response round.taken).toNat)) r
        (.ended (.set (.error fault.toFailure)))
  | wrote (key : CompositeKey) (response : Cached) (round : Round) (r : Reply) (text : String)
      (said : r.text? = .ok (some text)) :
      Move space (.set key response) (.setting round) (.send (.setAbsent (responseName space key)
        (Cached.codec.render response) (millis response round.taken).toNat)) r
        (.ended (.set (.ok .written)))
  | occupied (key : CompositeKey) (response : Cached) (round : Round) (r : Reply)
      (said : r.text? = .ok none) :
      Move space (.set key response) (.setting round) (.send (.setAbsent (responseName space key)
        (Cached.codec.render response) (millis response round.taken).toNat)) r (.reading (some round))
  | unread (c : Call) (round : Option Round) (r : Reply) (fault : Fault)
      (said : r.text? = .error fault) :
      Move space c (.reading round) (.send (.get (responseName space c.key))) r
        (.ended (c.failed fault))
  | absent (c : Call) (round : Option Round) (r : Reply) (said : r.text? = .ok none) :
      Move space c (.reading round) (.send (.get (responseName space c.key))) r (.vanished c round)
  | present (c : Call) (round : Option Round) (r : Reply) (text : String) (response : Cached)
      (said : r.text? = .ok (some text)) (parsed : Cached.codec.parse text = .ok response) :
      Move space c (.reading round) (.send (.get (responseName space c.key))) r
        (.found response round)
  | spoiled (c : Call) (round : Option Round) (r : Reply) (text : String) (fault : Json.Fault)
      (said : r.text? = .ok (some text)) (parsed : Cached.codec.parse text = .error fault) :
      Move space c (.reading round) (.send (.get (responseName space c.key))) r (.discarding round)
  | undeleted (c : Call) (round : Option Round) (r : Reply) (fault : Fault)
      (said : r.number? = .error fault) :
      Move space c (.discarding round) (.send (.del (responseName space c.key))) r
        (.ended (c.failed fault))
  | deleted (c : Call) (round : Option Round) (r : Reply) (n : Int) (said : r.number? = .ok n) :
      Move space c (.discarding round) (.send (.del (responseName space c.key))) r
        (.vanished c round)

section

variable {space : String} {c : Call} {s s' : Stage}

theorem Move.of_may {q : Ask} (may : (stages space c).may s q) (r : q.Answer) :
    Move space c s q r (s.after c q r) := by
  rcases may with ⟨note, rfl⟩ | asked
  · exact .noted c s note
  · cases s with
    | timing =>
      cases asked
      cases c with
      | get key => exact .untimed key r
      | set key response =>
        by_cases expired : millis response r ≤ 0
        · simpa only [Stage.after, Stage.afterClock, expired, if_true] using
            Move.late key response r expired
        · simpa only [Stage.after, Stage.afterClock, expired, if_false] using
            Move.timed key response r (by omega)
    | connecting taken =>
      cases asked
      match r, taken with
      | .error fault, taken => exact .unconnected c taken fault
      | .ok (), none => exact .reads c
      | .ok (), some taken => exact .writes c taken
    | setting round =>
      cases c with
      | get => exact nomatch asked
      | set key response =>
        cases asked
        simp only [Stage.after, Stage.afterSet]
        split
        · rename_i fault said
          exact .unset key response round r fault said
        · rename_i text said
          exact .wrote key response round r text said
        · rename_i said
          exact .occupied key response round r said
    | reading round =>
      cases asked
      simp only [Stage.after, Stage.afterGet]
      split
      · rename_i fault said
        exact .unread c round r fault said
      · rename_i said
        exact .absent c round r said
      · rename_i text said
        split
        · rename_i response parsed
          exact .present c round r text response said parsed
        · rename_i fault parsed
          exact .spoiled c round r text fault said parsed
    | discarding round =>
      cases asked
      simp only [Stage.after, Stage.afterDel]
      split
      · rename_i fault said
        exact .undeleted c round r fault said
      · rename_i n said
        exact .deleted c round r n said
    | judging response =>
      cases asked
      exact .judged c response r
    | ended => exact nomatch asked

end

-- The times that a call of this kind works with: a look-up has none, and a write one that is not expired.
def Timed : Call → Option Timestamp → Prop
  | .get _, none => True
  | .set _ response, some taken => 0 < millis response taken
  | _, _ => False

def Stage.Suits (c : Call) : Stage → Prop
  | .timing => ∃ key response, c = .set key response
  | .connecting taken => Timed c taken
  | .setting round => Timed c (some round.taken)
  | .reading round | .discarding round => Timed c (round.map (·.taken))
  | .judging _ => ∃ key, c = .get key
  | .ended _ => True

-- The moment from which the time of a write is taken.
def Stage.taken? : Stage → Option Timestamp
  | .connecting taken => taken
  | .setting round => some round.taken
  | .reading round | .discarding round => round.map (·.taken)
  | _ => none

section

variable {space : String} {c : Call} {s s' : Stage} {round : Option Round}

theorem suits_start (c : Call) : (Stage.start c).Suits c := by
  cases c with
  | get => trivial
  | set key response => exact ⟨key, response, rfl⟩

theorem suits_attempt {taken : Timestamp} (timed : Timed c (some taken)) (left : Nat) :
    (Stage.attempt c taken left).Suits c := by
  cases left with
  | zero => trivial
  | succ left => exact timed

theorem suits_vanished (timed : Timed c (round.map (·.taken))) : (Stage.vanished c round).Suits c := by
  cases round with
  | none => trivial
  | some round => exact suits_attempt timed _

theorem suits_found (timed : Timed c (round.map (·.taken))) (response : Cached) :
    (Stage.found response round).Suits c := by
  cases round with
  | some round => trivial
  | none =>
    cases c with
    | get key => exact ⟨key, rfl⟩
    | set => exact timed.elim

theorem Move.suits {q : Ask} {r : q.Answer} (move : Move space c s q r s') (suits : s.Suits c) :
    s'.Suits c := by
  cases move with
  | noted | untimed | reads | occupied | spoiled => exact suits
  | late | judged | unconnected | unset | wrote | unread | undeleted => trivial
  | timed _ _ _ left => exact left
  | writes => exact suits_attempt suits maxWriteAttempts
  | absent | deleted => exact suits_vanished suits
  | present _ _ _ _ response => exact suits_found suits response

theorem taken?_attempt {taken t : Timestamp} {left : Nat}
    (shows : (Stage.attempt c taken left).taken? = some t) : taken = t := by
  cases left with
  | zero => exact nomatch shows
  | succ left => exact Option.some.inj shows

theorem taken?_vanished {t : Timestamp} (shows : (Stage.vanished c round).taken? = some t) :
    round.map (·.taken) = some t := by
  cases round with
  | none => exact nomatch shows
  | some round => exact congrArg some (taken?_attempt shows)

theorem Move.taken? {q : Ask} {r : q.Answer} {t : Timestamp} (move : Move space c s q r s')
    (shows : s'.taken? = some t) :
    s.taken? = some t ∨ (⟨q, r⟩ : (q : Ask) × q.Answer) = ⟨.now, t⟩ := by
  cases move with
  | noted | occupied | spoiled => exact .inl shows
  | late | untimed | judged | unconnected | reads | unset | wrote | unread | undeleted =>
    exact nomatch shows
  | timed =>
    cases shows
    exact .inr rfl
  | writes => exact .inl (congrArg some (taken?_attempt shows))
  | absent | deleted => exact .inl (taken?_vanished shows)
  | present _ round => cases round <;> exact nomatch shows

end

end OncePerKey.Redis
