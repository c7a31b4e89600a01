import OncePerKey.Proofs.Redis.FirstWriter
import OncePerKey.Proofs.Request.Conduct

set_option autoImplicit false

namespace OncePerKey.Redis

theorem millis_le {response : Cached} {taken : Timestamp} (left : 0 < millis response taken) :
    ((millis response taken).toNat : ℤ) * 1000000 ≤
      response.expiresAt.toNanos - taken.toNanos + taken.leapNanos := by
  have bound := Timestamp.since_le response.expiresAt taken
  simp only [millis, Cached.remaining] at left ⊢
  omega

theorem stage_of_ends {space : String} {c : Call} {p : Talking Returned} {s : Stage} {r : Returned}
    {shown : List Timestamp} (ends : Ends p shown r) (unshown : shown = [])
    (obeys : p.Obeys (stages space c) (fun s r => s = .ended r) s) : s = .ended r := by
  induction ends with
  | done r => exact obeys
  | report note rest ih => exact ih unshown (obeys.2 ())
  | now => exact nomatch unshown

theorem Move.alreadyExists {space : String} {c : Call} {s s' : Stage} {q : Ask} {r : q.Answer}
    {e : Cached} (move : Move space c s q r s') (lost : s' = .ended (.set (.ok (.alreadyExists e)))) :
    s = .ended (.set (.ok (.alreadyExists e))) ∨ ∃ (answer : Reply) (text : String),
      (⟨q, r⟩ : (q : Ask) × q.Answer) = ⟨.send (.get (responseName space c.key)), answer⟩ ∧
      answer.text? = .ok (some text) ∧ Cached.codec.parse text = .ok e := by
  cases move with
  | noted => exact .inl lost
  | late | timed | untimed | judged | reads | unset | wrote | occupied | spoiled => exact nomatch lost
  | unconnected | unread | undeleted => cases c <;> exact nomatch lost
  | writes => exact nomatch lost
  | absent _ round | deleted _ round =>
    cases round with
    | none => exact nomatch lost
    | some round => obtain ⟨taken, _ | left⟩ := round <;> exact nomatch lost
  | present _ round answer text response said parsed =>
    cases round with
    | none => exact nomatch lost
    | some round =>
      cases lost
      exact .inr ⟨answer, text, rfl, said, parsed⟩

variable {ι : Type} [DecidableEq ι] {space : String} {calls : ι → Call}
  {w₀ u u' v v' w : World overServer ι Returned} {name : String} {i j : ι}

theorem data_of_text? {r : Reply} {text : String}
    (read : World.Happened w₀ w ⟨i, v.now, .send (.get name), r⟩ v v')
    (said : r.text? = .ok (some text)) : ∃ bytes, r = .data bytes ∧ Utf8.decode bytes = .ok text := by
  rcases read_answer read with answer | ⟨line, rfl⟩
  · cases found : v.state.value? v.now name with
    | none =>
      rw [found] at answer
      subst answer
      cases said
    | some bytes =>
      rw [found] at answer
      subst answer
      refine ⟨bytes, rfl, ?_⟩
      simp only [Option.map_some, Option.getD_some, Reply.text?] at said
      split at said
      · rename_i s decoded
        cases said
        exact decoded
      · cases said
  · cases said

-- An expired response has been so for less than its client let pass between its look at the clock and the
-- setting.
def HasOrigin (w₀ v : World overServer ι Returned) (name : String) (e : Cached) : Prop :=
  (∃ entry, w₀.state.entries.lookup name = some entry ∧ Spells entry.value e) ∨
    ∃ j px u u' time taken, SetBy w₀ v j name e px u u' ∧ ⟨j, time, .now, taken⟩ ∈ u.history ∧
      v.now.toNanos - e.expiresAt.toNanos < u.now.toNanos - taken.toNanos + taken.leapNanos

section

variable (starts : w₀.Starts fun i => (calls i).program space)
include starts

theorem readAs_of_alreadyExists (run : World.Reaches w₀ w) {e : Cached}
    (lost : stageOf space (calls i) i w.history = .ended (.set (.ok (.alreadyExists e)))) :
    ∃ v v', ReadAs w₀ w i (responseName space (calls i).key) e v v' := by
  refine cause_of_stageOf (p := fun s => s = .ended (.set (.ok (.alreadyExists e))))
    (P := fun w => ∃ v v', ReadAs w₀ w i (responseName space (calls i).key) e v v') starts ?_ ?_ ?_
    run lost
  · cases calls i <;> simp [Stage.start]
  · rintro x y step ⟨v, v', read⟩
    exact ⟨v, v', read.mono (.single step)⟩
  · intro v q next r s s' run asks answers move lost
    rcases move.alreadyExists lost with before | ⟨answer, text, same, said, parsed⟩
    · exact .inl before
    · cases same
      have happened := World.happened_of_answer run asks answers
      obtain ⟨bytes, rfl, decoded⟩ := data_of_text? happened said
      exact .inr ⟨v, _, bytes, happened, text, decoded, parsed⟩

theorem origin_of_readAs {e : Cached} (read : ReadAs w₀ w i name e v v') :
    HasOrigin w₀ v name e := by
  obtain ⟨bytes, happened, spells⟩ := read
  obtain ⟨entry, there, rfl, live⟩ := Server.lookup_of_value? (value?_of_read happened)
  rcases origin_of_lookup happened.before there with old | ⟨u, u', j, stored, px, set, rfl⟩
  · exact .inl ⟨entry, old, spells⟩
  · obtain ⟨key, response, taken, time, -, -, rfl, rfl, left, shown⟩ := setter_of_happened starts set
    obtain rfl := spells.eq (spells_render response)
    rw [← Cached.render_civil] at set
    refine .inr ⟨j, _, u, u', time, taken, set, shown, ?_⟩
    have bound := millis_le left
    rw [← Cached.toNanos_expiresAt_civil] at bound
    simp only [Server.Entry.isLiveAt, Option.all_some, decide_eq_true_eq] at live
    omega

-- A write that lost returns what it has read, whether that lives or not, where a look-up returns only what
-- lives.
theorem lost_write_returns_read (run : World.Reaches w₀ w)
    {S : Surroundings OncePerKey.Ask OncePerKey.Ask.Answer} {κ : Type} [DecidableEq κ]
    {contexts : κ → Request.Context} {requests : κ → Request}
    {x₀ x : World S κ (Except Failure Outcome)}
    (handled : x₀.Starts fun k => Request.execute (contexts k) (requests k))
    (served : World.Reaches x₀ x) :
    (∀ j e v v', ReadAs w₀ w j name e v v' →
      (∀ key, calls j = .get key → ∀ now, Ends (v'.tasks j) [now]
        (.got (.ok (if e.isLiveAt now then some e else none)))) ∧
      ∀ key other, calls j = .set key other → Ends (v'.tasks j) [] (.set (.ok (.alreadyExists e)))) ∧
    (∀ i key response e, calls i = .set key response → name = responseName space key →
      Ends (w.tasks i) [] (.set (.ok (.alreadyExists e))) →
      ∃ v v', ReadAs w₀ w i name e v v' ∧ HasOrigin w₀ v name e) ∧
    ∀ k time key response e result,
      ⟨k, time, .write key response, .ok (.alreadyExists e)⟩ ∈ x.history → x.tasks k = .done result →
      result = .ok (Request.decision (contexts k) (requests k).fingerprint e) := by
  refine ⟨fun j e v v' read => ends_of_read starts read, ?_, ?_⟩
  · rintro i key response e call rfl returns
    have lost := stage_of_ends returns rfl (left_obeys starts run i)
    obtain ⟨v, v', read⟩ := readAs_of_alreadyExists starts run lost
    rw [call, Call.key] at read
    exact ⟨v, v', read, origin_of_readAs starts read⟩
  · intro k time key response e result refused ended
    have certain := Request.decision_of_refused handled served refused
    rw [Request.stageOf_of_done handled served ended] at certain
    exact Option.some.inj certain

end

def brief : Cached :=
  { invoice with expiresAt := ⟨1798761601, 0, by decide⟩ }

def hurrying (writer : Bool) : Call :=
  .set invoiceKey (if writer then brief else invoice)

def hurried : World overServer Bool Returned where
  now := invoice.createdAt
  state := {}
  tasks i := (hurrying i).program "idem"
  history := []

-- The first writer has looked at the clock, and waits for its connection while the second passes.
def delayed : World overServer Bool Returned :=
  { hurried.advance reply true with now := brief.expiresAt }

def connected : World overServer Bool Returned :=
  delayed.advance reply true

def keptLate : World overServer Bool Returned :=
  connected.advance reply true

-- The second writer has been refused, and has read.
def outrun : World overServer Bool Returned :=
  keptLate.play reply [true, false, false, false]

def returnedLate : World overServer Bool Returned :=
  outrun.advance reply false

theorem keptLate_set :
    SetBy hurried keptLate true (responseName "idem" invoiceKey) brief 1000 connected keptLate := by
  have looked : World.Reaches hurried (hurried.advance reply true) := play_reaches hurried [true]
  have passed : World.Step (hurried.advance reply true) delayed :=
    .pass _ _ ((Timestamp.toNanos_le_iff (by decide) (by decide)).1 (by decide))
      (by decide : Timestamp.IsPlain _)
  exact World.happened_of_advance (S := overServer) answers_of_reply
    ((looked.tail passed).trans (play_reaches delayed [true])) rfl rfl

def lateStore (now : Timestamp) (looks : Nat) :
    (q : OncePerKey.Ask) → Option (q.Answer × Nat)
  | .lookup _ => some (.ok none, looks + 1)
  | .write _ _ => some (.ok (.alreadyExists brief), looks)
  | q => Request.goneAfterLock now looks q

def replayedLate : World Request.anything Unit (Except Failure Outcome) :=
  Request.unserved.play lateStore (List.replicate 20 ())

theorem expired_response_replayed :
    brief.isLiveAt returnedLate.now = false ∧
      Ends (returnedLate.tasks false) [] (.set (.ok (.alreadyExists brief))) ∧
      (∃ v v', ReadAs hurried returnedLate false (responseName "idem" invoiceKey) brief v v' ∧
        HasOrigin hurried v (responseName "idem" invoiceKey) brief) ∧
      replayedLate.tasks () = .done (.ok (.replayed brief)) := by
  have starts : hurried.Starts fun i => (hurrying i).program "idem" := ⟨rfl, rfl⟩
  have plain : hurried.now.IsPlain := by decide
  have clean : IsClean hurried.state (responseName "idem" invoiceKey) :=
    fun entry there => nomatch there
  have after : World.Reaches keptLate outrun := play_reaches keptLate [true, false, false, false]
  have run : World.Reaches hurried outrun := keptLate_set.reaches.trans after
  have early : outrun.now.toNanos < connected.now.toNanos + (1000 : ℕ) * 1000000 := by
    have still : outrun.now = connected.now := rfl
    rw [still]
    omega
  obtain ⟨next, asks⟩ : ∃ next,
      outrun.tasks false = .ask (.send (.get (responseName "idem" invoiceKey))) next := ⟨_, rfl⟩
  have happened := World.happened_of_advance (S := overServer) answers_of_reply run asks rfl
  have read : ReadAs hurried returnedLate false (responseName "idem" invoiceKey) brief outrun
      returnedLate :=
    readAs_of_set starts clean plain (keptLate_set.mono after) happened early (fun line => by simp)
  have handled : Request.unserved.Starts fun _ =>
      Request.execute Request.failingOpen Request.placeOrder := ⟨rfl, rfl⟩
  have served : World.Reaches Request.unserved replayedLate :=
    World.reaches_play (fun _ _ _ _ _ _ => trivial) Request.unserved _
  have refused : ∃ time key response, (⟨(), time, .write key response, .ok (.alreadyExists brief)⟩ :
      Exchange Unit OncePerKey.Ask OncePerKey.Ask.Answer) ∈ replayedLate.history :=
    ⟨_, _, _, List.mem_of_getElem? (i := 7) rfl⟩
  obtain ⟨result, ended⟩ : ∃ result, replayedLate.tasks () = .done result := ⟨_, rfl⟩
  obtain ⟨reads, loses, replays⟩ :=
    lost_write_returns_read starts happened.reaches handled served
  have returns : Ends (returnedLate.tasks false) [] (.set (.ok (.alreadyExists brief))) :=
    (reads false brief outrun returnedLate read).2 invoiceKey invoice rfl
  have still : returnedLate.now = delayed.now := happened.now.trans rfl
  refine ⟨by rw [still]; rfl, returns, loses false invoiceKey invoice brief rfl rfl returns, ?_⟩
  obtain ⟨time, key, response, refused⟩ := refused
  cases replays () time key response brief result refused ended
  exact ended

end OncePerKey.Redis
