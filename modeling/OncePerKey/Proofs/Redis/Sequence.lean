import OncePerKey.Proofs.Redis.Session
import OncePerKey.Proofs.Redis.Stale
import OncePerKey.Proofs.Store.Sequence

set_option autoImplicit false

namespace OncePerKey.Redis

def spelled? (bytes : Bytes) : Option Cached :=
  (Utf8.decode bytes).toOption.bind fun text => (Cached.codec.parse text).toOption

theorem spelled?_render (response : Cached) :
    spelled? (Utf8.encode (Cached.codec.render response)) = some response.civil := by
  simp [spelled?, Utf8.decode_encode, Cached.parse_render, Except.toOption]

namespace Server

def look (s : Server) (now : Timestamp) (name : String) : Option Cached :=
  (s.value? now name).bind spelled?

def IsSound (s : Server) : Prop :=
  ∀ now name bytes, now.IsPlain → s.value? now name = some bytes →
    ∃ response : Cached, response.IsCivil ∧
      bytes = Utf8.encode (Cached.codec.render response) ∧ now < response.expiresAt

variable {s : Server} {now later : Timestamp} {name : String} {response : Cached}

theorem isSound_empty : ({} : Server).IsSound := by
  intro now name bytes plain there
  simp [value?] at there

theorem IsSound.exists_of_look (sound : s.IsSound) (plain : now.IsPlain)
    (found : s.look now name = some response) : response.IsCivil ∧ now < response.expiresAt ∧
      s.value? now name = some (Utf8.encode (Cached.codec.render response)) := by
  obtain ⟨bytes, there, spells⟩ := Option.bind_eq_some_iff.1 found
  obtain ⟨other, civil, rfl, live⟩ := sound now name bytes plain there
  rw [spelled?_render, Cached.civil_eq_self_iff.2 civil] at spells
  cases spells
  exact ⟨civil, live, there⟩

theorem IsSound.look_eq_none_iff (sound : s.IsSound) (plain : now.IsPlain) :
    s.look now name = none ↔ s.value? now name = none := by
  rw [look, Option.bind_eq_none_iff]
  constructor
  · intro unspelled
    cases there : s.value? now name with
    | none => rfl
    | some bytes =>
      obtain ⟨response, -, rfl, -⟩ := sound now name bytes plain there
      exact nomatch (spelled?_render response).symm.trans (unspelled _ there)
  · rintro absent bytes there
    exact nomatch absent.symm.trans there

theorem look_put (civil : response.IsCivil) (s : Server) (now later : Timestamp) (name other : String)
    (px : Nat) :
    (s.put now name (Utf8.encode (Cached.codec.render response)) (some px)).look later other =
      if name = other then
        (if later.toNanos < now.toNanos + px * 1000000 then some response else none)
      else s.look later other := by
  by_cases same : name = other
  · subst same
    rw [look, value?_put_self, if_pos rfl]
    split
    · rw [Option.bind_some, spelled?_render, Cached.civil_eq_self_iff.2 civil]
    · rw [Option.bind_none]
  · rw [look, value?_put_of_ne (Ne.symm same), if_neg same, look]

theorem IsSound.put (sound : s.IsSound) {px : Nat} (civil : response.createdAt.IsCivil)
    (plain : response.expiresAt.IsPlain) (within : now.toNanos + px * 1000000 ≤ response.expiresAt.toNanos) :
    (s.put now name (Utf8.encode (Cached.codec.render response)) (some px)).IsSound := by
  intro later other bytes plainLater there
  by_cases same : other = name
  · subst same
    rw [value?_put_self] at there
    split at there
    · rename_i early
      cases there
      exact ⟨response, ⟨civil, plain.isCivil⟩, rfl, (Timestamp.toNanos_lt_iff plainLater plain).1 (by omega)⟩
    · cases there
  · rw [value?_put_of_ne same] at there
    exact sound later other bytes plainLater there

end Server

variable {ids : Nat → Uuid} {space name : String} {now : Timestamp} {s : Session} {key : CompositeKey}
  {response : Cached}

theorem run_read_of_payload
    (there : s.server.value? now name = some (Utf8.encode (Cached.codec.render response))) :
    (read name).run (Session.answer ids now) s = (.ok (some response.civil), s) := by
  unfold read
  refine (run_send_bind _ _).trans ?_
  simp [Server.run, there, Reply.text?, Utf8.decode_encode, Cached.parse_render]

theorem run_read (sound : s.server.IsSound) (plain : now.IsPlain) :
    (read name).run (Session.answer ids now) s = (.ok (s.server.look now name), s) := by
  cases found : s.server.look now name with
  | none =>
    have nothing := (sound.look_eq_none_iff plain).1 found
    unfold read
    refine (run_send_bind _ _).trans ?_
    simp [Server.run, nothing, Reply.text?]
  | some response =>
    obtain ⟨civil, -, there⟩ := sound.exists_of_look plain found
    rw [run_read_of_payload there, Cached.civil_eq_self_iff.2 civil]

theorem run_lookup (sound : s.server.IsSound) (plain : now.IsPlain) :
    (lookup space key).run (Session.answer ids now) s =
      (.ok (s.server.look now (responseName space key)), s) := by
  unfold lookup
  refine (run_connect_bind _).trans ?_
  rw [Program.bind_eq, Program.run_bind, run_read sound plain]
  cases found : s.server.look now (responseName space key) with
  | none => rfl
  | some response =>
    obtain ⟨-, early, -⟩ := sound.exists_of_look plain found
    refine (run_now_bind _).trans ?_
    rw [if_pos ((Cached.isLiveAt_iff _ _).2 early)]
    rfl

section

variable {text : String} {px left attempt : Nat}

theorem run_writeAttempts_of_found {existing : Cached} (sound : s.server.IsSound) (plain : now.IsPlain)
    (found : s.server.look now name = some existing) :
    (writeAttempts name key text px (left + 1) attempt).run (Session.answer ids now) s =
      (.ok (.alreadyExists existing), s) := by
  obtain ⟨-, -, there⟩ := sound.exists_of_look plain found
  rw [writeAttempts]
  refine (run_send_bind _ _).trans ?_
  simp only [Server.run, there, Reply.text?]
  rw [Program.bind_eq, Program.run_bind, run_read sound plain, found]
  rfl

theorem run_writeAttempts_of_absent (absent : s.server.value? now name = none) :
    (writeAttempts name key text px (left + 1) attempt).run (Session.answer ids now) s =
      (.ok .written, { s with server := s.server.put now name (Utf8.encode text) (some px) }) := by
  rw [writeAttempts]
  refine (run_send_bind _ _).trans ?_
  simp only [Server.run, absent, Reply.text?]
  rfl

end

theorem run_write_of_late (late : millis response now ≤ 0) :
    (write space key response).run (Session.answer ids now) s =
      (.error (.validation "Cannot cache a response that has already expired"), s) := by
  unfold write
  refine (run_now_bind _).trans ?_
  rw [millis] at late
  simp only [late, if_true]
  rfl

theorem run_write (left : 0 < millis response now) :
    (write space key response).run (Session.answer ids now) s =
      (writeAttempts (responseName space key) key (Cached.codec.render response)
        (millis response now).toNat maxWriteAttempts 1).run (Session.answer ids now) s := by
  unfold write
  refine (run_now_bind _).trans ?_
  have early : ¬ response.remaining now / 1000000 ≤ 0 := not_le.2 left
  simp only [early, if_false]
  exact run_connect_bind _

def serve (ids : Nat → Uuid) (space : String) (now : Timestamp) (c : Store.Call) (s : Session) :
    Store.Returned × Session :=
  match c with
  | .get key =>
      let r := (get space key).run (Session.answer ids now) s
      (.got r.1, r.2)
  | .set key response =>
      let r := (set space key response).run (Session.answer ids now) s
      (.set r.1, r.2)

def responder (ids : Nat → Uuid) (space : String) : Responder Store.Call Store.Returned where
  State := Session
  start := {}
  serve := serve ids space
  shows := Timestamp.IsPlain

def wholeMillis : Store.Term where
  lasts a now := now.toNanos < a.time.toNanos + millis a.response a.time * 1000000
  refuses? now response :=
    if millis response now ≤ 0 then
      some (.validation "Cannot cache a response that has already expired")
    else none

theorem wholeMillis_refuses?_eq_none_iff :
    wholeMillis.refuses? now response = none ↔ 0 < millis response now := by
  by_cases late : millis response now ≤ 0
  · simp [wholeMillis, late]
  · simp [wholeMillis, late, not_le.1 late]

-- What is written expires outside leap seconds, and was not created in one within a minute.
def PlainCall : Store.Call → Prop
  | .get _ => True
  | .set _ response => response.createdAt.IsCivil ∧ response.expiresAt.IsPlain

theorem serve_get (sound : s.server.IsSound) (plain : now.IsPlain) :
    serve ids space now (.get key) s =
      (.got (.ok (s.server.look now (responseName space key))), s) := by
  simp only [serve, get, run_observed, run_lookup sound plain]

theorem serve_set {result : Except Failure WriteOutcome} {s' : Session}
    (wrote : (write space key response).run (Session.answer ids now) s = (result, s')) :
    serve ids space now (.set key response) s = (.set result, s') := by
  simp only [serve, set, run_observed, wrote]

theorem serve_set_of_refused {failure : Failure}
    (refuses : wholeMillis.refuses? now response = some failure) :
    serve ids space now (.set key response) s = (.set (.error failure), s) := by
  by_cases late : millis response now ≤ 0
  · simp only [wholeMillis, late, if_true, Option.some.injEq] at refuses
    rw [← refuses]
    exact serve_set (run_write_of_late late)
  · simp [wholeMillis, late] at refuses

def view (ids : Nat → Uuid) (space : String) :
    Store.View (responder ids space) (responseName space) wholeMillis PlainCall where
  Sound s := s.server.IsSound
  look s := s.server.look
  start := ⟨Server.isSound_empty, fun _ _ => rfl⟩
  change _ _ changes := changes.elim
  get sound plain _ := serve_get sound plain
  refused _ _ _ refuses := serve_set_of_refused refuses
  occupied {now s key response existing} sound plain _ accepts found := by
    have left := wholeMillis_refuses?_eq_none_iff.1 accepts
    exact ⟨s, serve_set ((run_write left).trans (run_writeAttempts_of_found sound plain found)), sound,
      fun _ _ _ => rfl⟩
  free {now s key response} sound plain fits accepts absent := by
    have left := wholeMillis_refuses?_eq_none_iff.1 accepts
    have within := millis_le left
    rw [Timestamp.leapNanos_of_plain plain] at within
    have nothing := (sound.look_eq_none_iff plain).1 absent
    refine ⟨_, serve_set ((run_write left).trans (run_writeAttempts_of_absent nothing)),
      sound.put fits.1 fits.2 (by omega), fun later n _ => ?_⟩
    rw [Server.look_put ⟨fits.1, fits.2.isCivil⟩]
    simp only [wholeMillis, Int.toNat_of_nonneg (le_of_lt left), decide_eq_true_eq]

theorem abides {record : Record Store.Call Store.Returned}
    (run : (responder ids space).Follows now record s) (plain : ∀ e ∈ record, PlainCall e.call) :
    record.Abides (Store.ruling (responseName space) wholeMillis) :=
  (view ids space).abides run plain

def LiveCall (now : Timestamp) : Store.Call → Prop
  | .get _ => True
  | .set _ response =>
      (response.createdAt.IsCivil ∧ response.expiresAt.IsPlain) ∧ now < response.expiresAt

theorem LiveCall.plain {c : Store.Call} (live : LiveCall now c) : PlainCall c := by
  cases c with
  | get => trivial
  | set => exact live.1

def NamesApart (record : Record Store.Call Store.Returned) : Prop :=
  ∀ e ∈ record, ∀ e' ∈ record, e.call.key.storageKey = e'.call.key.storageKey →
    e.call.key = e'.call.key

-- Nothing is written that has no whole millisecond left, or met in what is left over from whole
-- milliseconds.
structure IsClear (past : Record Store.Call Store.Returned) (e : Answered Store.Call Store.Returned) :
    Prop where
  left : ∀ key response, e.call = .set key response → 0 < millis response e.time
  kept : ∀ a, Store.lastAccepted? id e.call.key past = some a → e.time < a.response.expiresAt →
    e.time.toNanos < a.time.toNanos + millis a.response a.time * 1000000

theorem storageKey_of_responseName {key other : CompositeKey}
    (same : responseName space key = responseName space other) : key.storageKey = other.storageKey :=
  String.append_right_inj _ |>.1 same

section

variable {past : Record Store.Call Store.Returned} {e : Answered Store.Call Store.Returned}

theorem expiresAt_of_lasts {a : Store.Acceptance} (plain : now.IsPlain) (plainThen : a.time.IsPlain)
    (live : (a.response.createdAt.IsCivil ∧ a.response.expiresAt.IsPlain) ∧
      a.time < a.response.expiresAt)
    (lasts : wholeMillis.lasts a now = true) : now < a.response.expiresAt := by
  have order := (Timestamp.toNanos_lt_iff plainThen live.1.2).2 live.2
  have early : now.toNanos < a.time.toNanos + millis a.response a.time * 1000000 := by
    simpa [wholeMillis] using lasts
  rw [← Timestamp.toNanos_lt_iff plain live.1.2]
  simp only [millis, Cached.remaining, Timestamp.since_of_plain live.1.2 plainThen] at early
  omega

theorem lifelong_of_lasts {key : CompositeKey} {a : Store.Acceptance} (plain : now.IsPlain)
    (plains : ∀ x ∈ past, x.time.IsPlain) (live : ∀ x ∈ past, LiveCall x.time x.call)
    (last : Store.lastAccepted? id key past = some a) (lasts : wholeMillis.lasts a now = true) :
    Store.Term.lifelong.lasts a now = true := by
  obtain ⟨x, present, accepted, call, time⟩ := Store.mem_of_lastAccepted? last
  have liveThen := live x present
  have plainThen := plains x present
  rw [call, time] at liveThen
  rw [time] at plainThen
  exact (Cached.isLiveAt_iff _ _).2 (expiresAt_of_lasts plain plainThen liveThen lasts)

variable (space) in
theorem standing_eq_iff {key : CompositeKey} (plain : now.IsPlain)
    (apart : ∀ x ∈ past, x.call.key.storageKey = key.storageKey → x.call.key = key)
    (plains : ∀ x ∈ past, x.time.IsPlain) (live : ∀ x ∈ past, LiveCall x.time x.call) :
    Store.standing id key .lifelong past now =
        Store.standing (responseName space) (responseName space key) wholeMillis past now ↔
      ∀ a, Store.lastAccepted? id key past = some a → now < a.response.expiresAt →
        now.toNanos < a.time.toNanos + millis a.response a.time * 1000000 := by
  have names : Store.lastAccepted? (responseName space) (responseName space key) past =
      Store.lastAccepted? id key past :=
    Store.lastAccepted?_name fun x present same => apart x present (storageKey_of_responseName same)
  have renamed : Store.standing (responseName space) (responseName space key) wholeMillis past now =
      Store.standing id key wholeMillis past now := by
    rw [Store.standing, Store.standing, names]
  rw [renamed, Store.standing_eq_iff fun a => lifelong_of_lasts plain plains live]
  simp only [Store.Term.lifelong, wholeMillis, Cached.isLiveAt_iff, decide_eq_true_eq]

theorem millis_pos_of_ruling_eq {key : CompositeKey} {response : Cached}
    (agree : Store.ruling id .lifelong past e.time e.call =
      Store.ruling (responseName space) wholeMillis past e.time e.call)
    (call : e.call = .set key response) : 0 < millis response e.time := by
  by_contra late
  obtain ⟨failure, refuses⟩ := Option.ne_none_iff_exists'.1
    (mt wholeMillis_refuses?_eq_none_iff.1 late)
  refine (Store.Term.verdict_succeeds (fun _ _ => rfl) e.call failure).2 (agree.trans ?_)
  rw [Store.ruling, call, Store.Term.verdict_of_refuses refuses]

theorem ruling_eq_iff (apart : NamesApart (e :: past)) (plain : ∀ x ∈ e :: past, x.time.IsPlain)
    (live : ∀ x ∈ e :: past, LiveCall x.time x.call) :
    Store.ruling id .lifelong past e.time e.call =
        Store.ruling (responseName space) wholeMillis past e.time e.call ↔ IsClear past e := by
  have stands := standing_eq_iff space (plain e List.mem_cons_self)
    (fun x present => apart x (List.mem_cons_of_mem e present) e List.mem_cons_self)
    (fun x present => plain x (List.mem_cons_of_mem e present))
    (fun x present => live x (List.mem_cons_of_mem e present))
  constructor
  · intro agree
    have left (key : CompositeKey) (response : Cached) (call : e.call = .set key response) :
        0 < millis response e.time := millis_pos_of_ruling_eq agree call
    refine ⟨left, stands.1 ((Store.Term.verdict_eq_iff fun key response call => ?_).1 agree)⟩
    exact ⟨rfl, wholeMillis_refuses?_eq_none_iff.2 (left key response call)⟩
  · intro clear
    refine (Store.Term.verdict_eq_iff fun key response call => ?_).2 (stands.2 clear.kept)
    exact ⟨rfl, wholeMillis_refuses?_eq_none_iff.2 (clear.left key response call)⟩

end

-- In Redis a response stands for whole milliseconds. The stores part where a call meets the fraction that is
-- cut off.
theorem agrees_with_memory_iff {later : Timestamp} {record other : Record Store.Call Store.Returned}
    {m : MemoryStore} (memory : MemoryStore.responder.Follows later record m)
    (run : (responder ids space).Follows now other s) (same : record.asked = other.asked)
    (live : ∀ e ∈ record, LiveCall e.time e.call) (apart : NamesApart record) :
    other.Abides (Store.ruling (responseName space) wholeMillis) ∧
      (record = other ↔ ∀ e past, e :: past <:+ record → IsClear past e) := by
  have liveToo := Record.forall_of_asked same live
  have plainTimes := Record.forall_of_asked (p := fun t _ => t.IsPlain) same.symm run.shows_of_mem
  have ruled := abides run fun e present => (liveToo e present).plain
  refine ⟨ruled, ?_⟩
  rw [Record.eq_iff_of_abides (MemoryStore.abides memory) ruled same]
  refine forall_congr' fun e => forall_congr' fun past => imp_congr_right fun part => ?_
  have within := part.subset
  exact ruling_eq_iff (fun x there x' thereToo => apart x (within there) x' (within thereToo))
    (fun x there => plainTimes x (within there)) fun x there => live x (within there)

-- A response with a millisecond and a half to live, and what is found of it after more than one.
def fleeting : Cached :=
  { invoice with expiresAt := ⟨1798761600, 1500000, by decide⟩ }

def lastFraction : Timestamp := ⟨1798761600, 1200000, by decide⟩

def fleetingRecord (found : Option Cached) : Record Store.Call Store.Returned :=
  [⟨lastFraction, .get invoiceKey, .got (.ok found)⟩,
    ⟨fleeting.createdAt, .set invoiceKey fleeting, .set (.ok .written)⟩]

theorem fleeting_gone_early :
    ∃ (other : Record Store.Call Store.Returned) (s : Session) (m : MemoryStore),
      MemoryStore.responder.Follows lastFraction (fleetingRecord (some fleeting)) m ∧
      (responder .ofSeed "idem").Follows lastFraction other s ∧
      (fleetingRecord (some fleeting)).asked = other.asked ∧ fleetingRecord (some fleeting) ≠ other := by
  have order : fleeting.createdAt ≤ lastFraction := not_lt.1 (by decide)
  have put := Responder.Follows.call (S := MemoryStore.responder)
    (.start fleeting.createdAt trivial) (.set invoiceKey fleeting)
  have memory : MemoryStore.responder.Follows lastFraction (fleetingRecord (some fleeting)) _ :=
    (put.pass order trivial).call (.get invoiceKey)
  have plain : fleeting.createdAt.IsPlain := by decide
  have plainLater : lastFraction.IsPlain := by decide
  have set := Responder.Follows.call (S := responder .ofSeed "idem")
    (.start fleeting.createdAt plain) (.set invoiceKey fleeting)
  have run := (set.pass order plainLater).call (.get invoiceKey)
  refine ⟨_, _, _, memory, run, rfl, fun same => ?_⟩
  have live : ∀ e ∈ fleetingRecord (some fleeting), LiveCall e.time e.call := by
    simp only [fleetingRecord, List.forall_mem_cons]
    refine ⟨trivial, ⟨⟨by decide, by decide⟩, (Timestamp.before_iff _ _).1 (by decide)⟩, by simp⟩
  have apart : NamesApart (fleetingRecord (some fleeting)) := by
    simp [NamesApart, fleetingRecord, Store.Call.key]
  have clear := (agrees_with_memory_iff memory run rfl live apart).2.1 same _ _ (List.suffix_refl _)
  have kept := clear.kept ⟨fleeting.createdAt, fleeting⟩ rfl ((Timestamp.before_iff _ _).1 (by decide))
  exact absurd kept (by decide +kernel)

end OncePerKey.Redis
