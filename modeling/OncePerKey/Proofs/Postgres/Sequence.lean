import OncePerKey.Proofs.Postgres.FirstWriter
import OncePerKey.Proofs.Postgres.Visible
import OncePerKey.Proofs.Store.Sequence

set_option autoImplicit false

namespace OncePerKey.Postgres

structure Session where
  table : Table := {}
  drawn : Nat := 0

def Session.answer (ids : Nat → Uuid) (now : Timestamp) :
    (q : Ask) → Session → q.Answer × Session
  | .now, s => (now, s)
  | .newId, s => (ids s.drawn, { s with drawn := s.drawn + 1 })
  | .execute st, s => ((s.table.run st).1, { s with table := (s.table.run st).2 })
  | .report _, s => ((), s)

def IsText (text : String) : Prop :=
  '\x00' ∉ text.toList

instance (text : String) : Decidable (IsText text) :=
  inferInstanceAs (Decidable (¬ _))

def Nameable (key : CompositeKey) : Prop :=
  IsText key.route ∧ IsText key.method ∧ IsText key.key.text

instance (key : CompositeKey) : Decidable (Nameable key) :=
  inferInstanceAs (Decidable (_ ∧ _))

variable {ids : Nat → Uuid} {now : Timestamp} {s : Session} {key : CompositeKey} {response : Cached}
  {α : Type}

theorem misfit?_select (named : Nameable key) : (Statement.select key).misfit? = none := by
  obtain ⟨route, method, text⟩ := named
  simp only [IsText] at route method text
  simp [Statement.misfit?, Statement.texts, Statement.moments, Statement.overflows, route, method, text]

theorem misfit?_deleteStale {id : Uuid} {moment : Timestamp} (dated : earliest ≤ moment) :
    (Statement.deleteStale id moment).misfit? = none := by
  have inTime := (Timestamp.not_before_iff _ _).2 dated
  simp [Statement.misfit?, Statement.texts, Statement.moments, Statement.overflows, inTime]

theorem le_inMicros_of_bindable {t : Timestamp} (bindable : Bindable now) (whole : t.IsWhole)
    (past : t ≤ now) : t ≤ inMicros now := by
  rcases bindable with ⟨plain, modern | same⟩
  · exact le_inMicros whole plain modern past
  · rwa [same]

section

theorem run_now_bind (next : Timestamp → Talking α) :
    ((Talking.ask .now).bind next).run (Session.answer ids now) s =
      (next now).run (Session.answer ids now) s := rfl

theorem run_newId_bind (next : Uuid → Talking α) :
    ((Talking.ask .newId).bind next).run (Session.answer ids now) s =
      (next (ids s.drawn)).run (Session.answer ids now) { s with drawn := s.drawn + 1 } := rfl

theorem run_execute_bind (st : Statement) (next : Reply → Talking α) :
    ((Talking.ask (.execute st)).bind next).run (Session.answer ids now) s =
      (next (s.table.run st).1).run (Session.answer ids now)
        { s with table := (s.table.run st).2 } := rfl

theorem run_observed (operation : String) (t : Talking (Except Failure α)) :
    (observed operation t).run (Session.answer ids now) s = t.run (Session.answer ids now) s := by
  unfold observed
  rw [Program.bind_eq, Program.run_bind]
  rfl

theorem run_log_bind (level : Level) (message : String) (fields : List (String × FieldValue))
    (next : Unit → Talking α) :
    ((log level message fields).bind next).run (Session.answer ids now) s =
      (next ()).run (Session.answer ids now) s := rfl

variable (named : Nameable key)
include named

theorem run_find : (find key).run (Session.answer ids now) s = (.ok (s.table.find? key), s) := by
  unfold find
  refine (run_execute_bind _ _).trans ?_
  rw [Table.run_of_fits (misfit?_select named)]
  cases found : s.table.find? key with
  | none => simp [Table.carry, Statement.clipped, found, Reply.row?, Except.mapError]
  | some row => simp [Table.carry, Statement.clipped, found, Reply.row?, Except.mapError]

theorem run_lookup (sound : s.table.IsSound) :
    (lookup key).run (Session.answer ids now) s = (.ok (s.table.look now key), s) := by
  unfold lookup
  rw [Program.bind_eq, Program.run_bind, run_find named, Table.look]
  cases found : s.table.find? key with
  | none => rfl
  | some row =>
    have readable := Row.response_of_isSound (sound.rows row (Table.mem_of_find? found).1)
    simp only [readable]
    exact run_now_bind _

variable (ids) in
theorem run_settle_of_live {existing : Cached} (sound : s.table.IsSound)
    (live : s.table.look now key = some existing) :
    (settle key).run (Session.answer ids now) s = (.ok (some existing), s) := by
  obtain ⟨seen, alive⟩ := Option.filter_eq_some_iff.1 live
  obtain ⟨row, found, rfl⟩ := Option.map_eq_some_iff.1 seen
  have readable := Row.response_of_isSound (sound.rows row (Table.mem_of_find? found).1)
  unfold settle
  refine (run_now_bind _).trans ?_
  rw [Program.bind_eq, Program.run_bind, run_find named, found]
  simp only [readable, alive, if_true]
  rfl

-- The rows that are deleted along with a stale one.
def stale (t : Table) (row : Row) (now : Timestamp) : List Row :=
  t.rows.filter fun other => other.id = row.id && other.isExpiredAt (inMicros now)

variable (ids) in
theorem run_settle_of_stale {row : Row} (sound : s.table.IsSound) (found : s.table.find? key = some row)
    (bindable : Bindable now) (expired : row.expiresAt ≤ now) :
    (settle key).run (Session.answer ids now) s =
      (.ok none, { s with table := s.table.delete (stale s.table row now) }) := by
  have soundRow := sound.rows row (Table.mem_of_find? found).1
  have readable := Row.response_of_isSound soundRow
  have dated := le_trans soundRow.dated (le_inMicros_of_bindable bindable soundRow.whole expired)
  have dead : row.cached.isLiveAt now = false := (Timestamp.not_before_iff _ _).2 expired
  unfold settle
  refine (run_now_bind _).trans ?_
  rw [Program.bind_eq, Program.run_bind, run_find named, found]
  simp only [readable, dead, Bool.false_eq_true, if_false]
  refine (run_execute_bind _ _).trans ?_
  simp only [Table.run_of_fits (misfit?_deleteStale dated), Statement.clipped, Table.carry, Table.deleting,
    Reply.affected]
  split
  · rw [Program.bind_eq, run_log_bind]
    rfl
  · rfl

end

-- What the schema accepts, at moments that the table keeps as they are.
structure Storable (key : CompositeKey) (response : Cached) : Prop where
  named : Nameable key
  texts : ∀ text ∈ [response.body, response.contentType, response.fingerprint].reduceOption, IsText text
  short : ∀ text ∈ response.fingerprint, text.length ≤ fingerprintLength
  dated : earliest ≤ response.createdAt
  status : 100 ≤ response.status.toNat ∧ response.status.toNat ≤ 599
  order : response.createdAt < response.expiresAt
  created : response.createdAt.IsWhole
  expires : response.expiresAt.IsWhole

instance (key : CompositeKey) (response : Cached) : Decidable (Storable key response) :=
  decidable_of_iff (Nameable key ∧
      (∀ text ∈ [response.body, response.contentType, response.fingerprint].reduceOption, IsText text) ∧
      (∀ text ∈ response.fingerprint, text.length ≤ fingerprintLength) ∧
      response.createdAt.before earliest = false ∧
      (100 ≤ response.status.toNat ∧ response.status.toNat ≤ 599) ∧
      response.createdAt.before response.expiresAt = true ∧
      response.createdAt.IsWhole ∧ response.expiresAt.IsWhole)
    ⟨fun ⟨named, texts, short, dated, status, order, created, expires⟩ =>
      ⟨named, texts, short, (Timestamp.not_before_iff _ _).1 dated, status, (Timestamp.before_iff _ _).1 order,
        created, expires⟩,
    fun ⟨named, texts, short, dated, status, order, created, expires⟩ =>
      ⟨named, texts, short, (Timestamp.not_before_iff _ _).2 dated, status, (Timestamp.before_iff _ _).2 order,
        created, expires⟩⟩

section

variable {id : Uuid} (storable : Storable key response)
include storable

theorem cached_ofResponse : (Row.ofResponse id key response).cached = response := by
  simp [Row.cached, Row.ofResponse, inMicros_of_isWhole storable.created,
    inMicros_of_isWhole storable.expires]

theorem clipped_ofResponse : (Row.ofResponse id key response).clipped = .ofResponse id key response := by
  have whole : response.fingerprint.map (fun text =>
      String.ofList (text.toList.take fingerprintLength)) = response.fingerprint := by
    cases given : response.fingerprint with
    | none => rfl
    | some text =>
      have short : text.toList.length ≤ fingerprintLength := by
        rw [String.length_toList]
        exact storable.short text given
      rw [Option.map_some, List.take_of_length_le short, String.ofList_toList]
  simp [Row.clipped, Row.ofResponse, whole]

theorem misfit?_insert : (Statement.insert (.ofResponse id key response)).misfit? = none := by
  have texts : ((Statement.insert (.ofResponse id key response)).texts.any
      fun text => '\x00' ∈ text.toList) = false := by
    obtain ⟨route, method, text⟩ := storable.named
    simp only [IsText] at route method text
    have rest := storable.texts
    simp only [Statement.texts, Row.ofResponse, List.any_append, Bool.or_eq_false_iff, List.any_eq_false,
      decide_eq_true_eq]
    exact ⟨by simp [route, method, text], rest⟩
  have moments : (Statement.insert (.ofResponse id key response)).moments.any (·.before earliest) = false := by
    have expires := le_trans storable.dated (le_of_lt storable.order)
    simp [Statement.moments, Row.ofResponse, inMicros_of_isWhole storable.created,
      inMicros_of_isWhole storable.expires, (Timestamp.not_before_iff _ _).2 storable.dated,
      (Timestamp.not_before_iff _ _).2 expires]
  have short : (Statement.insert (.ofResponse id key response)).overflows = false := by
    cases given : response.fingerprint with
    | none => simp [Statement.overflows, Row.ofResponse, given]
    | some text =>
      have length := storable.short text given
      have none_ : text.toList.drop fingerprintLength = [] :=
        List.drop_eq_nil_of_le (by rwa [String.length_toList])
      simp [Statement.overflows, Row.ofResponse, given, overflows, none_]
  rw [Statement.misfit?, texts, moments, short]
  rfl

theorem isSound_ofResponse : (Row.ofResponse id key response).IsSound where
  status := by
    have range := storable.status
    simp only [Row.ofResponse]
    omega
  whole := by
    rw [Row.ofResponse, inMicros_of_isWhole storable.expires]
    exact storable.expires
  dated := by
    rw [Row.ofResponse, inMicros_of_isWhole storable.expires]
    exact le_trans storable.dated (le_of_lt storable.order)

theorem refusal?_ofResponse (t : Table) : t.refusal? (.ofResponse id key response) =
    if (t.find? key).isSome then some ⟨Refusal.uniqueViolation, "duplicate key"⟩ else none := by
  obtain ⟨-, -, -, -, range, order, created, expires⟩ := storable
  let row := Row.ofResponse id key response
  have allowed : ¬ (row.status < 100 ∨ 599 < row.status) := by
    simp only [row, Row.ofResponse]
    omega
  have lasting : row.isExpiredAt row.createdAt = false := by
    simp only [row, Row.isExpiredAt, Row.ofResponse, inMicros_of_isWhole created,
      inMicros_of_isWhole expires, (Timestamp.before_iff _ _).2 order, Bool.not_true]
  rw [Table.refusal?, if_neg allowed, lasting]
  rfl

variable {left attempt : Nat}

theorem run_writeAttempts_of_free (free : s.table.find? key = none) :
    (writeAttempts key response (left + 1) attempt).run (Session.answer ids now) s =
      (.ok .written, { table := s.table.insert (.ofResponse (ids s.drawn) key response)
                       drawn := s.drawn + 1 }) := by
  have accepted : s.table.refusal? (.ofResponse (ids s.drawn) key response) = none := by
    rw [refusal?_ofResponse storable, free]
    rfl
  unfold writeAttempts
  refine (run_newId_bind _).trans ((run_execute_bind _ _).trans ?_)
  simp only [Table.run_of_fits (misfit?_insert storable), Statement.clipped, clipped_ofResponse storable,
    Table.carry, accepted]
  rfl

theorem run_writeAttempts_of_taken (taken : (s.table.find? key).isSome = true) :
    (writeAttempts key response (left + 1) attempt).run (Session.answer ids now) s =
      ((settle key).bind fun
        | .error failure => .done (.error failure)
        | .ok (some existing) => .done (.ok (.alreadyExists existing))
        | .ok none => writeAttempts key response left (attempt + 1)).run (Session.answer ids now)
          { s with drawn := s.drawn + 1 } := by
  have refused : s.table.refusal? (.ofResponse (ids s.drawn) key response) =
      some ⟨Refusal.uniqueViolation, "duplicate key"⟩ := by
    rw [refusal?_ofResponse storable, if_pos taken]
  rw [writeAttempts]
  refine (run_newId_bind _).trans ((run_execute_bind _ _).trans ?_)
  simp only [Table.run_of_fits (misfit?_insert storable), Statement.clipped, clipped_ofResponse storable,
    Table.carry, refused]
  rfl

theorem run_writeAttempts_of_live {existing : Cached} (sound : s.table.IsSound)
    (live : s.table.look now key = some existing) :
    (writeAttempts key response (left + 1) attempt).run (Session.answer ids now) s =
      (.ok (.alreadyExists existing), { s with drawn := s.drawn + 1 }) := by
  have taken : (s.table.find? key).isSome = true := by
    cases found : s.table.find? key with
    | none => simp [Table.look, found] at live
    | some row => rfl
  have settled := run_settle_of_live ids storable.named (s := { s with drawn := s.drawn + 1 }) sound
    live
  rw [run_writeAttempts_of_taken storable taken, Program.run_bind, settled]
  rfl

theorem run_writeAttempts_of_stale {row : Row} (sound : s.table.IsSound)
    (found : s.table.find? key = some row) (bindable : Bindable now) (expired : row.expiresAt ≤ now) :
    (writeAttempts key response (left + 1) attempt).run (Session.answer ids now) s =
      (writeAttempts key response left (attempt + 1)).run (Session.answer ids now)
        { table := s.table.delete (stale s.table row now), drawn := s.drawn + 1 } := by
  have settled := run_settle_of_stale ids storable.named (s := { s with drawn := s.drawn + 1 }) sound found
    bindable expired
  rw [run_writeAttempts_of_taken storable (by rw [found]; rfl), Program.run_bind, settled]

end

theorem find?_delete_stale {t : Table} {row : Row} (bindable : Bindable now) (sound : t.IsSound)
    (found : t.find? key = some row) (expired : row.expiresAt ≤ now) :
    (t.delete (stale t row now)).find? key = none := by
  obtain ⟨present, same⟩ := Table.mem_of_find? found
  have expiredThen : row.expiresAt ≤ inMicros now :=
    le_inMicros_of_bindable bindable (sound.rows row present).whole expired
  refine Table.find?_eq_none.2 fun other left sameToo => ?_
  obtain ⟨presentToo, spared⟩ := Table.mem_delete.1 left
  obtain rfl := sound.distinct row present other presentToo (same.trans sameToo.symm)
  exact spared (List.mem_filter.2 ⟨present, by simp [Row.isExpiredAt_iff, expiredThen]⟩)

theorem expired_of_mem_stale {t : Table} {row other : Row} (bindable : Bindable now)
    (deleted : other ∈ stale t row now) : other.expiresAt ≤ now := by
  have expired := (List.mem_filter.1 deleted).2
  rw [Bool.and_eq_true, Row.isExpiredAt_iff] at expired
  exact le_trans expired.2 (inMicros_le_of_bindable bindable)

def serve (ids : Nat → Uuid) (now : Timestamp) (c : Store.Call) (s : Session) :
    Store.Returned × Session :=
  match c with
  | .get key =>
      let r := (get key).run (Session.answer ids now) s
      (.got r.1, r.2)
  | .set key response =>
      let r := (set key response).run (Session.answer ids now) s
      (.set r.1, r.2)

def Swept (ids : Nat → Uuid) (now : Timestamp) (s s' : Session) : Prop :=
  ∃ limit : Int64, s' = ((deleteExpired now limit).run (Session.answer ids now) s).2

def responder (ids : Nat → Uuid) (shows : Timestamp → Prop) : Responder Store.Call Store.Returned where
  State := Session
  start := {}
  serve := serve ids
  changes := Swept ids
  shows := shows

section

variable {existing : Cached}

theorem serve_get (named : Nameable key) (sound : s.table.IsSound) :
    serve ids now (.get key) s = (.got (.ok (s.table.look now key)), s) := by
  simp only [serve, get, run_observed, run_lookup named sound]

theorem serve_set {result : Except Failure WriteOutcome} {s' : Session}
    (wrote : (writeAttempts key response maxWriteAttempts 1).run (Session.answer ids now) s =
      (result, s')) : serve ids now (.set key response) s = (.set result, s') := by
  simp only [serve, set, run_observed, write, wrote]

theorem serve_set_of_live (storable : Storable key response) (sound : s.table.IsSound)
    (live : s.table.look now key = some existing) :
    serve ids now (.set key response) s =
      (.set (.ok (.alreadyExists existing)), { s with drawn := s.drawn + 1 }) :=
  serve_set (run_writeAttempts_of_live storable sound live)

variable (ids) in
theorem serve_set_of_absent (bindable : Bindable now) (storable : Storable key response)
    (sound : s.table.IsSound) (absent : s.table.look now key = none) :
    ∃ (gone : List Row) (id : Uuid) (drawn : Nat), (∀ row ∈ gone, row.expiresAt ≤ now) ∧
      (s.table.delete gone).find? key = none ∧
      serve ids now (.set key response) s = (.set (.ok .written),
        ⟨(s.table.delete gone).insert (.ofResponse id key response), drawn⟩) := by
  cases found : s.table.find? key with
  | none =>
    have none_ : s.table.delete [] = s.table := by simp [Table.delete]
    refine ⟨[], ids s.drawn, s.drawn + 1, by simp, by rwa [none_], ?_⟩
    rw [none_]
    exact serve_set (run_writeAttempts_of_free storable found)
  | some row =>
    have expired : row.expiresAt ≤ now := by
      simp only [Table.look, found, Option.map_some, Option.filter_some, ite_eq_right_iff] at absent
      by_contra live
      cases absent ((Cached.isLiveAt_iff _ _).2 (not_le.1 live))
    have free := find?_delete_stale bindable sound found expired
    refine ⟨stale s.table row now, ids (s.drawn + 1), s.drawn + 2,
      fun other => expired_of_mem_stale bindable, free, serve_set ?_⟩
    rw [maxWriteAttempts, run_writeAttempts_of_stale storable sound found bindable expired]
    exact run_writeAttempts_of_free storable free

end

theorem run_sweep (t : Table) (moment : Timestamp) (limit : Int) :
    ∃ gone : List Row, (∀ row ∈ gone, row.expiresAt ≤ moment) ∧
      (t.run (.sweep moment limit)).2 = t.delete gone := by
  have nothing : t.delete [] = t := by simp [Table.delete]
  cases misfit : (Statement.sweep moment limit).misfit? with
  | some refusal => exact ⟨[], by simp, by rw [Table.run, misfit, nothing]⟩
  | none =>
    rw [Table.run_of_fits misfit]
    by_cases negative : limit < 0
    · exact ⟨[], by simp, by simp [Table.carry, Statement.clipped, negative, nothing]⟩
    · refine ⟨(t.expired moment).take limit.toNat, fun row taken => ?_, ?_⟩
      · have expired := (Table.mem_expired.1 (List.mem_of_mem_take taken)).2
        rwa [Row.isExpiredAt_iff] at expired
      · simp [Table.carry, Statement.clipped, negative, Table.deleting]

theorem table_of_swept {s' : Session} (bindable : Bindable now) (swept : Swept ids now s s') :
    ∃ gone : List Row, (∀ row ∈ gone, row.expiresAt ≤ now) ∧ s'.table = s.table.delete gone := by
  obtain ⟨limit, rfl⟩ := swept
  rw [deleteExpired, run_observed]
  obtain ⟨gone, expired, same⟩ := run_sweep s.table (inMicros now) limit.toInt
  exact ⟨gone, fun row taken => le_trans (expired row taken) (inMicros_le_of_bindable bindable), same⟩

def StorableCall : Store.Call → Prop
  | .get key => Nameable key
  | .set key response => Storable key response

def view (ids : Nat → Uuid) : Store.View (responder ids Bindable) id .lifelong StorableCall where
  Sound s := s.table.IsSound
  look s := s.table.look
  start := ⟨Table.isSound_empty, fun _ _ => rfl⟩
  change sound bindable swept := by
    obtain ⟨gone, expired, same⟩ := table_of_swept bindable swept
    rw [same]
    refine ⟨sound.delete gone, fun later key order => ?_⟩
    exact sound.look_delete fun row deleted => le_trans (expired row deleted) order
  get sound _ named := serve_get named sound
  refused _ _ _ refuses := nomatch refuses
  occupied sound _ storable _ live :=
    ⟨_, serve_set_of_live storable sound live, sound, fun _ _ _ => rfl⟩
  free {now s key response} sound bindable storable _ absent := by
    obtain ⟨gone, id, drawn, expired, free, served⟩ :=
      serve_set_of_absent ids bindable storable sound absent
    refine ⟨_, served, (sound.delete gone).insert (isSound_ofResponse storable) free,
      fun later other order => ?_⟩
    rw [Table.look_insert free, cached_ofResponse storable,
      sound.look_delete fun row deleted => le_trans (expired row deleted) order]
    rfl

theorem abides {record : Record Store.Call Store.Returned}
    (run : (responder ids Bindable).Follows now record s)
    (storable : ∀ e ∈ record, StorableCall e.call) : record.Abides (Store.ruling id .lifelong) :=
  (view ids).abides run storable

end OncePerKey.Postgres
