import OncePerKey.Postgres.Client
import OncePerKey.Proofs.Discipline

set_option autoImplicit false

namespace OncePerKey.Postgres

inductive Call where
  | get (key : CompositeKey)
  | set (key : CompositeKey) (response : Cached)
  -- A sweep at the moment that the clock shows.
  | deleteExpired (limit : Int64)

inductive Returned where
  | got (r : Except Failure (Option Cached))
  | set (r : Except Failure WriteOutcome)
  | swept (r : Except Failure UInt64)

def Call.program : Call → Talking Returned
  | .get key => do return .got (← Postgres.get key)
  | .set key response => do return .set (← Postgres.set key response)
  | .deleteExpired limit => do return .swept (← Postgres.deleteExpired (← Talking.ask .now) limit)

-- What a client has learned since its last insertion.
structure Round where
  inserted : Option Row := none
  clock : Option Timestamp := none
  found : Option Row := none

def insertedBy (row : Row) (r : Reply) : Option Row :=
  match r.affected with
  | .ok _ => some row
  | .error _ => none

def Round.after (s : Round) : (q : Ask) → q.Answer → Round
  | .now, t => { s with clock := some t, found := none }
  | .execute (.insert row), r => { inserted := insertedBy row r }
  | .execute (.select _), r =>
      match r with
      | .found row => { s with found := some row }
      | _ => { s with found := none }
  | _, _ => s

def Call.may (c : Call) (s : Round) : Ask → Prop
  | .execute (.select key) => c = .get key ∨ ∃ response, c = .set key response
  | .execute (.insert row) =>
      ∃ id key response, c = .set key response ∧ row = .ofResponse id key response
  | .execute (.deleteStale _ now) | .execute (.sweep now _) =>
      ∃ t, s.clock = some t ∧ now = inMicros t
  | .now | .newId | .report _ | .execute .ping => True

def Round.Settles (s : Round) (existing : Cached) : Prop :=
  ∃ t row, s.clock = some t ∧ s.found = some row ∧ row.response = .ok existing ∧
    t < existing.expiresAt

def Round.Stores (s : Round) (key : CompositeKey) (response : Cached) : Prop :=
  ∃ id, s.inserted = some (.ofResponse id key response)

def Call.ends (c : Call) (s : Round) (r : Returned) : Prop :=
  (r = .set (.ok .written) → ∃ key response, c = .set key response ∧ s.Stores key response) ∧
    ∀ existing, r = .set (.ok (.alreadyExists existing)) → s.Settles existing

def Call.discipline (c : Call) : Discipline Ask Ask.Answer Round where
  may := c.may
  after := Round.after

section

variable {c : Call} {s : Round} {α : Type} {ends : Round → α → Prop}

@[simp] theorem obeys_ask {q : Ask} {next : q.Answer → Talking α} :
    ((Talking.ask q).bind next).Obeys c.discipline ends s ↔
      c.may s q ∧ ∀ r, (next r).Obeys c.discipline ends (s.after q r) :=
  Iff.rfl

@[simp] theorem obeys_log {level : Level} {message : String} {fields : List (String × FieldValue)}
    {next : Unit → Talking α} :
    ((log level message fields).bind next).Obeys c.discipline ends s ↔
      (next ()).Obeys c.discipline ends s := by
  constructor
  · intro obeys
    exact obeys.2 ()
  · intro obeys
    exact ⟨trivial, fun _ => obeys⟩

theorem observed_obeys {operation : String} {t : Talking (Except Failure α)}
    {ends : Round → Except Failure α → Prop} (obeys : t.Obeys c.discipline ends s) :
    (observed operation t).Obeys c.discipline ends s := by
  unfold observed
  rw [Program.bind_eq, Program.obeys_bind]
  refine obeys.mono fun s result reached => ?_
  exact ⟨trivial, fun _ => reached⟩

variable {key : CompositeKey} {response : Cached}

theorem settle_obeys (calls : c = .set key response) :
    (settle key).Obeys c.discipline
      (fun s result => ∀ existing, result = .ok (some existing) → s.Settles existing) s := by
  unfold settle find
  simp only [Program.bind_eq, Program.bind_assoc, obeys_ask]
  -- The clock is read first, so the row is compared with a moment before it was read.
  refine ⟨trivial, fun now => ⟨.inr ⟨response, calls⟩, fun answer => ?_⟩⟩
  cases answer with
  | refused refusal =>
    intro existing same
    exact nomatch same
  | count n =>
    intro existing same
    exact nomatch same
  | found row =>
    simp only [Reply.row?, Except.mapError, Program.pure_eq_done, Program.done_bind]
    cases read : row.response with
    | error failure =>
      intro existing same
      exact nomatch same
    | ok cached =>
      simp only
      by_cases live : cached.isLiveAt now = true
      · rw [if_pos live]
        intro existing same
        cases same
        exact ⟨now, row, rfl, rfl, read, (cached.isLiveAt_iff now).1 live⟩
      · rw [if_neg live, obeys_ask]
        refine ⟨⟨now, rfl, rfl⟩, fun answer => ?_⟩
        cases Reply.affected answer with
        | error refusal =>
          intro existing same
          exact nomatch same
        | ok deleted => by_cases any : 0 < deleted <;> simp [any]

theorem Call.ends_failed (failure : Failure) : c.ends s (.set (.error failure)) := by
  constructor <;> simp

theorem Call.ends_got (r : Except Failure (Option Cached)) : c.ends s (.got r) := by
  constructor <;> simp

theorem Call.ends_swept (r : Except Failure UInt64) : c.ends s (.swept r) := by
  constructor <;> simp

theorem writeAttempts_obeys (calls : c = .set key response) (left attempt : Nat) (s : Round) :
    (writeAttempts key response left attempt).Obeys c.discipline
      (fun s result => c.ends s (.set result)) s := by
  -- Each attempt begins a new round, whatever the one before has learned.
  induction left generalizing attempt s with
  | zero => exact Call.ends_failed _
  | succ left ih =>
    unfold writeAttempts
    simp only [Program.bind_eq, obeys_ask]
    refine ⟨trivial, fun id => ⟨⟨id, key, response, calls, rfl⟩, fun answer => ?_⟩⟩
    cases affected : Reply.affected answer with
    | ok n =>
      refine ⟨fun _ => ⟨key, response, calls, id, ?_⟩, fun existing same => ?_⟩
      · simp [Round.after, insertedBy, affected]
      · exact nomatch same
    | error refusal =>
      simp only
      cases refusal.isUniqueViolation with
      | false => exact Call.ends_failed _
      | true =>
        simp only [Bool.not_true, Bool.false_eq_true, if_false, obeys_log]
        rw [Program.obeys_bind]
        refine (settle_obeys calls).mono fun s result reached => ?_
        match result with
        | .error failure => exact Call.ends_failed failure
        | .ok none => exact ih (attempt + 1) s
        | .ok (some existing) =>
          refine ⟨by simp, fun other same => ?_⟩
          cases same
          exact reached existing rfl

theorem get_obeys (calls : c = .get key) :
    (Postgres.get key).Obeys c.discipline (fun _ _ => True) s := by
  refine observed_obeys ?_
  unfold lookup find
  simp only [Program.bind_eq, Program.bind_assoc, obeys_ask]
  refine ⟨.inl calls, fun answer => ?_⟩
  cases answer with
  | refused refusal => trivial
  | count n => trivial
  | found row =>
    simp only [Reply.row?, Except.mapError, Program.pure_eq_done, Program.done_bind]
    cases row.response with
    | error failure => trivial
    | ok cached => exact ⟨trivial, fun _ => trivial⟩

theorem deleteExpired_obeys {now : Timestamp} (shown : s.clock = some now) (limit : Int64) :
    (deleteExpired now limit).Obeys c.discipline (fun _ _ => True) s :=
  observed_obeys ⟨⟨now, shown, rfl⟩, fun _ => trivial⟩

theorem program_obeys (c : Call) : c.program.Obeys c.discipline c.ends {} := by
  cases c with
  | get key =>
    change ((Postgres.get key).bind fun r => .done (Returned.got r)).Obeys _ _ _
    rw [Program.obeys_bind]
    exact (get_obeys rfl).mono fun s r _ => Call.ends_got r
  | set key response =>
    change ((Postgres.set key response).bind fun r => .done (Returned.set r)).Obeys _ _ _
    rw [Program.obeys_bind]
    exact observed_obeys (writeAttempts_obeys rfl _ _ _)
  | deleteExpired limit =>
    change ((Talking.ask .now).bind fun now =>
      (deleteExpired now limit).bind fun r => .done (Returned.swept r)).Obeys _ _ _
    rw [obeys_ask]
    refine ⟨trivial, fun now => ?_⟩
    rw [Program.obeys_bind]
    exact (deleteExpired_obeys rfl limit).mono fun s r _ => Call.ends_swept r

end

end OncePerKey.Postgres
