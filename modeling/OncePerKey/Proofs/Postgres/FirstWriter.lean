import OncePerKey.Proofs.Postgres.Round
import OncePerKey.Proofs.Postgres.Table

set_option autoImplicit false

namespace OncePerKey.Postgres

-- A statement that fails may have taken effect or not.
def answers (now : Timestamp) (t : Table) : (q : Ask) → q.Answer → Table → Prop
  | .now, r, t' => r = now ∧ t' = t
  | .newId, _, t' | .report _, _, t' => t' = t
  | .execute s, r, t' =>
      (r = (t.run s).1 ∧ t' = (t.run s).2) ∨
        ∃ refusal, r = .refused refusal ∧ (t' = t ∨ t' = (t.run s).2)

def overTable (shows : Timestamp → Prop) : Surroundings Ask Ask.Answer where
  State := Table
  answers := answers
  shows := shows

-- Moments that are bound to statements are sure not to be put off from 2000 on. Before, they have to be
-- whole microseconds.
def Bindable (t : Timestamp) : Prop :=
  t.IsPlain ∧ (Timestamp.millennium ≤ t ∨ inMicros t = t)

theorem inMicros_le_of_bindable {t : Timestamp} (bindable : Bindable t) : inMicros t ≤ t := by
  rcases bindable with ⟨plain, modern | whole⟩
  · exact inMicros_le plain modern
  · exact le_of_eq whole

structure Insertion where
  time : Timestamp
  row : Row

def Insertion.lifetime (x : Insertion) : Set Timestamp :=
  Set.Ico x.time x.row.expiresAt

section

variable {ι : Type}

def insertionOf : Exchange ι Ask Ask.Answer → Option Insertion
  | ⟨_, time, .execute (.insert row), r⟩ => (insertedBy row r).map (⟨time, ·⟩)
  | _ => none

def insertions (history : List (Exchange ι Ask Ask.Answer)) : List Insertion :=
  history.filterMap insertionOf

theorem mem_insertions {history : List (Exchange ι Ask Ask.Answer)} {x : Insertion} :
    x ∈ insertions history ↔ ∃ e ∈ history, insertionOf e = some x :=
  List.mem_filterMap

theorem table_of_answers {now : Timestamp} {t t' : Table} {q : Ask} {r : q.Answer}
    (answers : answers now t q r t') :
    t' = t ∨ ∃ statement, q = .execute statement ∧ t' = (t.run statement).2 := by
  cases q with
  | now => exact .inl answers.2
  | newId | report => exact .inl answers
  | execute statement =>
    rcases answers with ⟨-, effect⟩ | ⟨refusal, -, same | effect⟩
    · exact .inr ⟨statement, rfl, effect⟩
    · exact .inl same
    · exact .inr ⟨statement, rfl, effect⟩

theorem insertedBy_eq_some {row other : Row} {r : Reply} (inserted : insertedBy row r = some other) :
    other = row ∧ ∀ refusal, r ≠ .refused refusal := by
  cases r with
  | refused refusal => exact nomatch inserted
  | found | count =>
    cases inserted
    exact ⟨rfl, by simp⟩

theorem insertion_effect {now : Timestamp} {t t' : Table} {q : Ask} {r : q.Answer} {i : ι}
    {x : Insertion} (answers : answers now t q r t')
    (inserted : insertionOf ⟨i, now, q, r⟩ = some x) :
    x.time = now ∧ t.find? x.row.key = none ∧ x.row.clipped ∈ t'.rows := by
  cases q with
  | execute statement =>
    cases statement with
    | insert row =>
      obtain ⟨other, accepted, rfl⟩ := Option.map_eq_some_iff.1 inserted
      obtain ⟨rfl, notRefused⟩ := insertedBy_eq_some accepted
      rcases answers with ⟨rfl, rfl⟩ | ⟨refusal, refused, -⟩
      · obtain ⟨free, effect⟩ := Table.run_insert notRefused
        refine ⟨rfl, free, ?_⟩
        rw [effect]
        exact List.mem_append_right _ (List.mem_singleton.2 rfl)
      · exact absurd refused (notRefused refusal)
    | _ => exact nomatch inserted
  | _ => exact nomatch inserted

end

section

variable {ι : Type} [DecidableEq ι] {shows : Timestamp → Prop} {calls : ι → Call}
  {w₀ v w : World (overTable shows) ι Returned}

def roundOf (c : Call) (i : ι) (history : List (Exchange ι Ask Ask.Answer)) : Round :=
  c.discipline.stage {} i history

theorem may_of_ask (starts : w₀.Starts fun i => (calls i).program) (run : World.Reaches w₀ w) {i : ι}
    {q : Ask} {next : q.Answer → Talking Returned} (asks : w.tasks i = .ask q next) :
    (calls i).may (roundOf (calls i) i w.history) q :=
  World.may_of_ask starts (program_obeys (calls i)) run asks

theorem ends_of_done (starts : w₀.Starts fun i => (calls i).program) (run : World.Reaches w₀ w) {i : ι}
    {r : Returned} (ended : w.tasks i = .done r) :
    (calls i).ends (roundOf (calls i) i w.history) r :=
  World.ends_of_done starts (program_obeys (calls i)) run ended

theorem cause_of_round (starts : w₀.Starts fun i => (calls i).program) {i : ι} {p : Round → Prop}
    {P : World (overTable shows) ι Returned → Prop} (first : ¬ p {})
    (lasts : ∀ u v, World.Step u v → P u → P v)
    (answer : ∀ v q next r s, World.Reaches w₀ v → v.tasks i = .ask q next →
      (overTable shows).answers v.now v.state q r s →
      (calls i).may (roundOf (calls i) i v.history) q →
      p ((roundOf (calls i) i v.history).after q r) →
      p (roundOf (calls i) i v.history) ∨ P (v.answered i q r (next r) s))
    (run : World.Reaches w₀ w) (holds : p (roundOf (calls i) i w.history)) : P w :=
  World.cause_of_stage starts (program_obeys (calls i)) first lasts answer run holds

theorem clock_le (starts : w₀.Starts fun i => (calls i).program) (shown : shows w₀.now)
    (run : World.Reaches w₀ w) {i : ι} {t : Timestamp}
    (clock : (roundOf (calls i) i w.history).clock = some t) : t ≤ w.now ∧ shows t := by
  refine cause_of_round (p := fun s => s.clock = some t) (P := fun w => t ≤ w.now ∧ shows t) starts
    nofun ?_ ?_ run clock
  · intro u v step before
    exact ⟨le_trans before.1 step.now_le, before.2⟩
  · intro v q next r s run _ answers _ clock
    cases q with
    | now =>
      cases clock
      obtain ⟨rfl, -⟩ := answers
      exact .inr ⟨le_refl _, World.shows_now (S := overTable shows) shown run⟩
    | newId | report => exact .inl clock
    | execute statement =>
      cases statement with
      | insert => exact nomatch clock
      | select =>
        cases r with
        | _ => exact .inl clock
      | _ => exact .inl clock

theorem moment_le (notAhead : ∀ t, shows t → inMicros t ≤ t)
    (starts : w₀.Starts fun i => (calls i).program) (shown : shows w₀.now) (run : World.Reaches w₀ w)
    {i : ι} {statement : Statement} {next : Reply → Talking Returned}
    (asks : w.tasks i = .ask (.execute statement) next) {now : Timestamp}
    (bound : statement.moment? = some now) : now ≤ w.now := by
  have may := may_of_ask starts run asks
  cases statement with
  | deleteStale id moment | sweep moment limit =>
    cases bound
    obtain ⟨t, clock, rfl⟩ := may
    obtain ⟨order, fits⟩ := clock_le starts shown run clock
    exact le_trans (notAhead t fits) order
  | _ => exact nomatch bound

theorem mem_of_step (notAhead : ∀ t, shows t → inMicros t ≤ t)
    (starts : w₀.Starts fun i => (calls i).program) (shown : shows w₀.now) (run : World.Reaches w₀ v)
    (step : World.Step v w) {row : Row} (present : row ∈ v.state.rows)
    (live : w.now < row.expiresAt) : row ∈ w.state.rows := by
  cases step with
  | pass => exact present
  | change s changes => exact changes.elim
  | answer i q next r s asks answers =>
    rcases table_of_answers answers with same | ⟨statement, rfl, effect⟩
    · rw [World.answered_state, same]
      exact present
    · rw [World.answered_state, effect]
      refine Table.mem_run present fun now bound => ?_
      exact lt_of_le_of_lt (moment_le notAhead starts shown run asks bound) live

theorem mem_of_reaches (notAhead : ∀ t, shows t → inMicros t ≤ t)
    (starts : w₀.Starts fun i => (calls i).program) (shown : shows w₀.now) (run : World.Reaches w₀ v)
    (rest : World.Reaches v w) {row : Row} (present : row ∈ v.state.rows)
    (live : w.now < row.expiresAt) : row ∈ w.state.rows := by
  induction rest with
  | refl => exact present
  | tail rest step ih =>
    have before := ih (lt_of_le_of_lt step.now_le live)
    exact mem_of_step notAhead starts shown (run.trans rest) step before live

theorem insertions_inTurn (notAhead : ∀ t, shows t → inMicros t ≤ t)
    (starts : w₀.Starts fun i => (calls i).program) (shown : shows w₀.now)
    (run : World.Reaches w₀ w) :
    (insertions w.history).Pairwise fun later earlier =>
      earlier.row.key = later.row.key → earlier.row.expiresAt ≤ later.time := by
  refine World.pairwise_filterMap insertionOf starts.2 run ?_
  intro ⟨i, time, q, r⟩ v v' x happened inserted y earlier same
  obtain rfl : time = v.now := happened.time
  obtain ⟨atNow, free, -⟩ := insertion_effect happened.answers inserted
  -- A row that is still live would be in the table, and the insertion would be refused.
  by_contra longer
  rw [atNow, not_le] at longer
  obtain ⟨⟨j, time, q', r'⟩, past, insertedBefore⟩ := mem_insertions.1 earlier
  obtain ⟨u, u', before⟩ := World.happened_of_mem starts.2 happened.before past
  obtain rfl : time = u.now := before.time
  have there := (insertion_effect before.answers insertedBefore).2.2
  have still := mem_of_reaches notAhead starts shown before.reaches before.after there longer
  exact Table.find?_eq_none.1 free y.row.clipped still same

def Reread (c : Call) (w₀ w : World (overTable shows) ι Returned) (i : ι) (key : CompositeKey)
    (existing : Cached) : Prop :=
  ∃ row t u u', World.Happened w₀ w ⟨i, u.now, .execute (.select key), Reply.found row⟩ u u' ∧
    u.state.find? key = some row ∧ row.response = .ok existing ∧
    (roundOf c i u.history).clock = some t ∧ t < existing.expiresAt

theorem reread_of_found (starts : w₀.Starts fun i => (calls i).program) (run : World.Reaches w₀ w)
    {i : ι} {key : CompositeKey} {response existing : Cached} (call : calls i = .set key response)
    (settles : (roundOf (calls i) i w.history).Settles existing) :
    Reread (calls i) w₀ w i key existing := by
  refine cause_of_round (p := fun s => s.Settles existing)
    (P := fun w => Reread (calls i) w₀ w i key existing) starts ?_ ?_ ?_ run settles
  · rintro ⟨t, row, clock, -⟩
    exact nomatch clock
  · rintro u v step ⟨row, t, x, x', happened, rest⟩
    exact ⟨row, t, x, x', happened.mono (.single step), rest⟩
  · rintro v q next r s run asks answers may ⟨t, row, clock, found, read, live⟩
    cases q with
    | now => exact nomatch found
    | newId | report => exact .inl ⟨t, row, clock, found, read, live⟩
    | execute statement =>
      cases statement with
      | insert => exact nomatch clock
      | select other =>
        cases r with
        | refused | count => exact nomatch found
        | found given =>
          cases found
          have isKey : other = key := by
            rcases may with get | ⟨stored, set⟩
            · exact nomatch call.symm.trans get
            · cases call.symm.trans set
              rfl
          subst isKey
          have happened := World.happened_of_answer run asks answers
          rcases answers with ⟨answer, -⟩ | ⟨refusal, refused, -⟩
          · exact .inr ⟨row, t, v, _, happened, Table.run_select answer.symm, read, clock, live⟩
          · exact nomatch refused
      | _ => exact .inl ⟨t, row, clock, found, read, live⟩

theorem inserted_of_round (starts : w₀.Starts fun i => (calls i).program) (run : World.Reaches w₀ w)
    {i : ι} {row : Row} (stored : (roundOf (calls i) i w.history).inserted = some row) :
    ∃ e ∈ w.history, e.task = i ∧ ∃ x, insertionOf e = some x ∧ x.row = row := by
  refine cause_of_round (p := fun s => s.inserted = some row)
    (P := fun w => ∃ e ∈ w.history, e.task = i ∧ ∃ x, insertionOf e = some x ∧ x.row = row) starts
    nofun ?_ ?_ run stored
  · rintro u v step ⟨e, past, rest⟩
    exact ⟨e, step.history_suffix.subset past, rest⟩
  · intro v q next r s run asks answers may stored
    cases q with
    | now | newId | report => exact .inl stored
    | execute statement =>
      cases statement with
      | insert other =>
        obtain ⟨rfl, -⟩ := insertedBy_eq_some stored
        have inserted : insertionOf ⟨i, v.now, .execute (.insert row), r⟩ = some ⟨v.now, row⟩ :=
          Option.map_eq_some_iff.2 ⟨row, stored, rfl⟩
        exact .inr ⟨_, List.mem_cons_self, rfl, _, inserted, rfl⟩
      | select =>
        cases r with
        | _ => exact .inl stored
      | _ => exact .inl stored

-- No statement takes away a row before it expires. A write that found another response found a row that was
-- live at the moment the clock had shown in that round.
theorem first_writer_wins {w₀ w : World (overTable Bindable) ι Returned}
    (starts : w₀.Starts fun i => (calls i).program) (shown : Bindable w₀.now)
    (run : World.Reaches w₀ w) :
    (∀ v, World.Reaches w₀ v → World.Reaches v w → ∀ row ∈ v.state.rows, w.now < row.expiresAt →
      row ∈ w.state.rows) ∧
    ((insertions w.history).Pairwise fun x y =>
      x.row.key = y.row.key → Disjoint x.lifetime y.lifetime) ∧
    (∀ i key response, calls i = .set key response → w.tasks i = .done (.set (.ok .written)) →
      ∃ e ∈ w.history, e.task = i ∧ ∃ x id, insertionOf e = some x ∧
        x.row = .ofResponse id key response) ∧
    ∀ i key response existing, calls i = .set key response →
      w.tasks i = .done (.set (.ok (.alreadyExists existing))) →
      Reread (calls i) w₀ w i key existing := by
  have bound : ∀ t, Bindable t → inMicros t ≤ t := fun _ => inMicros_le_of_bindable
  refine ⟨fun v before rest row present live => ?_, ?_, fun i key response call ended => ?_,
    fun i key response existing call ended => ?_⟩
  · exact mem_of_reaches bound starts shown before rest present live
  · refine (insertions_inTurn bound starts shown run).imp ?_
    intro later earlier inTurn same
    exact Timestamp.disjoint_of_le (inTurn same.symm)
  · obtain ⟨k, stored, set, id, inserted⟩ := (ends_of_done starts run ended).1 rfl
    cases call.symm.trans set
    obtain ⟨e, past, mine, x, isInsertion, isRow⟩ := inserted_of_round starts run inserted
    exact ⟨e, past, mine, x, id, isInsertion, isRow⟩
  · exact reread_of_found starts run call ((ends_of_done starts run ended).2 existing rfl)

end

def reply (now : Timestamp) (t : Table) : (q : Ask) → Option (q.Answer × Table)
  | .now => some (now, t)
  | .newId => some (Uuid.ofSeed t.rows.length, t)
  | .report _ => some ((), t)
  | .execute s => some (t.run s)

theorem answers_of_reply (now : Timestamp) (t : Table) (q : Ask) (r : q.Answer) (t' : Table)
    (replied : reply now t q = some (r, t')) : answers now t q r t' := by
  cases q with
  | now =>
    cases replied
    exact ⟨rfl, rfl⟩
  | newId | report =>
    cases replied
    exact (rfl : t = t)
  | execute s =>
    refine .inl ?_
    have same : t.run s = (r, t') := Option.some.inj replied
    rw [same]
    exact ⟨rfl, rfl⟩

def invoiceKey : CompositeKey :=
  CompositeKey.build "POST" "/invoices" ⟨"k-1"⟩

def invoice (body : String) : Cached :=
  { status := 201, body := some body, contentType := none
    createdAt := ⟨1767225600, 0, by decide⟩, expiresAt := ⟨1767312000, 0, by decide⟩
    fingerprint := none }

def writers : World (overTable Bindable) Bool Returned where
  now := ⟨1767225600, 0, by decide⟩
  state := {}
  tasks i := (Call.set invoiceKey (invoice (if i then "second" else "first"))).program
  history := []

def settledWriters : World (overTable Bindable) Bool Returned :=
  writers.play reply (List.replicate 6 [false, true]).flatten

theorem second_writer_rereads :
    settledWriters.tasks true = .done (.set (.ok (.alreadyExists (invoice "first")))) ∧
      Reread (.set invoiceKey (invoice "second")) writers settledWriters true invoiceKey
        (invoice "first") := by
  have starts : writers.Starts fun i =>
      (Call.set invoiceKey (invoice (if i then "second" else "first"))).program := ⟨rfl, rfl⟩
  have shown : Bindable writers.now := ⟨by decide, .inl (not_lt.1 (by decide))⟩
  have run : World.Reaches writers settledWriters :=
    World.reaches_play (S := overTable Bindable) answers_of_reply writers _
  have ended : settledWriters.tasks true =
      .done (.set (.ok (.alreadyExists (invoice "first")))) := rfl
  exact ⟨ended, (first_writer_wins starts shown run).2.2.2 true invoiceKey (invoice "second") _ rfl ended⟩

-- Half a microsecond before 2000.
def late : Timestamp := ⟨946684799, 999999500, by decide⟩

def lastInvoice : Cached :=
  { status := 201, body := none, contentType := none, createdAt := ⟨946684798, 0, by decide⟩
    expiresAt := .millennium, fingerprint := none }

def lateCall (writes : Bool) : Call :=
  if writes then .set invoiceKey lastInvoice else .deleteExpired 10

def lateStart : World (overTable Timestamp.IsPlain) Bool Returned where
  now := late
  state := {}
  tasks i := (lateCall i).program
  history := []

def lateWritten : World (overTable Timestamp.IsPlain) Bool Returned :=
  lateStart.play reply [true, true, true]

def lateSwept : World (overTable Timestamp.IsPlain) Bool Returned :=
  lateWritten.play reply [false, false, false]

theorem sweep_takes_live_row :
    ¬ ∀ (calls : Bool → Call) (w₀ v w : World (overTable Timestamp.IsPlain) Bool Returned),
      w₀.Starts (fun i => (calls i).program) → w₀.now.IsPlain → World.Reaches w₀ v →
      World.Reaches v w → ∀ row ∈ v.state.rows, w.now < row.expiresAt → row ∈ w.state.rows := by
  intro kept
  have written : World.Reaches lateStart lateWritten :=
    World.reaches_play (S := overTable Timestamp.IsPlain) answers_of_reply lateStart _
  have swept : World.Reaches lateWritten lateSwept :=
    World.reaches_play (S := overTable Timestamp.IsPlain) answers_of_reply lateWritten _
  have present : Row.ofResponse (.ofSeed 0) invoiceKey lastInvoice ∈ lateWritten.state.rows := by
    decide +kernel
  have live : lateSwept.now < (Row.ofResponse (.ofSeed 0) invoiceKey lastInvoice).expiresAt :=
    (Timestamp.before_iff _ _).1 (by decide)
  have gone : lateSwept.state.rows = [] := by decide +kernel
  have there := kept lateCall lateStart lateWritten lateSwept ⟨rfl, rfl⟩ (by decide) written swept _
    present live
  rw [gone] at there
  exact nomatch there

end OncePerKey.Postgres
