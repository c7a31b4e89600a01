import OncePerKey.Proofs.Http.Visit

set_option autoImplicit false

namespace OncePerKey.Http

variable {E : Type}

inductive Left (v : Visit E) (answered : List Response) :
    Serving E Response → Handling (Except Failure Outcome) → Prop where
  | passing (p : Handling (Except Failure Outcome)) (passes : v.passes = true)
      (first : answered = []) : Left v answered (forwarding v.endpoint v.request) p
  | passed (p : Handling (Except Failure Outcome)) (passes : v.passes = true) (response : Response)
      (all : answered = [response]) : Left v answered (.done response) p
  | refused (p : Handling (Except Failure Outcome)) (unread : v.read? = none) (notes : List Note)
      (response : Response) (first : answered = []) :
      Left v answered (reporting notes (.done response)) p
  | working {bytes : Bytes} (read : v.read? = some bytes) (p : Handling (Except Failure Outcome)) :
      Left v answered (v.rest bytes p (kept answered)) p
  | closing {bytes : Bytes} (read : v.read? = some bytes) (result : Except Failure Outcome)
      (notes : List Note) (response : Response)
      (ends : Ends (closing (E := E) (kept answered) result) response) :
      Left v answered (reporting notes (.done response)) (.done result)

inductive Turn (v : Visit E) (answered : List Response) (p : Handling (Except Failure Outcome)) :
    (q : Ask E) → (q.Answer → Serving E Response) → Prop where
  | aside (note : Note) (next : Unit → Serving E Response) (left : Left v answered (next ()) p) :
      Turn v answered p (.engine (.report note)) next
  | passing (passes : v.passes = true) (next : Response → Serving E Response)
      (left : ∀ response, Left v (response :: answered) (next response) p) :
      Turn v answered p (.forward v.endpoint v.request) next
  | engine {bytes : Bytes} (read : v.read? = some bytes) {q : OncePerKey.Ask} (other : q ≠ .operate)
      (next : q.Answer → Serving E Response) (next' : q.Answer → Handling (Except Failure Outcome))
      (asks : p = Program.ask q next') (left : ∀ r, Left v answered (next r) (next' r)) :
      Turn v answered p (.engine q) next
  | forward {bytes : Bytes} (read : v.read? = some bytes) (next : Response → Serving E Response)
      (next' : OncePerKey.Ask.operate.Answer → Handling (Except Failure Outcome))
      (asks : p = Program.ask .operate next')
      (left : ∀ response, Left v (response :: answered) (next response) (next' (operated response))) :
      Turn v answered p (.forward v.endpoint (v.whole bytes)) next

section

variable {v : Visit E} {answered : List Response} {p : Handling (Except Failure Outcome)}

theorem Left.turn {q : Ask E} {next : q.Answer → Serving E Response}
    (left : Left v answered (Program.ask q next) p) : Turn v answered p q next := by
  generalize asks : Program.ask q next = x at left
  cases left with
  | passing _ passes first =>
    cases asks
    exact .passing passes _ fun response => .passed p passes response (by rw [first])
  | passed => cases asks
  | refused _ unread notes response first =>
    cases notes with
    | nil => cases asks
    | cons note notes =>
      cases asks
      exact .aside note _ (.refused p unread notes response first)
  | closing read result notes response ends =>
    cases notes with
    | nil => cases asks
    | cons note notes =>
      cases asks
      exact .aside note _ (.closing read result notes response ends)
  | @working bytes read =>
    cases p with
    | done result =>
      obtain ⟨response, notes, same⟩ := exists_ends (E := E) (kept answered) result
      rw [Visit.rest_done, same] at asks
      cases notes with
      | nil => cases asks
      | cons note notes =>
        cases asks
        exact .aside note _ (.closing read result notes response ⟨note :: notes, same⟩)
    | ask q' next' =>
      by_cases operates : q' = .operate
      · subst operates
        rw [Visit.rest_operate next' (kept answered) answered] at asks
        cases asks
        exact .forward read _ next' rfl fun response => .working read _
      · rw [Visit.rest_ask operates] at asks
        cases asks
        exact .engine read operates _ next' rfl fun r => .working read _

theorem Left.exists_result {bytes : Bytes} {R : Response} (left : Left v answered (.done R) p)
    (read : v.read? = some bytes) :
    ∃ result, p = .done result ∧ Ends (Http.closing (E := E) (kept answered) result) R := by
  generalize ended : Program.done R = x at left
  cases left with
  | passing _ passes | passed _ passes => simp [Visit.read?, passes] at read
  | refused _ unread => cases unread.symm.trans read
  | working _ p =>
    cases p with
    | done result =>
      rw [Visit.rest_done] at ended
      exact ⟨result, rfl, ended ▸ ends_done.2 rfl⟩
    | ask q next =>
      by_cases operates : q = .operate
      · subst operates
        rw [Visit.rest_operate next _ answered] at ended
        cases ended
      · rw [Visit.rest_ask operates] at ended
        cases ended
  | closing _ result notes response ends =>
    cases notes with
    | nil =>
      cases ended
      exact ⟨result, rfl, ends⟩
    | cons => cases ended

end

section

variable {ι : Type}

def responseOf : Exchange ι (Ask E) Ask.Answer → Option Response
  | ⟨_, _, .forward _ _, response⟩ => some response
  | _ => none

-- What the engine sees of an exchange at the gate. Reports are left out.
def inner : Exchange ι (Ask E) Ask.Answer → Option (Exchange ι OncePerKey.Ask OncePerKey.Ask.Answer)
  | ⟨_, _, .engine (.report _), _⟩ | ⟨_, _, .engine .operate, _⟩ => none
  | ⟨i, time, .engine q, r⟩ => some ⟨i, time, q, r⟩
  | ⟨i, time, .forward _ _, response⟩ => some ⟨i, time, .operate, operated response⟩

def isReport : OncePerKey.Ask → Bool
  | .report _ => true
  | _ => false

theorem inner_engine (i : ι) (time : Timestamp) {q : OncePerKey.Ask} (r : q.Answer)
    (other : q ≠ .operate) :
    inner ⟨i, time, Ask.engine (E := E) q, r⟩ = if isReport q then none else some ⟨i, time, q, r⟩ := by
  cases q with
  | operate => exact absurd rfl other
  | _ => rfl

theorem eq_of_inner {e : Exchange ι (Ask E) Ask.Answer} {i : ι} {time : Timestamp}
    {q : OncePerKey.Ask} {r : q.Answer} (seen : inner e = some ⟨i, time, q, r⟩) (other : q ≠ .operate) :
    e = ⟨i, time, Ask.engine q, r⟩ := by
  obtain ⟨k, at_, asked, a⟩ := e
  cases asked with
  | forward endpoint request =>
    cases seen
    exact absurd rfl other
  | engine asked =>
    cases asked with
    | report | operate => cases seen
    | _ =>
      cases seen
      rfl

theorem exists_note_of_isReport {q : OncePerKey.Ask} (reports : isReport q = true) :
    ∃ note, q = .report note := by
  cases q with
  | report note => exact ⟨note, rfl⟩
  | _ => cases reports

variable [DecidableEq ι]

-- The responses that the endpoint gave to one visit, the last one first.
def responses (i : ι) (history : List (Exchange ι (Ask E) Ask.Answer)) : List Response :=
  (history.filter (·.task = i)).filterMap responseOf

theorem responses_cons_of_ne {i j : ι} (other : j ≠ i) (time : Timestamp) (q : Ask E) (r : q.Answer)
    (history : List (Exchange ι (Ask E) Ask.Answer)) :
    responses i (⟨j, time, q, r⟩ :: history) = responses i history := by
  simp [responses, other]

theorem responses_cons_self (i : ι) (time : Timestamp) (q : Ask E) (r : q.Answer)
    (history : List (Exchange ι (Ask E) Ask.Answer)) :
    responses i (⟨i, time, q, r⟩ :: history) =
      (responseOf ⟨i, time, q, r⟩).toList ++ responses i history := by
  simp only [responses, List.filter_cons, decide_true, if_true]
  cases shown : responseOf ⟨i, time, q, r⟩ <;> simp [shown]

theorem responses_engine (i : ι) (time : Timestamp) {q : OncePerKey.Ask} (r : q.Answer)
    (history : List (Exchange ι (Ask E) Ask.Answer)) :
    responses i (⟨i, time, .engine q, r⟩ :: history) = responses i history :=
  responses_cons_self i time (.engine q) r history

theorem responses_forward (i : ι) (time : Timestamp) {endpoint : E} {r : Request}
    (response : Response) (history : List (Exchange ι (Ask E) Ask.Answer)) :
    responses i (⟨i, time, .forward endpoint r, response⟩ :: history) =
      response :: responses i history :=
  responses_cons_self i time (.forward endpoint r) response history

end

structure Fronts (S : Surroundings (Ask E) Ask.Answer)
    (T : Surroundings OncePerKey.Ask OncePerKey.Ask.Answer) (view : S.State → T.State) : Prop where
  engine : ∀ {now s s'} {q : OncePerKey.Ask} {r : q.Answer}, S.answers now s (.engine q) r s' →
    T.answers now (view s) q r (view s')
  aside : ∀ {now s s' note r}, S.answers now s (.engine (.report note)) r s' → view s' = view s
  forward : ∀ {now s s' endpoint request} {response : Response},
    S.answers now s (.forward endpoint request) response s' →
    view s' = view s ∧ T.answers now (view s) .operate (operated response) (view s)
  change : ∀ {now s s'}, S.changes now s s' → T.changes now (view s) (view s')
  shown : ∀ {now}, S.shows now → T.shows now

section

variable {S : Surroundings (Ask E) Ask.Answer} {T : Surroundings OncePerKey.Ask OncePerKey.Ask.Answer}
  {view : S.State → T.State} {ι : Type} [DecidableEq ι] {visits : ι → Visit E}

structure Behind (visits : ι → Visit E) (view : S.State → T.State) (w : World S ι Response)
    (u : World T ι (Except Failure Outcome)) : Prop where
  now : u.now = w.now
  state : u.state = view w.state
  left : ∀ i, Left (visits i) (responses i w.history) (w.tasks i) (u.tasks i)
  exchanges : ∀ i, (visits i).read?.isSome →
    (u.history.filter (·.task = i)).filter (!isReport ·.question) =
      (w.history.filter (·.task = i)).filterMap inner

variable {w w' : World S ι Response} {u : World T ι (Except Failure Outcome)}

theorem Behind.turn (behind : Behind visits view w u) {i : ι} {q : Ask E}
    {next : q.Answer → Serving E Response} (asks : w.tasks i = Program.ask q next) :
    Turn (visits i) (responses i w.history) (u.tasks i) q next := by
  have left := behind.left i
  rw [asks] at left
  exact left.turn

theorem Behind.exists_result (behind : Behind visits view w u) {i : ι} {bytes : Bytes} {R : Response}
    (read : (visits i).read? = some bytes) (ended : w.tasks i = .done R) :
    ∃ result, u.tasks i = .done result ∧
      Ends (E := E) (closing (kept (responses i w.history)) result) R := by
  have left := behind.left i
  rw [ended] at left
  exact left.exists_result read

theorem Behind.alone (behind : Behind visits view w u) {i : ι} {q : Ask E} {r : q.Answer}
    {rest : Serving E Response} {s : S.State} {answered : List Response}
    (still : view s = view w.state)
    (all : responses i (⟨i, w.now, q, r⟩ :: w.history) = answered)
    (left : Left (visits i) answered rest (u.tasks i))
    (unseen : (visits i).read?.isSome → inner ⟨i, w.now, q, r⟩ = none) :
    Behind visits view (w.answered i q r rest s) u := by
  refine ⟨behind.now, behind.state.trans still.symm, fun j => ?_, fun j read => ?_⟩
  · by_cases same : j = i
    · subst same
      rw [World.answered_tasks_self, World.answered_history, all]
      exact left
    · rw [World.answered_tasks_of_ne _ _ _ _ _ _ same, World.answered_history,
        responses_cons_of_ne (Ne.symm same)]
      exact behind.left j
  · rw [behind.exchanges j read, World.answered_history]
    by_cases same : i = j
    · subst same
      rw [List.filter_cons_of_pos (by simp), List.filterMap_cons_none (unseen read)]
    · rw [List.filter_cons_of_neg (by simpa using same)]

theorem Behind.together (behind : Behind visits view w u) {i : ι} {q : Ask E} {r : q.Answer}
    {rest : Serving E Response} {s : S.State} {q' : OncePerKey.Ask} {r' : q'.Answer}
    {rest' : Handling (Except Failure Outcome)} {answered : List Response}
    (all : responses i (⟨i, w.now, q, r⟩ :: w.history) = answered)
    (left : Left (visits i) answered rest rest')
    (seen : inner ⟨i, w.now, q, r⟩ = if isReport q' then none else some ⟨i, w.now, q', r'⟩) :
    Behind visits view (w.answered i q r rest s) (u.answered i q' r' rest' (view s)) := by
  refine ⟨behind.now, rfl, fun j => ?_, fun j read => ?_⟩
  · by_cases same : j = i
    · subst same
      rw [World.answered_tasks_self, World.answered_tasks_self, World.answered_history, all]
      exact left
    · rw [World.answered_tasks_of_ne _ _ _ _ _ _ same, World.answered_tasks_of_ne _ _ _ _ _ _ same,
        World.answered_history, responses_cons_of_ne (Ne.symm same)]
      exact behind.left j
  · have before := behind.exchanges j read
    rw [World.answered_history, World.answered_history, behind.now]
    by_cases same : i = j
    · subst same
      cases reports : isReport q' <;>
        simp [seen, reports, before]
    · rw [List.filter_cons_of_neg (by simpa using same), List.filter_cons_of_neg (by simpa using same)]
      exact before

theorem Behind.answered (fronts : Fronts S T view) (behind : Behind visits view w u) {i : ι}
    {q : Ask E} {next : q.Answer → Serving E Response} {r : q.Answer} {s : S.State}
    (asks : w.tasks i = Program.ask q next) (answers : S.answers w.now w.state q r s) :
    ∃ u', World.Reaches u u' ∧ Behind visits view (w.answered i q r (next r) s) u' := by
  cases behind.turn asks with
  | aside note next left' =>
    have all := responses_cons_self i w.now (.engine (.report note)) r w.history
    exact ⟨u, .refl, behind.alone (fronts.aside answers) all left' fun _ => rfl⟩
  | passing passes next left' =>
    refine ⟨u, .refl, behind.alone (fronts.forward answers).1 (responses_forward i w.now r w.history)
      (left' r) fun read => ?_⟩
    simp [Visit.read?, passes] at read
  | @engine bytes read q other next next' asks' left' =>
    have given := fronts.engine answers
    rw [← behind.now, ← behind.state] at given
    exact ⟨_, .single (.answer u i q next' r (view s) asks' given),
      behind.together (responses_engine i w.now r w.history) (left' r) (inner_engine i w.now r other)⟩
  | forward read next next' asks' left' =>
    obtain ⟨still, given⟩ := fronts.forward answers
    have same : view s = u.state := still.trans behind.state.symm
    rw [← behind.now, ← behind.state] at given
    exact ⟨_, .single (.answer u i .operate next' (operated r) (view s) asks' (same ▸ given)),
      behind.together (responses_forward i w.now r w.history) (left' r) rfl⟩

theorem Behind.step (fronts : Fronts S T view) (behind : Behind visits view w u)
    (step : World.Step w w') : ∃ u', World.Reaches u u' ∧ Behind visits view w' u' := by
  cases step with
  | pass later order shown =>
    refine ⟨{ u with now := later }, .single (.pass u later ?_ (fronts.shown shown)), ?_⟩
    · rw [behind.now]
      exact order
    · exact ⟨rfl, behind.state, behind.left, behind.exchanges⟩
  | change s changes =>
    refine ⟨{ u with state := view s }, .single (.change u (view s) ?_), ?_⟩
    · rw [behind.now, behind.state]
      exact fronts.change changes
    · exact ⟨behind.now, rfl, behind.left, behind.exchanges⟩
  | answer i q next r s asks answers => exact behind.answered fronts asks answers

theorem Behind.reaches (fronts : Fronts S T view) (behind : Behind visits view w u)
    (run : World.Reaches w w') : ∃ u', World.Reaches u u' ∧ Behind visits view w' u' := by
  induction run with
  | refl => exact ⟨u, .refl, behind⟩
  | tail _ step ih =>
    obtain ⟨v, before, behind⟩ := ih
    obtain ⟨u', after, behind⟩ := behind.step fronts step
    exact ⟨u', before.trans after, behind⟩

theorem Left.start (v : Visit E) :
    Left v [] v.program (Request.execute v.context v.handed) := by
  by_cases passes : v.passes = true
  · rw [Visit.program_of_passes passes]
    exact .passing _ passes rfl
  have stopped : v.passes = false := Bool.eq_false_iff.2 passes
  cases collected : v.request.body.collect v.room with
  | ok bytes =>
    have read : v.read? = some bytes := Visit.read?_eq_some_iff.2 ⟨stopped, collected⟩
    rw [Visit.program_of_read read, Visit.handed_eq read]
    exact .working read _
  | error fault =>
    have unread : v.read? = none := by simp [Visit.read?, collected, Except.toOption]
    obtain ⟨response, notes, same⟩ := exists_ends_bodyRefusal (E := E) v.context fault
    rw [Visit.program_of_fault stopped collected, same]
    exact .refused _ unread notes response rfl

theorem exists_behind (view : S.State → T.State) (starts : w.Starts fun i => (visits i).program) :
    ∃ u : World T ι (Except Failure Outcome),
      (u.Starts fun i => Request.execute (visits i).context (visits i).handed) ∧
        Behind visits view w u := by
  refine ⟨⟨w.now, view w.state, fun i => Request.execute (visits i).context (visits i).handed, []⟩,
    ⟨rfl, rfl⟩, rfl, rfl, fun i => ?_, fun i _ => ?_⟩
  · rw [starts.1, starts.2]
    exact .start (visits i)
  · rw [starts.2]
    rfl

theorem Behind.mem_iff (behind : Behind visits view w u) {i : ι} (read : (visits i).read?.isSome)
    {time : Timestamp} {q : OncePerKey.Ask} {r : q.Answer} (loud : isReport q = false)
    (other : q ≠ .operate) :
    ⟨i, time, q, r⟩ ∈ u.history ↔ ⟨i, time, Ask.engine q, r⟩ ∈ w.history := by
  have shown : (⟨i, time, q, r⟩ : Exchange ι OncePerKey.Ask OncePerKey.Ask.Answer) ∈ u.history ↔
      ⟨i, time, q, r⟩ ∈ (w.history.filter (·.task = i)).filterMap inner := by
    rw [← behind.exchanges i read]
    simp [loud]
  rw [shown, List.mem_filterMap]
  constructor
  · rintro ⟨e, inside, seen⟩
    rw [← eq_of_inner seen other]
    exact (List.mem_filter.1 inside).1
  · intro inside
    refine ⟨_, List.mem_filter.2 ⟨inside, by simp⟩, ?_⟩
    rw [inner_engine i time r other, loud]
    rfl

theorem Behind.quiet (behind : Behind visits view w u) {i : ι} (read : (visits i).read?.isSome)
    (fresh : ∀ e ∈ w.history, e.task ≠ i) :
    ∀ e ∈ u.history, e.task = i → ∃ note, e.question = .report note := by
  have none : (w.history.filter (·.task = i)) = [] := List.filter_eq_nil_iff.2 (by simpa using fresh)
  have all := behind.exchanges i read
  rw [none, List.filterMap_nil, List.filter_eq_nil_iff] at all
  intro e inside mine
  exact exists_note_of_isReport (by simpa using all e (List.mem_filter.2 ⟨inside, by simpa using mine⟩))

theorem Behind.shownBy_eq {β : Type} (behind : Behind visits view w u) {i : ι}
    (read : (visits i).read?.isSome)
    {shows : Exchange ι OncePerKey.Ask OncePerKey.Ask.Answer → Option β}
    (quiet : ∀ e, isReport e.question = true → shows e = none) :
    Request.shownBy shows i u.history =
      ((w.history.filter (·.task = i)).filterMap inner).filterMap shows := by
  rw [← behind.exchanges i read, Request.shownBy]
  generalize u.history.filter (·.task = i) = own
  rw [List.filterMap_filter]
  refine List.filterMap_congr fun e _ => ?_
  cases reports : isReport e.question with
  | true => simp [quiet e reports]
  | false => rfl

end

end OncePerKey.Http
