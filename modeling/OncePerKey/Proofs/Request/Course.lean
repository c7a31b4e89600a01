import OncePerKey.Proofs.Request.Move

set_option autoImplicit false

namespace OncePerKey.Request

-- The key under which a request works; without a good key it never asks for one.
def keyOf (c : Context) (r : Request) : CompositeKey :=
  (identity? c r).getD default

theorem keyOf_eq {c : Context} {r : Request} {key : CompositeKey}
    (identity : identity? c r = some key) : keyOf c r = key := by
  simp [keyOf, identity]

def disciplineOf (c : Context) (r : Request) : Discipline Ask Ask.Answer Stage :=
  discipline c r.fingerprint (keyOf c r)

def stageOf {ι : Type} [DecidableEq ι] (c : Context) (r : Request) (i : ι)
    (history : List (Exchange ι Ask Ask.Answer)) : Stage :=
  (disciplineOf c r).stage (.start c r) i history

section

variable {S : Surroundings Ask Ask.Answer} {ι : Type} [DecidableEq ι] {contexts : ι → Context}
  {requests : ι → Request} {programs : ι → Handling (Except Failure Outcome)}
  {w₀ v w : World S ι (Except Failure Outcome)}

theorem execute_keeps (c : Context) (r : Request) :
    (execute c r).Obeys (disciplineOf c r) (fun s a => s = .finished a) (.start c r) :=
  execute_obeys fun _ identity => (keyOf_eq identity).symm

theorem stageOf_of_done (starts : w₀.Starts fun i => execute (contexts i) (requests i))
    (run : World.Reaches w₀ w) {i : ι} {a : Except Failure Outcome} (ended : w.tasks i = .done a) :
    stageOf (contexts i) (requests i) i w.history = .finished a :=
  World.ends_of_done starts (execute_keeps (contexts i) (requests i)) run ended

theorem question_of_ask (starts : w₀.Starts programs) {i : ι} {c : Context} {r : Request}
    (own : programs i = execute c r) (run : World.Reaches w₀ w) {q : Ask}
    {next : q.Answer → Handling (Except Failure Outcome)} (asks : w.tasks i = .ask q next) :
    (∃ note, q = .report note) ∨ (stageOf c r i w.history).question c (keyOf c r) = some q :=
  World.may_of_ask starts (own ▸ execute_keeps c r) run asks

theorem ready_of_operate (starts : w₀.Starts fun i => execute (contexts i) (requests i))
    (run : World.Reaches w₀ w) {i : ι}
    {next : Except Failure Captured → Handling (Except Failure Outcome)}
    (asks : w.tasks i = .ask .operate next) :
    ∃ guard reachable, stageOf (contexts i) (requests i) i w.history = .ready guard reachable := by
  rcases question_of_ask starts rfl run asks with ⟨note, same⟩ | asked
  · exact nomatch same
  · generalize stageOf (contexts i) (requests i) i w.history = stage at asked
    cases stage with
    | ready guard reachable => exact ⟨guard, reachable, rfl⟩
    | _ => exact nomatch asked

@[simp] theorem stageOf_cons_self (c : Context) (r : Request) (i : ι) (time : Timestamp) (q : Ask)
    (a : q.Answer) (history : List (Exchange ι Ask Ask.Answer)) :
    stageOf c r i (⟨i, time, q, a⟩ :: history) =
      afterAnswer c r.fingerprint (stageOf c r i history) q a :=
  Discipline.stage_cons_self _ _ i time q a history

theorem stageOf_cons_of_ne (c : Context) (r : Request) {i j : ι} (other : j ≠ i) (time : Timestamp)
    (q : Ask) (a : q.Answer) (history : List (Exchange ι Ask Ask.Answer)) :
    stageOf c r i (⟨j, time, q, a⟩ :: history) = stageOf c r i history :=
  Discipline.stage_cons_of_ne _ _ other time q a history

theorem move_of_ask (starts : w₀.Starts fun i => execute (contexts i) (requests i))
    (run : World.Reaches w₀ w) {i : ι} {q : Ask} {next : q.Answer → Handling (Except Failure Outcome)}
    (asks : w.tasks i = .ask q next) (time : Timestamp) (r : q.Answer) :
    Move (contexts i) (requests i).fingerprint (keyOf (contexts i) (requests i))
      (stageOf (contexts i) (requests i) i w.history) q r
      (stageOf (contexts i) (requests i) i (⟨i, time, q, r⟩ :: w.history)) := by
  rw [stageOf_cons_self]
  exact .of_may (question_of_ask starts rfl run asks) r

theorem stageOf_induction (starts : w₀.Starts programs) {i : ι} {c : Context} {r : Request}
    (own : programs i = execute c r) {P : World S ι (Except Failure Outcome) → Stage → Prop}
    (first : P w₀ (.start c r))
    (others : ∀ u v s, World.Step u v →
      v.history.filter (·.task = i) = u.history.filter (·.task = i) → P u s → P v s)
    (answer : ∀ v q next a s s', World.Reaches w₀ v → v.tasks i = .ask q next →
      S.answers v.now v.state q a s →
      Move c r.fingerprint (keyOf c r) (stageOf c r i v.history) q a s' →
      P v (stageOf c r i v.history) → P (v.answered i q a (next a) s) s')
    (run : World.Reaches w₀ w) : P w (stageOf c r i w.history) :=
  World.stage_induction starts (own ▸ execute_keeps c r) first others
    (fun v q next a s run asks answers may ih =>
      answer v q next a s _ run asks answers (.of_may may a) ih) run

theorem cause_of_stageOf (starts : w₀.Starts fun i => execute (contexts i) (requests i)) {i : ι}
    {p : Stage → Prop} {P : World S ι (Except Failure Outcome) → Prop}
    (first : ¬ p (.start (contexts i) (requests i))) (lasts : ∀ u v, World.Step u v → P u → P v)
    (answer : ∀ v q next r s s', World.Reaches w₀ v → v.tasks i = .ask q next →
      S.answers v.now v.state q r s →
      Move (contexts i) (requests i).fingerprint (keyOf (contexts i) (requests i))
        (stageOf (contexts i) (requests i) i v.history) q r s' → p s' →
      p (stageOf (contexts i) (requests i) i v.history) ∨ P (v.answered i q r (next r) s))
    (run : World.Reaches w₀ w) (shows : p (stageOf (contexts i) (requests i) i w.history)) : P w :=
  World.cause_of_stage starts (execute_keeps (contexts i) (requests i)) first lasts
    (fun v q next r s run asks answers may =>
      answer v q next r s _ run asks answers (.of_may may r)) run shows

theorem stageOf_of_rejected (starts : w₀.Starts fun i => execute (contexts i) (requests i))
    (run : World.Reaches w₀ w) {i : ι} (rejected : identity? (contexts i) (requests i) = none) :
    ∃ reason, stageOf (contexts i) (requests i) i w.history =
      .finished (.ok (.rejectedInvalidKey reason)) := by
  refine stageOf_induction (P := fun _ s => ∃ reason, s = .finished (.ok (.rejectedInvalidKey reason)))
    starts rfl ?_ (fun _ _ _ _ _ finished => finished)
    (fun v q next r s s' _ _ _ move finished => ?_) run
  · cases parsed : parseKey (contexts i) (requests i) with
    | ok key => simp [identity?, parsed] at rejected
    | error reason => exact ⟨reason, by simp [Stage.start, parsed]⟩
  · obtain ⟨reason, finished⟩ := finished
    rw [finished] at move
    cases move with
    | noted => exact ⟨reason, rfl⟩
    | found | refused => contradiction

theorem identity?_of_question (starts : w₀.Starts fun i => execute (contexts i) (requests i))
    (run : World.Reaches w₀ w) {i : ι} {q : Ask} {next : q.Answer → Handling (Except Failure Outcome)}
    (asks : w.tasks i = .ask q next) (other : ∀ note, q ≠ .report note) :
    identity? (contexts i) (requests i) = some (keyOf (contexts i) (requests i)) := by
  cases identity : identity? (contexts i) (requests i) with
  | some key => rw [keyOf_eq identity]
  | none =>
    obtain ⟨reason, finished⟩ := stageOf_of_rejected starts run identity
    rcases question_of_ask starts rfl run asks with ⟨note, rfl⟩ | asked
    · exact absurd rfl (other note)
    · simp [finished, Stage.question] at asked

theorem certain_of_reaches (starts : w₀.Starts fun i => execute (contexts i) (requests i))
    (run : World.Reaches w₀ v) (more : World.Reaches v w) {i : ι} {result : Except Failure Outcome}
    (certain : (stageOf (contexts i) (requests i) i v.history).result? = some result) :
    (stageOf (contexts i) (requests i) i w.history).result? = some result := by
  induction more with
  | refl => exact certain
  | @tail u w more step ih =>
    cases step with
    | pass | change => exact ih
    | answer j q next r s asks answers =>
      by_cases same : j = i
      · subst same
        exact (move_of_ask starts (run.trans more) asks u.now r).result?_of_certain ih
      · rw [World.answered_history, stageOf_cons_of_ne _ _ same]
        exact ih

theorem decision_of_refused (starts : w₀.Starts fun i => execute (contexts i) (requests i))
    (run : World.Reaches w₀ w) {i : ι} {time : Timestamp} {key : CompositeKey}
    {response existing : Cached}
    (refused : ⟨i, time, .write key response, .ok (.alreadyExists existing)⟩ ∈ w.history) :
    (stageOf (contexts i) (requests i) i w.history).result? =
      some (.ok (decision (contexts i) (requests i).fingerprint existing)) := by
  obtain ⟨v, v', happened⟩ := World.happened_of_mem starts.2 run refused
  obtain ⟨next, asks⟩ := happened.asks
  refine certain_of_reaches starts happened.reaches happened.after ?_
  have move := move_of_ask starts happened.before asks time (.ok (.alreadyExists existing))
  rw [happened.history]
  simp only at move
  generalize keyOf (contexts i) (requests i) = own at move
  generalize stageOf (contexts i) (requests i) i v.history = stage at move
  generalize stageOf (contexts i) (requests i) i _ = later at move ⊢
  cases move
  exact Stage.result?_leave _ _

end

section

variable {ι : Type} [DecidableEq ι]

-- What the exchanges of one request show, the last one first.
def shownBy {β : Type} (shows : Exchange ι Ask Ask.Answer → Option β) (i : ι)
    (history : List (Exchange ι Ask Ask.Answer)) : List β :=
  (history.filter (·.task = i)).filterMap shows

theorem shownBy_cons_self {β : Type} (shows : Exchange ι Ask Ask.Answer → Option β) (i : ι)
    (time : Timestamp) (q : Ask) (r : q.Answer) (history : List (Exchange ι Ask Ask.Answer)) :
    shownBy shows i (⟨i, time, q, r⟩ :: history) =
      (shows ⟨i, time, q, r⟩).toList ++ shownBy shows i history := by
  simp only [shownBy, List.filter_cons, decide_true, if_true]
  cases shown : shows ⟨i, time, q, r⟩ <;> simp [shown]

theorem shownBy_congr {β : Type} {shows : Exchange ι Ask Ask.Answer → Option β} {i : ι}
    {history other : List (Exchange ι Ask Ask.Answer)}
    (same : history.filter (·.task = i) = other.filter (·.task = i)) :
    shownBy shows i history = shownBy shows i other := by
  rw [shownBy, same, shownBy]

theorem mem_shownBy {β : Type} {shows : Exchange ι Ask Ask.Answer → Option β} {i : ι}
    {history : List (Exchange ι Ask Ask.Answer)} {b : β} :
    b ∈ shownBy shows i history ↔ ∃ e ∈ history, e.task = i ∧ shows e = some b := by
  simp [shownBy, and_assoc]

theorem shownBy_mono {β : Type} {shows : Exchange ι Ask Ask.Answer → Option β} {i : ι}
    {earlier later : List (Exchange ι Ask Ask.Answer)} (grows : earlier <:+ later) {b : β}
    (present : b ∈ shownBy shows i earlier) : b ∈ shownBy shows i later := by
  obtain ⟨e, old, mine, shown⟩ := mem_shownBy.1 present
  exact mem_shownBy.2 ⟨e, grows.subset old, mine, shown⟩

end

def placeOrder : Request :=
  { method := "POST", route := "/orders", rawKey := some "k-1", fingerprint := none }

end OncePerKey.Request
