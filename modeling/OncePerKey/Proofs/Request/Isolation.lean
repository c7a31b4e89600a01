import OncePerKey.Proofs.Request.Holders
import OncePerKey.Proofs.Trace

set_option autoImplicit false

namespace OncePerKey

theorem MemoryLocks.isHeld?_congr {l l' : MemoryLocks} {key : CompositeKey}
    (same : l'.token? key = l.token? key) (now : Timestamp) : l'.isHeld? now key = l.isHeld? now key := by
  unfold isHeld?
  rw [same]

theorem MemoryLocks.token?_release (l : MemoryLocks) (token : LockToken) :
    (l.release token).2.token? token.key =
      (l.token? token.key).filter (·.holder ≠ token.holder) := by
  unfold release
  cases held : l.token? token.key with
  | none => simpa using held
  | some current => by_cases same : current.holder = token.holder <;> simp [same, held, Option.filter]

theorem MemoryLocks.token?_release_of_ne {key : CompositeKey} {token : LockToken}
    (other : key ≠ token.key) (l : MemoryLocks) : (l.release token).2.token? key = l.token? key := by
  unfold release
  split
  · split
    · exact token?_remove_of_ne other l
    · rfl
  · rfl

theorem MemoryStore.set_fst (s : MemoryStore) (now : Timestamp) (key : CompositeKey) (c : Cached) :
    (s.set now key c).1 = ((s.get now key).map WriteOutcome.alreadyExists).getD .written := by
  unfold set
  cases s.get now key <;> rfl

theorem MemoryStore.get_set_self (s : MemoryStore) (now : Timestamp) (key : CompositeKey) (c : Cached) :
    (s.set now key c).2.get now key =
      (s.get now key).or ((some c).filter (·.isLiveAt now)) := by
  unfold set
  cases found : s.get now key with
  | none => simp [get]
  | some existing => simpa using found

theorem MemoryStore.get_set_of_ne {key other : CompositeKey} (differ : other ≠ key) (s : MemoryStore)
    (now : Timestamp) (c : Cached) : (s.set now key c).2.get now other = s.get now other := by
  unfold set
  split
  · rfl
  · simp only [get, kept?_put_of_ne differ]

def Ask.key? : Ask → Option CompositeKey
  | .lookup key | .write key _ | .acquire key _ => some key
  | .release token => some token.key
  | .now | .sleep _ | .operate | .report _ | .abort => none

namespace Request

-- What is not settled by the store and the locks: the next holder, and what an operation comes to.
structure Choice where
  holder : Uuid
  operation : Except Failure Captured

namespace Shared

variable {key : CompositeKey} {now : Timestamp} {choice : Choice} {s s' t t' : Shared .memory}
  {q : Ask} {r r' : q.Answer}

def answersTo (choice : Choice) (now : Timestamp) (s : Shared .memory) :
    (q : Ask) → q.Answer → Shared .memory → Prop
  | .operate, r, s' => r = choice.operation ∧ s' = s
  | .acquire key lifetime, r, s' =>
      choice.holder ∉ s.locks.issued ∧
        ∃ token held, s.locks.held.acquire? now key lifetime choice.holder = some (token, held) ∧
          r = .ok token ∧ s' = { s with locks := ⟨held, choice.holder :: s.locks.issued⟩ }
  | q, r, s' => s.answers now q r s'

theorem answers_of_answersTo (answers : s.answersTo choice now q r t) : s.answers now q r t := by
  cases q with
  | operate => exact answers.2
  | acquire key lifetime =>
    obtain ⟨fresh, token, held, acquired, rfl, rfl⟩ := answers
    exact ⟨_, ⟨_, token, held, fresh, acquired, rfl, rfl⟩, rfl⟩
  | now | sleep | lookup | write | release | report | abort => exact answers

theorem exists_choice (answers : s.answers now q r t) : ∃ choice, s.answersTo choice now q r t := by
  cases q with
  | operate => exact ⟨⟨default, r⟩, rfl, answers⟩
  | acquire key lifetime =>
    obtain ⟨l, ⟨holder, token, held, fresh, acquired, rfl, rfl⟩, rfl⟩ := answers
    exact ⟨⟨holder, .error (.internal "")⟩, fresh, token, held, acquired, rfl, rfl⟩
  | now | sleep | lookup | write | release | report | abort =>
    exact ⟨⟨default, .error (.internal "")⟩, answers⟩

structure Agree (key : CompositeKey) (now : Timestamp) (s s' : Shared .memory) : Prop where
  entry : s'.store.get now key = s.store.get now key
  lock : s'.locks.held.token? key = s.locks.held.token? key

theorem Agree.refl (s : Shared .memory) : Agree key now s s := ⟨rfl, rfl⟩

theorem Agree.symm (agree : Agree key now s s') : Agree key now s' s :=
  ⟨agree.entry.symm, agree.lock.symm⟩

theorem Agree.trans (first : Agree key now s s') (second : Agree key now s' t) : Agree key now s t :=
  ⟨second.entry.trans first.entry, second.lock.trans first.lock⟩

theorem Agree.later {later : Timestamp} (order : now ≤ later) (agree : Agree key now s s') :
    Agree key later s s' := by
  refine ⟨?_, agree.lock⟩
  have found (u u' : Shared .memory) (same : u'.store.get now key = u.store.get now key) (c : Cached)
      (there : u.store.get later key = some c) : u'.store.get later key = some c := by
    have before := same.trans (MemoryStore.get_of_le order there)
    rw [MemoryStore.get_eq_some_iff] at before there ⊢
    exact ⟨before.1, there.2⟩
  apply Option.ext
  intro c
  exact ⟨found s' s agree.entry.symm c, found s s' agree.entry c⟩

theorem agree_of_swept (swept : s.swept now t) : Agree key now s t :=
  ⟨get_of_swept swept key, by rw [locks_of_swept swept]⟩

theorem agree_of_other (other : ∀ k, q.key? = some k → key ≠ k) (answers : s.answers now q r t) :
    Agree key now s t := by
  cases q with
  | now | lookup =>
    rw [answers.2]
    exact .refl s
  | sleep | operate | report =>
    rw [show t = s from answers]
    exact .refl s
  | abort => exact answers.elim
  | write k response =>
    obtain ⟨-, rfl⟩ := answers
    exact ⟨MemoryStore.get_set_of_ne (other k rfl) _ _ _, rfl⟩
  | acquire k lifetime =>
    obtain ⟨l, ⟨holder, token, held, -, acquired, -, rfl⟩, rfl⟩ := answers
    refine ⟨rfl, ?_⟩
    rcases MemoryLocks.acquire?_cases acquired with ⟨-, rfl⟩ | ⟨-, -, -, others⟩
    · rfl
    · exact others key (other k rfl)
  | release token =>
    obtain ⟨l, ⟨-, rfl⟩, rfl⟩ := answers
    exact ⟨rfl, MemoryLocks.token?_release_of_ne (other token.key rfl) _⟩

theorem issued_mono (answers : s.answers now q r t) : s.locks.issued ⊆ t.locks.issued := by
  cases q with
  | acquire key lifetime =>
    obtain ⟨l, ⟨holder, token, held, -, -, -, rfl⟩, rfl⟩ := answers
    exact List.subset_cons_self _ _
  | release token =>
    obtain ⟨l, ⟨-, rfl⟩, rfl⟩ := answers
    exact List.Subset.refl _
  | _ =>
    rw [locks_of_answers answers (by simp) (by simp)]
    exact List.Subset.refl _

theorem acquire?_congr {held held' l : MemoryLocks} {token : Option LockToken} {lifetime : Nat}
    {holder : Uuid} (same : held'.token? key = held.token? key)
    (acquired : held.acquire? now key lifetime holder = some (token, l)) :
    ∃ l', held'.acquire? now key lifetime holder = some (token, l') ∧ l'.token? key = l.token? key := by
  have alike := MemoryLocks.isHeld?_congr same now
  unfold MemoryLocks.acquire? at acquired ⊢
  obtain ⟨isHeld, known, outcome⟩ := Option.map_eq_some_iff.1 acquired
  rw [alike, known]
  cases isHeld with
  | true =>
    cases outcome
    exact ⟨held', rfl, same⟩
  | false =>
    cases outcome
    exact ⟨_, rfl, by simp [MemoryLocks.token?]⟩

theorem Agree.exists_answer (agree : Agree key now s s') (fewer : s'.locks.issued ⊆ s.locks.issued)
    (own : ∀ k, q.key? = some k → k = key) (answers : s.answersTo choice now q r t) :
    ∃ t', s'.answersTo choice now q r t' := by
  cases q with
  | now => exact ⟨s', answers.1, rfl⟩
  | operate => exact ⟨s', answers.1, rfl⟩
  | sleep | report => exact ⟨s', rfl⟩
  | abort => exact answers.elim
  | lookup k =>
    obtain rfl := own k rfl
    exact ⟨s', by rw [agree.entry]; exact answers.1, rfl⟩
  | write k response =>
    obtain rfl := own k rfl
    refine ⟨_, ?_, rfl⟩
    rw [MemoryStore.set_fst, agree.entry, ← MemoryStore.set_fst]
    exact answers.1
  | acquire k lifetime =>
    obtain rfl := own k rfl
    obtain ⟨fresh, token, held, acquired, rfl, -⟩ := answers
    obtain ⟨held', acquired', -⟩ := acquire?_congr agree.lock acquired
    exact ⟨_, fun used => fresh (fewer used), token, held', acquired', rfl, rfl⟩
  | release token =>
    obtain rfl := own token.key rfl
    obtain ⟨l, ⟨rfl, rfl⟩, rfl⟩ := answers
    refine ⟨_, _, ⟨?_, rfl⟩, rfl⟩
    rw [MemoryLocks.release_fst, MemoryLocks.release_fst, agree.lock]

theorem Agree.answered (agree : Agree key now s s') (own : ∀ k, q.key? = some k → k = key)
    (fewer : s'.locks.issued ⊆ s.locks.issued) (first : s.answersTo choice now q r t)
    (second : s'.answersTo choice now q r' t') :
    r' = r ∧ Agree key now t t' ∧ t'.locks.issued ⊆ t.locks.issued := by
  cases q with
  | now | operate =>
    obtain ⟨rfl, rfl⟩ := first
    obtain ⟨rfl, rfl⟩ := second
    exact ⟨rfl, agree, fewer⟩
  | sleep | report =>
    rw [show t = s from first, show t' = s' from second]
    exact ⟨rfl, agree, fewer⟩
  | abort => exact first.elim
  | lookup k =>
    obtain rfl := own k rfl
    obtain ⟨rfl, rfl⟩ := first
    obtain ⟨rfl, rfl⟩ := second
    exact ⟨by rw [agree.entry], agree, fewer⟩
  | write k response =>
    obtain rfl := own k rfl
    obtain ⟨rfl, rfl⟩ := first
    obtain ⟨rfl, rfl⟩ := second
    refine ⟨?_, ⟨?_, agree.lock⟩, fewer⟩
    · rw [MemoryStore.set_fst, MemoryStore.set_fst, agree.entry]
    · rw [MemoryStore.get_set_self, MemoryStore.get_set_self, agree.entry]
  | acquire k lifetime =>
    obtain rfl := own k rfl
    obtain ⟨-, token, held, acquired, rfl, rfl⟩ := first
    obtain ⟨-, token', held', acquired', rfl, rfl⟩ := second
    obtain ⟨l, expected, same⟩ := acquire?_congr agree.lock acquired
    rw [acquired'] at expected
    cases expected
    exact ⟨rfl, ⟨agree.entry, same⟩, List.cons_subset_cons _ fewer⟩
  | release token =>
    obtain rfl := own token.key rfl
    obtain ⟨l, ⟨rfl, rfl⟩, rfl⟩ := first
    obtain ⟨l', ⟨rfl, rfl⟩, rfl⟩ := second
    refine ⟨?_, ⟨agree.entry, ?_⟩, fewer⟩
    · rw [MemoryLocks.release_fst, MemoryLocks.release_fst, agree.lock]
    · rw [MemoryLocks.token?_release, MemoryLocks.token?_release, agree.lock]

end Shared

section

variable {ι : Type} [DecidableEq ι] {contexts : ι → Context} {requests : ι → Request}
  {w₀ v v' w w' : World (overMemory .memory) ι (Except Failure Outcome)} {key : CompositeKey}
  {tale : List (Happening ι Choice)} {e : Happening ι Choice}

theorem identity?_of_key? (starts : w₀.Starts fun i => execute (contexts i) (requests i))
    (run : World.Reaches w₀ w) {i : ι} {q : Ask} {next : q.Answer → Handling (Except Failure Outcome)}
    (asks : w.tasks i = .ask q next) (asked : q.key? = some key) :
    identity? (contexts i) (requests i) = some key := by
  have other : ∀ note, q ≠ .report note := by
    rintro note rfl
    cases asked
  rw [identity?_of_question starts run asks other]
  have holders := Holders.of_reaches starts run
  rcases question_of_ask starts rfl run asks with ⟨note, same⟩ | question
  · exact absurd same (other note)
  · have keyed := holders.keyed i
    unfold guardOf at keyed
    generalize stageOf (contexts i) (requests i) i w.history = stage at question keyed
    cases stage with
    | leaving token result =>
      cases question
      exact (congrArg some (keyed token rfl)).symm.trans asked
    | looking | holding | polling | missed | writing =>
      cases question
      exact asked
    | waiting | ready | ran | stuck =>
      cases question
      cases asked
    | finished => cases question

abbrev Occurs (v : World (overMemory .memory) ι (Except Failure Outcome)) (e : Happening ι Choice)
    (w : World (overMemory .memory) ι (Except Failure Outcome)) : Prop :=
  World.Occurs Shared.answersTo v e w

abbrev Tells (w₀ : World (overMemory .memory) ι (Except Failure Outcome))
    (tale : List (Happening ι Choice)) (w : World (overMemory .memory) ι (Except Failure Outcome)) :
    Prop :=
  World.Follows Shared.answersTo w₀ tale w

theorem reaches_of_tells (tells : Tells w₀ tale w) : World.Reaches w₀ w :=
  tells.reaches fun _ _ _ _ _ _ => Shared.answers_of_answersTo

theorem exists_tale (run : World.Reaches w₀ w) : ∃ tale, Tells w₀ tale w :=
  World.follows_of_reaches (fun _ _ _ _ _ => Shared.exists_choice) run

def concerns (contexts : ι → Context) (requests : ι → Request) (key : CompositeKey) :
    Happening ι Choice → Bool
  | .pass _ => true
  | .change => false
  | .answer i _ => identity? (contexts i) (requests i) = some key

structure Alike (contexts : ι → Context) (requests : ι → Request) (key : CompositeKey)
    (w w' : World (overMemory .memory) ι (Except Failure Outcome)) : Prop where
  now : w'.now = w.now
  tasks : ∀ i, identity? (contexts i) (requests i) = some key → w'.tasks i = w.tasks i
  history : ∀ i, identity? (contexts i) (requests i) = some key →
    w'.history.filter (·.task = i) = w.history.filter (·.task = i)
  shared : Shared.Agree key w.now w.state w'.state
  fewer : w'.state.locks.issued ⊆ w.state.locks.issued

theorem Alike.unconcerned (starts : w₀.Starts fun i => execute (contexts i) (requests i))
    (run : World.Reaches w₀ v) (alike : Alike contexts requests key v v') (occurs : Occurs v e w)
    (unconcerned : concerns contexts requests key e = false) :
    Alike contexts requests key w v' := by
  cases occurs with
  | pass => cases unconcerned
  | change s changes =>
    refine ⟨alike.now, alike.tasks, alike.history,
      (Shared.agree_of_swept changes).symm.trans alike.shared, ?_⟩
    rw [Shared.locks_of_swept changes]
    exact alike.fewer
  | answer i choice q next r s asks chosen =>
    have answers := Shared.answers_of_answersTo chosen
    have foreign : identity? (contexts i) (requests i) ≠ some key := by
      simpa [concerns] using unconcerned
    have differ {j : ι} (own : identity? (contexts j) (requests j) = some key) : j ≠ i := by
      rintro rfl
      exact foreign own
    constructor
    · exact alike.now
    · intro j own
      rw [World.answered_tasks_of_ne _ _ _ _ _ _ (differ own)]
      exact alike.tasks j own
    · intro j own
      rw [World.answered_history, List.filter_cons_of_neg (by simpa using (differ own).symm)]
      exact alike.history j own
    · refine (Shared.agree_of_other (fun k asked => ?_) answers).symm.trans alike.shared
      rintro rfl
      exact foreign (identity?_of_key? starts run asks asked)
    · exact fun holder used => Shared.issued_mono answers (alike.fewer used)

theorem eq_of_key? (starts : w₀.Starts fun i => execute (contexts i) (requests i))
    (run : World.Reaches w₀ v) {i : ι} (own : identity? (contexts i) (requests i) = some key) {q : Ask}
    {next : q.Answer → Handling (Except Failure Outcome)} (asks : v.tasks i = .ask q next)
    (k : CompositeKey) (asked : q.key? = some k) : k = key := by
  have same := identity?_of_key? starts run asks asked
  rw [own] at same
  exact (Option.some.inj same).symm

theorem Alike.exists_occurs (starts : w₀.Starts fun i => execute (contexts i) (requests i))
    (run : World.Reaches w₀ v) (alike : Alike contexts requests key v v') (occurs : Occurs v e w)
    (concerned : concerns contexts requests key e = true) : ∃ w', Occurs v' e w' := by
  cases occurs with
  | change => cases concerned
  | pass later order shown => exact ⟨_, .pass v' later (alike.now ▸ order) shown⟩
  | answer i choice q next r s asks answers =>
    have own : identity? (contexts i) (requests i) = some key := by simpa [concerns] using concerned
    obtain ⟨s', answers'⟩ :=
      alike.shared.exists_answer alike.fewer (eq_of_key? starts run own asks) answers
    exact ⟨_, .answer v' i choice q next r s' ((alike.tasks i own).trans asks)
      (alike.now.symm ▸ answers')⟩

theorem Alike.concerned (starts : w₀.Starts fun i => execute (contexts i) (requests i))
    (run : World.Reaches w₀ v) (alike : Alike contexts requests key v v') (occurs : Occurs v e w)
    (occurs' : Occurs v' e w') (concerned : concerns contexts requests key e = true) :
    Alike contexts requests key w w' := by
  cases occurs with
  | change => cases concerned
  | pass later order =>
    cases occurs'
    exact ⟨rfl, alike.tasks, alike.history, alike.shared.later order, alike.fewer⟩
  | answer i choice q next r s asks answers =>
    have own : identity? (contexts i) (requests i) = some key := by simpa [concerns] using concerned
    cases occurs' with
    | answer _ _ q' next' r' s' asks' answers' =>
      have same := alike.tasks i own
      rw [asks, asks'] at same
      cases same
      obtain ⟨rfl, shared, fewer⟩ := alike.shared.answered (eq_of_key? starts run own asks) alike.fewer
        answers (alike.now ▸ answers')
      refine ⟨alike.now, fun j theirs => ?_, fun j theirs => ?_, shared, fewer⟩
      · by_cases mine : j = i
        · subst mine
          rw [World.answered_tasks_self, World.answered_tasks_self]
        · rw [World.answered_tasks_of_ne _ _ _ _ _ _ mine, World.answered_tasks_of_ne _ _ _ _ _ _ mine]
          exact alike.tasks j theirs
      · rw [World.answered_history, World.answered_history, List.filter_cons, List.filter_cons,
          alike.history j theirs, alike.now]

theorem alike_of_tells (starts : w₀.Starts fun i => execute (contexts i) (requests i))
    (tells : Tells w₀ tale w) (tells' : Tells w₀ (tale.filter (concerns contexts requests key)) w') :
    Alike contexts requests key w w' := by
  induction tells generalizing w' with
  | start =>
    cases tells'
    exact ⟨rfl, fun _ _ => rfl, fun _ _ => rfl, .refl _, List.Subset.refl _⟩
  | @next tale v w e before occurs ih =>
    have run := reaches_of_tells before
    cases concerned : concerns contexts requests key e with
    | true =>
      rw [List.filter_cons_of_pos concerned] at tells'
      cases tells' with
      | next before' occurs' => exact (ih before').concerned starts run occurs occurs' concerned
    | false =>
      rw [List.filter_cons_of_neg (by simp [concerned])] at tells'
      exact (ih tells').unconcerned starts run occurs concerned

theorem exists_tells (starts : w₀.Starts fun i => execute (contexts i) (requests i))
    (tells : Tells w₀ tale w) (key : CompositeKey) :
    ∃ w', Tells w₀ (tale.filter (concerns contexts requests key)) w' := by
  induction tells with
  | start => exact ⟨w₀, .start⟩
  | @next tale v w e before occurs ih =>
    obtain ⟨v', before'⟩ := ih
    cases concerned : concerns contexts requests key e with
    | true =>
      have alike := alike_of_tells starts before before'
      obtain ⟨w', occurs'⟩ := alike.exists_occurs starts (reaches_of_tells before) occurs concerned
      rw [List.filter_cons_of_pos concerned]
      exact ⟨w', .next before' occurs'⟩
    | false =>
      rw [List.filter_cons_of_neg (by simp [concerned])]
      exact ⟨v', before'⟩

theorem Alike.invocations_eq (alike : Alike contexts requests key w w') {i : ι}
    (own : identity? (contexts i) (requests i) = some key) : invocations w' i = invocations w i := by
  have same : operations i w'.history = operations i w.history := shownBy_congr (alike.history i own)
  unfold invocations
  rw [same, alike.tasks i own]

-- Without the turns of other keys what is left of a run is a run again, and nothing under the key tells the
-- two apart.
theorem key_isolated (starts : w₀.Starts fun i => execute (contexts i) (requests i))
    (tells : Tells w₀ tale w) (key : CompositeKey) :
    (∃ w', Tells w₀ (tale.filter (concerns contexts requests key)) w') ∧
    ∀ w', Tells w₀ (tale.filter (concerns contexts requests key)) w' →
      w'.now = w.now ∧
      (∀ i, identity? (contexts i) (requests i) = some key →
        w'.tasks i = w.tasks i ∧ invocations w' i = invocations w i) ∧
      w'.state.store.get w'.now key = w.state.store.get w.now key ∧
      w'.state.locks.held.token? key = w.state.locks.held.token? key := by
  refine ⟨exists_tells starts tells key, fun w' tells' => ?_⟩
  have alike := alike_of_tells starts tells tells'
  refine ⟨alike.now, fun i own => ⟨alike.tasks i own, alike.invocations_eq own⟩, ?_, alike.shared.lock⟩
  rw [alike.now]
  exact alike.shared.entry

end

def keyedOrder (second : Bool) : Request :=
  { placeOrder with rawKey := some (if second then "k-2" else "k-1") }

def twoKeys : World (overMemory .memory) Bool (Except Failure Outcome) where
  now := .epoch
  state := ⟨{}, {}⟩
  tasks i := execute locking (keyedOrder i)
  history := []

def receipt : Captured :=
  { status := 201, contentType := none, body := [] }

def served : World (overMemory .memory) Bool (Except Failure Outcome) :=
  twoKeys.play (Shared.reply (.ok receipt)) (List.replicate 18 [false, true]).flatten

def servedAndSwept : World (overMemory .memory) Bool (Except Failure Outcome) :=
  { served with state := { served.state with store := (served.state.store.deleteExpired .epoch 10).2 } }

set_option maxRecDepth 8000 in
theorem first_order_isolated :
    ∃ tale key expiresAt, Tells twoKeys tale servedAndSwept ∧
      identity? locking (keyedOrder false) = some key ∧
      servedAndSwept.tasks true = .done (.ok (.executedCached receipt expiresAt)) ∧
      ∃ w', Tells twoKeys (tale.filter (concerns (fun _ => locking) keyedOrder key)) w' ∧
        w'.tasks false = .done (.ok (.executedCached receipt expiresAt)) ∧
        invocations w' false = invocations servedAndSwept false ∧
        w'.state.store.get w'.now key = servedAndSwept.state.store.get servedAndSwept.now key := by
  have run : World.Reaches twoKeys served :=
    World.reaches_play (Shared.answers_of_reply (.ok receipt)) twoKeys _
  have swept : World.Step served servedAndSwept :=
    .change served _ ⟨served.state.store, .epoch, 10, by decide, .refl _, rfl⟩
  obtain ⟨tale, tells⟩ := exists_tale (run.tail swept)
  have starts : twoKeys.Starts fun i => execute locking (keyedOrder i) := ⟨rfl, rfl⟩
  obtain ⟨⟨w', tells'⟩, same⟩ := key_isolated starts tells (CompositeKey.build "POST" "/orders" ⟨"k-1"⟩)
  obtain ⟨-, own, entry, -⟩ := same w' tells'
  obtain ⟨tasks, executions⟩ := own false rfl
  exact ⟨tale, _, _, tells, rfl, rfl, w', tells', tasks, executions, entry⟩

end Request

end OncePerKey
