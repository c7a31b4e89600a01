import OncePerKey.Proofs.Lock.Memory
import OncePerKey.Proofs.Request.Conduct
import OncePerKey.Proofs.Request.Shared
import OncePerKey.Request.Guard

set_option autoImplicit false

namespace OncePerKey.Request

theorem Made.guard_of_granted {c : Context} {key : CompositeKey} {s : Stage} {calls : List Call}
    {token : LockToken} {q : Ask} (made : Made c s calls) (asked : s.question c key = some q)
    (granted : .acquire (.ok (some token)) ∈ calls) : s.guard = some token := by
  cases made with
  | looking | missed | waiting | polling => simp at granted
  | holding => simpa [Stage.guard, eq_comm] using granted
  | ready opening => exact (opening.granted_iff token).1 granted
  | ran opening | writing opening => exact (opening.granted_iff token).1 (by simpa using granted)
  | stuck part | leaving part => exact (part.granted_iff token).1 granted
  | finished | released => cases asked

section

variable {S : Surroundings Ask Ask.Answer} {ι α : Type} [DecidableEq ι]

-- The token in the guard of a request between two questions.
def guardIn (i : ι) (history : List (Exchange ι Ask Ask.Answer)) : Option LockToken :=
  (history.filter (·.task = i)).foldr (fun e guard => guardAfter guard e.question e.answer) none

def heldBy (w : World S ι α) (i : ι) : Option LockToken :=
  match w.tasks i with
  | .ask q _ => guardDuring (guardIn i w.history) q
  | .done _ => none

def drop (canSpawn : Bool) (w : World S ι α) (i : ι) : World S ι Unit where
  now := w.now
  state := w.state
  tasks := Function.update (fun j => (w.tasks j).bind fun _ => .done ()) i
    (dropped canSpawn (heldBy w i))
  history := w.history

theorem drop_tasks_self (canSpawn : Bool) (w : World S ι α) (i : ι) :
    (drop canSpawn w i).tasks i = dropped canSpawn (heldBy w i) := by
  simp [drop]

-- Where a request can be dropped: it waits there, or gives up.
def interruptible : Ask → Bool
  | .now | .report _ => false
  | _ => true

variable {programs : ι → Handling (Except Failure Outcome)}
  {w₀ v : World S ι (Except Failure Outcome)}

theorem guardIn_eq (starts : w₀.Starts programs) {i : ι} {c : Context} {r : Request}
    (own : programs i = execute c r) (run : World.Reaches w₀ v) :
    (stageOf c r i v.history).guard = guardIn i v.history := by
  refine stageOf_induction (P := fun w s => s.guard = guardIn i w.history) starts own ?_ ?_ ?_ run
  · rw [starts.2]
    exact guard_start c r
  · intro u v s _ same guard
    rw [guard, guardIn, guardIn, same]
  · intro v q next a s s' _ _ _ move guard
    rw [move.guard_after, guard]
    simp [guardIn]

theorem heldBy_of_granted (starts : w₀.Starts programs) {i : ι} {c : Context} {r : Request}
    (own : programs i = execute c r) (run : World.Reaches w₀ v) {q : Ask}
    {next : q.Answer → Handling (Except Failure Outcome)} (asks : v.tasks i = .ask q next)
    (interrupted : interruptible q = true) (unreleased : ∀ token, q ≠ .release token)
    {time : Timestamp} {key : CompositeKey} {lifetime : Nat} {token : LockToken}
    (granted : ⟨i, time, .acquire key lifetime, .ok (some token)⟩ ∈ v.history) :
    heldBy v i = some token := by
  have call : .acquire (.ok (some token)) ∈ calls i v.history :=
    mem_shownBy.2 ⟨_, granted, rfl, rfl⟩
  have during : guardDuring (guardIn i v.history) q = guardIn i v.history := by
    cases q with
    | release other => exact absurd rfl (unreleased other)
    | _ => rfl
  rcases question_of_ask starts own run asks with ⟨note, rfl⟩ | asked
  · exact nomatch interrupted
  · rw [heldBy, asks, ← (made_of_reaches starts own run).guard_of_granted asked call,
      guardIn_eq starts own run]
    exact during

end

-- A lock that is given back is not held, and none is held again with a token that was handed out before.
structure KeepsLocks (S : Surroundings Ask Ask.Answer) (holds issued : S.State → LockToken → Prop) :
    Prop where
  frees : ∀ now s token r s', S.answers now s (.release token) r s' → ¬ holds s' token
  issues : ∀ now s key lifetime token s',
    S.answers now s (.acquire key lifetime) (.ok (some token)) s' → issued s' token
  remembers : ∀ s s' token, S.Turns s s' → issued s token → issued s' token
  renounces : ∀ s s' token, S.Turns s s' → issued s token → ¬ holds s token → ¬ holds s' token

section

variable {S : Surroundings Ask Ask.Answer} {holds issued : S.State → LockToken → Prop} {ι : Type}
  [DecidableEq ι] {token : LockToken}

theorem KeepsLocks.issued_of_granted {α : Type} {w₀ v : World S ι α}
    (keeps : KeepsLocks S holds issued) (begun : w₀.history = []) (run : World.Reaches w₀ v) {i : ι}
    {time : Timestamp} {key : CompositeKey} {lifetime : Nat}
    (granted : ⟨i, time, .acquire key lifetime, .ok (some token)⟩ ∈ v.history) :
    issued v.state token := by
  obtain ⟨u, u', happened⟩ := World.happened_of_mem begun run granted
  exact happened.after.state_induction (P := (issued · token))
    (fun s s' turns => keeps.remembers s s' token turns)
    (keeps.issues _ _ _ _ _ _ happened.answers)

theorem KeepsLocks.given_back {u w : World S ι Unit} (keeps : KeepsLocks S holds issued)
    (known : issued u.state token) {i : ι} (left : u.tasks i = releaseToken token)
    (run : World.Reaches u w) (ended : w.tasks i = .done ()) :
    ∃ later, w.history = later ++ u.history ∧
      (∃ time r, ⟨i, time, .release token, r⟩ ∈ later) ∧ ¬ holds w.state token := by
  -- Up to the release all of it is left to do, and from then on the lock is not held with the token.
  have course : issued w.state token ∧ ∃ later, w.history = later ++ u.history ∧
      (w.tasks i = releaseToken token ∨
        (∃ time r, ⟨i, time, .release token, r⟩ ∈ later) ∧ ¬ holds w.state token) := by
    clear ended
    induction run with
    | refl => exact ⟨known, [], rfl, .inl left⟩
    | @tail v w run step ih =>
      obtain ⟨issued, later, grown, state⟩ := ih
      cases step with
      | pass => exact ⟨issued, later, grown, state⟩
      | change s changes =>
        have turns : S.Turns v.state s := .change changes
        exact ⟨keeps.remembers _ _ _ turns issued, later, grown,
          state.imp_right fun ⟨released, free⟩ =>
            ⟨released, keeps.renounces _ _ _ turns issued free⟩⟩
      | answer j q next r s asks answers =>
        have turns : S.Turns v.state s := .answer q r answers
        refine ⟨keeps.remembers _ _ _ turns issued, ⟨j, v.now, q, r⟩ :: later, by simp [grown], ?_⟩
        rcases state with waiting | ⟨⟨time, answer, released⟩, free⟩
        · by_cases same : j = i
          · subst same
            rw [waiting] at asks
            cases asks
            exact .inr ⟨⟨v.now, r, List.mem_cons_self⟩, keeps.frees _ _ _ _ _ answers⟩
          · exact .inl (by rw [World.answered_tasks_of_ne _ _ _ _ _ _ (Ne.symm same), waiting])
        · exact .inr ⟨⟨time, answer, List.mem_cons_of_mem _ released⟩,
            keeps.renounces _ _ _ turns issued free⟩
  obtain ⟨-, later, grown, waiting | done⟩ := course
  · exact nomatch ended.symm.trans waiting
  · exact ⟨later, grown, done⟩

theorem unreleased_of_quiet {u w : World S ι Unit} {i : ι}
    (quiet : u.tasks i = .done () ∨ ∃ note, u.tasks i = report note) (run : World.Reaches u w) :
    ∃ later, w.history = later ++ u.history ∧
      ∀ time token r, ⟨i, time, .release token, r⟩ ∉ later := by
  have course : (w.tasks i = .done () ∨ ∃ note, w.tasks i = report note) ∧
      ∃ later, w.history = later ++ u.history ∧
        ∀ time token r, ⟨i, time, .release token, r⟩ ∉ later := by
    induction run with
    | refl => exact ⟨quiet, [], rfl, fun _ _ _ => List.not_mem_nil⟩
    | @tail v w run step ih =>
      obtain ⟨left, later, grown, unreleased⟩ := ih
      cases step with
      | pass | change => exact ⟨left, later, grown, unreleased⟩
      | answer j q next r s asks answers =>
        refine ⟨?_, ⟨j, v.now, q, r⟩ :: later, by simp [grown], ?_⟩
        · by_cases same : j = i
          · subst same
            rcases left with ended | ⟨note, reports⟩
            · exact nomatch ended.symm.trans asks
            · rw [reports] at asks
              cases asks
              exact .inl (World.answered_tasks_self _ _ _ _ _ _)
          · rwa [World.answered_tasks_of_ne _ _ _ _ _ _ (Ne.symm same)]
        · intro time token answer present
          rcases List.mem_cons.1 present with now | old
          · cases now
            rcases left with ended | ⟨note, reports⟩
            · exact nomatch ended.symm.trans asks
            · exact nomatch reports.symm.trans asks
          · exact unreleased time token answer old
  exact course.2

-- A dropped request gives its lock back exactly if something runs that takes up new work, and it was not
-- dropped in its own release, which has taken the token out of the guard before it waits.
theorem dropped_gives_back_iff (keeps : KeepsLocks S holds issued)
    {programs : ι → Handling (Except Failure Outcome)} {w₀ v : World S ι (Except Failure Outcome)}
    (starts : w₀.Starts programs) {i : ι} {c : Context} {r : Request}
    (own : programs i = execute c r) (run : World.Reaches w₀ v) {time : Timestamp}
    {key : CompositeKey} {lifetime : Nat}
    (granted : ⟨i, time, .acquire key lifetime, .ok (some token)⟩ ∈ v.history) {q : Ask}
    {next : q.Answer → Handling (Except Failure Outcome)} (asks : v.tasks i = .ask q next)
    (interrupted : interruptible q = true) {canSpawn : Bool} {w : World S ι Unit}
    (rest : World.Reaches (drop canSpawn v i) w) (ended : w.tasks i = .done ()) :
    ∃ later, w.history = later ++ v.history ∧
      ((∃ time r, ⟨i, time, .release token, r⟩ ∈ later) ↔
        canSpawn = true ∧ ∀ other, q ≠ .release other) ∧
      (canSpawn = true → (∀ other, q ≠ .release other) → ¬ holds w.state token) := by
  have left := drop_tasks_self canSpawn v i
  by_cases gives : canSpawn = true ∧ ∀ other, q ≠ .release other
  · obtain ⟨rfl, unreleased⟩ := gives
    have known : issued v.state token := keeps.issued_of_granted starts.2 run granted
    rw [heldBy_of_granted starts own run asks interrupted unreleased granted] at left
    obtain ⟨later, grown, released, free⟩ := keeps.given_back known left rest ended
    exact ⟨later, grown, iff_of_true released ⟨rfl, unreleased⟩, fun _ _ => free⟩
  · have quiet : (drop canSpawn v i).tasks i = .done () ∨ ∃ note, (drop canSpawn v i).tasks i = report note := by
      by_cases unreleased : ∀ other, q ≠ .release other
      · obtain rfl : canSpawn = false := Bool.eq_false_iff.2 fun spawns => gives ⟨spawns, unreleased⟩
        rw [heldBy_of_granted starts own run asks interrupted unreleased granted] at left
        exact .inr ⟨_, left⟩
      · push Not at unreleased
        obtain ⟨other, rfl⟩ := unreleased
        rw [heldBy, asks] at left
        exact .inl left
    obtain ⟨later, grown, unreleased⟩ := unreleased_of_quiet quiet rest
    refine ⟨later, grown, iff_of_false ?_ gives, fun spawns other => absurd ⟨spawns, other⟩ gives⟩
    rintro ⟨time, answer, present⟩
    exact unreleased time token answer present

end

section

def Shared.holds (s : Shared .memory) (token : LockToken) : Prop :=
  s.locks.held.token? token.key = some token

def Shared.issued (s : Shared .memory) (token : LockToken) : Prop :=
  token.holder ∈ s.locks.issued

theorem locks_cases {s s' : (overMemory .memory).State} (turns : (overMemory .memory).Turns s s') :
    s'.locks = s.locks ∨
      (∃ now key lifetime holder given held, holder ∉ s.locks.issued ∧
        s.locks.held.acquire? now key lifetime holder = some (given, held) ∧
        s'.locks = ⟨held, holder :: s.locks.issued⟩) ∨
      ∃ token, s'.locks = { s.locks with held := (s.locks.held.release token).2 } := by
  cases turns with
  | change swept => exact .inl (Shared.locks_of_swept swept)
  | answer q r answers =>
    cases q with
    | now | lookup | write =>
      obtain ⟨-, rfl⟩ := answers
      exact .inl rfl
    | sleep | operate | report =>
      cases answers
      exact .inl rfl
    | acquire key lifetime =>
      obtain ⟨_, ⟨holder, given, held, fresh, acquired, -, rfl⟩, rfl⟩ := answers
      exact .inr (.inl ⟨_, key, lifetime, holder, given, held, fresh, acquired, rfl⟩)
    | release token =>
      obtain ⟨_, ⟨-, rfl⟩, rfl⟩ := answers
      exact .inr (.inr ⟨token, rfl⟩)
    | abort => exact answers.elim

theorem memory_remembers {s s' : (overMemory .memory).State} {token : LockToken}
    (turns : (overMemory .memory).Turns s s') (issued : s.issued token) : s'.issued token := by
  unfold Shared.issued
  obtain same | ⟨_, _, _, _, _, _, -, -, same⟩ | ⟨_, same⟩ := locks_cases turns
  · exact same ▸ issued
  · exact same ▸ List.mem_cons_of_mem _ issued
  · exact same ▸ issued

theorem memory_renounces {s s' : (overMemory .memory).State} {token : LockToken}
    (turns : (overMemory .memory).Turns s s') (issued : s.issued token) (free : ¬ s.holds token) :
    ¬ s'.holds token := by
  unfold Shared.holds
  obtain same | ⟨now, key, lifetime, holder, given, held, fresh, acquired, same⟩ | ⟨other, same⟩ :=
    locks_cases turns
  · exact same ▸ free
  · rw [same]
    rcases MemoryLocks.acquire?_cases acquired with ⟨-, rfl⟩ | ⟨rfl, -, mine, others⟩
    · exact free
    · by_cases own : token.key = key
      · intro holds
        have taken : some token = _ := holds.symm.trans (own ▸ mine)
        have holder_eq : token.holder = holder :=
          congrArg LockToken.holder (Option.some.inj taken)
        exact fresh (holder_eq ▸ issued)
      · exact fun holds => free ((others _ own).symm.trans holds)
  · rw [same]
    exact fun holds => free (MemoryLocks.token?_of_release holds)

theorem memory_keepsLocks : KeepsLocks (overMemory .memory) Shared.holds Shared.issued where
  frees now s token r s' answers := by
    obtain ⟨_, ⟨-, rfl⟩, rfl⟩ := answers
    exact MemoryLocks.token?_release_self_ne
  issues now s key lifetime token s' answers := by
    obtain ⟨_, ⟨holder, given, held, -, acquired, same, rfl⟩, rfl⟩ := answers
    cases same
    rcases MemoryLocks.acquire?_cases acquired with ⟨absent, -⟩ | ⟨given, -⟩
    · exact nomatch absent
    · cases given
      exact List.mem_cons_self
  remembers s s' token := memory_remembers
  renounces s s' token := memory_renounces

end

def ordered : World (overMemory .memory) Unit (Except Failure Outcome) :=
  { now := .epoch, state := ⟨{}, {}⟩, tasks := fun _ => execute locking placeOrder, history := [] }

def orderedAfter (answers : Nat) : World (overMemory .memory) Unit (Except Failure Outcome) :=
  ordered.play (Shared.reply (.ok accepted)) (List.replicate answers ())

theorem ordered_reaches (answers : Nat) : World.Reaches ordered (orderedAfter answers) :=
  World.reaches_play (Shared.answers_of_reply (.ok accepted)) ordered _

def operating : World (overMemory .memory) Unit (Except Failure Outcome) :=
  orderedAfter 7

theorem operating_granted :
    ⟨(), .epoch, .acquire orderToken.key orderToken.lifetime, .ok (some orderToken)⟩ ∈
      operating.history :=
  .tail _ (.tail _ (.tail _ (.head _)))

def leftBehind (canSpawn : Bool) : World (overMemory .memory) Unit Unit :=
  (drop canSpawn operating ()).play (Shared.reply (.ok accepted)) [(), ()]

theorem drop_reaches_leftBehind (canSpawn : Bool) :
    World.Reaches (drop canSpawn operating ()) (leftBehind canSpawn) :=
  World.reaches_play (Shared.answers_of_reply (.ok accepted)) _ _

-- The order has been carried out and stored, and its release waits for the coordinator.
def releasing : World (overMemory .memory) Unit (Except Failure Outcome) :=
  orderedAfter 11

theorem releasing_granted :
    ⟨(), .epoch, .acquire orderToken.key orderToken.lifetime, .ok (some orderToken)⟩ ∈
      releasing.history :=
  .tail _ (.tail _ (.tail _ (.tail _ (.tail _ (.tail _ (.tail _ (.head _)))))))

theorem lock_of_dropped_order :
    ((∃ next, operating.tasks () = .ask .operate next) ∧
      ∃ later, (leftBehind true).history = later ++ operating.history ∧
        (∃ time r, ⟨(), time, .release orderToken, r⟩ ∈ later) ∧
        ¬ (leftBehind true).state.holds orderToken) ∧
    (∃ next, releasing.tasks () = .ask (.release orderToken) next) ∧
      (∀ w, World.Reaches (drop true releasing ()) w → w.tasks () = .done () →
        ∃ later, w.history = later ++ releasing.history ∧
          ∀ time r, ⟨(), time, .release orderToken, r⟩ ∉ later) ∧
      (drop true releasing ()).tasks () = .done () ∧ (drop true releasing ()).state.holds orderToken := by
  have starts : ordered.Starts fun _ => execute locking placeOrder := ⟨rfl, rfl⟩
  obtain ⟨next, asks⟩ : ∃ next, operating.tasks () = .ask .operate next := ⟨_, rfl⟩
  have ended : (leftBehind true).tasks () = .done () := rfl
  have unreleased : ∀ other, Ask.operate ≠ .release other := fun _ => nofun
  obtain ⟨later, grown, released, free⟩ := dropped_gives_back_iff memory_keepsLocks starts rfl
    (ordered_reaches 7) operating_granted asks rfl (drop_reaches_leftBehind true) ended
  obtain ⟨nextToo, asksToo⟩ : ∃ next, releasing.tasks () = .ask (.release orderToken) next := ⟨_, rfl⟩
  refine ⟨⟨⟨next, asks⟩, later, grown, released.2 ⟨rfl, unreleased⟩, free rfl unreleased⟩,
    ⟨nextToo, asksToo⟩, fun w rest ended => ?_, rfl, rfl⟩
  obtain ⟨later, grown, released, -⟩ := dropped_gives_back_iff memory_keepsLocks starts rfl
    (ordered_reaches 11) releasing_granted asksToo rfl rest ended
  exact ⟨later, grown, fun time r present => (released.1 ⟨time, r, present⟩).2 _ rfl⟩

end OncePerKey.Request
