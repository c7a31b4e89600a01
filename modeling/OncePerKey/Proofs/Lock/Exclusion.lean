import Mathlib.Algebra.GroupWithZero.Nat
import OncePerKey.Proofs.Lock.Memory
import OncePerKey.Proofs.Lock.Term
import OncePerKey.Proofs.Moment
import OncePerKey.Proofs.Redis.Lock

set_option autoImplicit false

namespace OncePerKey.Lock

def memoryAnswers (now : Timestamp) (l : MemoryLocks) : Call → Returned → MemoryLocks → Prop
  | .acquire key lifetime, r, l' =>
      ∃ holder token, l.acquire? now key lifetime holder = some (token, l') ∧ r = .acquired (.ok token)
  | .release token, r, l' => r = .released (.ok (l.release token).1) ∧ l' = (l.release token).2

def memory : Keeper Call fun _ => Returned where
  surroundings :=
    { State := MemoryLocks
      answers := memoryAnswers }
  program c := .ask c .done
  held now l token := l.token? token.key = some token ∧ l.isHeld? now token.key = some true
  refuses := False

section

variable {now end_ : Timestamp} {l l' : MemoryLocks} {c : Call} {r : Returned} {token : LockToken}

theorem isExpiredAt?_of_lt (ends : token.expiresAt? = some end_) (early : now < end_) :
    token.isExpiredAt? now = some false := by
  simp [LockToken.isExpiredAt?, ends, (Timestamp.before_iff now end_).2 early]

theorem isHeld?_of_lt (kept : l.token? token.key = some token) (ends : token.expiresAt? = some end_)
    (early : now < end_) : l.isHeld? now token.key = some true := by
  simp [MemoryLocks.isHeld?, kept, isExpiredAt?_of_lt ends early]

theorem acquire?_of_held {key : CompositeKey} {lifetime : Nat} {holder : Uuid}
    (held : l.isHeld? now key = some true) : l.acquire? now key lifetime holder = some (none, l) := by
  simp [MemoryLocks.acquire?, held]

theorem token?_of_granted (answers : memoryAnswers now l c (.acquired (.ok (some token))) l') :
    l'.token? token.key = some token := by
  cases c with
  | release => cases answers.1
  | acquire key lifetime =>
    obtain ⟨holder, granted, acquired, same⟩ := answers
    cases same
    rcases MemoryLocks.acquire?_cases acquired with ⟨nothing, -⟩ | ⟨made, -, kept, -⟩
    · cases nothing
    · cases made
      exact kept

theorem kept_or_released (apart : ∀ other, c = .release other → other.holder = token.holder → other = token)
    (ends : token.expiresAt? = some end_) (early : now < end_)
    (kept : l.token? token.key = some token) (answers : memoryAnswers now l c r l') :
    l'.token? token.key = some token ∨ c = .release token ∧ r = .released (.ok true) := by
  cases c with
  | acquire key lifetime =>
    obtain ⟨holder, granted, acquired, -⟩ := answers
    rcases MemoryLocks.acquire?_cases acquired with ⟨-, rfl⟩ | ⟨-, free, -, others⟩
    · exact .inl kept
    · by_cases same : token.key = key
      · subst same
        have expired := free token kept
        rw [isExpiredAt?_of_lt ends early] at expired
        cases expired
      · exact .inl ((others token.key same).trans kept)
  | release other =>
    obtain ⟨rfl, rfl⟩ := answers
    by_cases mine : other.holder = token.holder
    · rw [apart other rfl mine, MemoryLocks.release_fst, kept]
      simp
    · exact .inl (MemoryLocks.token?_release_of_holder_ne kept fun same => mine same.symm)

theorem refused_of_held {key : CompositeKey} {lifetime : Nat} (held : l.isHeld? now key = some true)
    (answers : memoryAnswers now l (.acquire key lifetime) r l') : r = .acquired (.ok none) := by
  obtain ⟨holder, granted, acquired, rfl⟩ := answers
  rw [acquire?_of_held held] at acquired
  cases acquired
  rfl

theorem released_of_kept {other : LockToken} (kept : l.token? token.key = some token)
    (key : other.key = token.key) (answers : memoryAnswers now l (.release other) r l') :
    r = .released (.ok (decide (other.holder = token.holder))) := by
  rw [answers.1, MemoryLocks.release_fst, key, kept]
  simp [eq_comm]

end

section

variable {ι : Type} [DecidableEq ι] {calls : ι → Call} {w₀ v w : World memory.surroundings ι Returned}
  {i : ι} {r : Returned}

theorem unasked_or_done (starts : w₀.Starts fun i => memory.program (calls i))
    (run : World.Reaches w₀ w) (i : ι) :
    w.tasks i = memory.program (calls i) ∨ ∃ r, w.tasks i = .done r := by
  induction run with
  | refl => exact .inl (congrFun starts.1 i)
  | @tail v w run step ih =>
    cases step with
    | pass | change => exact ih
    | answer j q next r s asks answers =>
      by_cases same : i = j
      · subst same
        rw [World.answered_tasks_self]
        rcases ih with unasked | ⟨r, done⟩
        · rw [asks] at unasked
          cases unasked
          exact .inr ⟨r, rfl⟩
        · rw [asks] at done
          cases done
      · rw [World.answered_tasks_of_ne _ _ _ _ _ _ same]
        exact ih

theorem answers_of_asks (starts : w₀.Starts fun i => memory.program (calls i))
    (run : World.Reaches w₀ v) {q : Call} {next : Returned → Program Call (fun _ => Returned) Returned}
    (asks : v.tasks i = .ask q next) : q = calls i ∧ next = .done := by
  rcases unasked_or_done starts run i with unasked | ⟨r, done⟩
  · rw [asks] at unasked
    cases unasked
    exact ⟨rfl, rfl⟩
  · rw [asks] at done
    cases done

theorem answers_of_returns (starts : w₀.Starts fun i => memory.program (calls i))
    (run : World.Reaches w₀ v) (returns : World.Returns v w i r) :
    memoryAnswers v.now v.state (calls i) r w.state := by
  obtain ⟨q, next, x, s, asks, answers, ended, rfl⟩ := returns.answered
  obtain ⟨rfl, rfl⟩ := answers_of_asks starts run asks
  cases ended
  exact answers

theorem memoryLaws (starts : w₀.Starts fun i => memory.program (calls i)) :
    Laws memory calls w₀ fun l token => MemoryLocks.token? l token.key = some token where
  grant := by
    intro v w i token run returns
    exact token?_of_granted (answers_of_returns starts run returns)
  keep := by
    intro v w token end_ run step apart ends early kept
    cases step with
    | pass => exact .inl kept
    | change s changes => exact changes.elim
    | answer j q next r s asks answers =>
      obtain ⟨rfl, rfl⟩ := answers_of_asks starts run asks
      rcases kept_or_released (apart j) ends early kept answers with stays | ⟨own, rfl⟩
      · exact .inl stays
      · exact .inr ⟨j, own, World.returns_of_answer asks answers rfl⟩
  held := by
    intro v token end_ _ ends early kept
    exact ⟨kept, isHeld?_of_lt kept ends early⟩
  acquire := by
    intro v w i token end_ lifetime r run returns ends early kept call
    have answers := answers_of_returns starts run returns
    rw [call] at answers
    exact .inl (refused_of_held (isHeld?_of_lt kept ends early) answers)
  release := by
    intro v w i token end_ other r run returns _ _ kept call key
    have answers := answers_of_returns starts run returns
    rw [call] at answers
    exact .inl (released_of_kept kept key answers)
  answered := by
    intro v i token end_ run ends early kept key
    rcases unasked_or_done starts run i with unasked | ⟨r, done⟩
    · have answerable : ∃ r l', memoryAnswers v.now v.state (calls i) r l' := by
        cases call : calls i with
        | acquire other lifetime =>
          rw [call] at key
          cases key
          exact ⟨_, _, default, none, acquire?_of_held (isHeld?_of_lt kept ends early), rfl⟩
        | release other => exact ⟨_, _, rfl, rfl⟩
      obtain ⟨r, l', answers⟩ := answerable
      have returns := World.returns_of_answer unasked answers (rfl : _ = Program.done r)
      exact ⟨_, r, .single returns.step, rfl, returns.result⟩
    · exact ⟨v, r, .refl, rfl, done⟩

end

-- From the grant of a token to its end or its release, every other attempt comes back empty and every other
-- token fails.
theorem holder_excludes_others :
    (∀ {ι : Type} [DecidableEq ι] (calls : ι → Call) (w₀ w : World memory.surroundings ι Returned)
      (token : LockToken), w₀.Starts (fun i => memory.program (calls i)) → Apart calls token →
      InTerm memory calls w₀ w token → Excludes memory calls w token) ∧
    ∀ (space : String) (refuses : Prop) {ι : Type} [DecidableEq ι] (calls : ι → Call)
      (w₀ w : World (Redis.keeper space refuses).surroundings ι Returned) (token : LockToken),
      w₀.Starts (fun i => (Redis.keeper space refuses).program (calls i)) → w₀.now.IsPlain →
      Apart calls token → InTerm (Redis.keeper space refuses) calls w₀ w token →
      Excludes (Redis.keeper space refuses) calls w token := by
  constructor
  · intro ι _ calls w₀ w token starts apart term
    exact (memoryLaws starts).excludes apart term
  · intro space refuses ι _ calls w₀ w token starts plain apart term
    exact (Redis.lockLaws starts plain).excludes apart term

def opening : Timestamp := .epoch

def takeover : Timestamp := ⟨1, 0, by decide⟩

def closing : Timestamp := ⟨2, 0, by decide⟩

theorem opening_le_takeover : opening ≤ takeover := by decide

theorem takeover_lt_closing : takeover < closing := by decide

def seatToken (holder : Nat) (acquiredAt : Timestamp) : LockToken :=
  ⟨CompositeKey.build "POST" "/seats" ⟨"k-1"⟩, .ofSeed holder, acquiredAt, 1000000000⟩

def seatCalls : Fin 3 → Call
  | 0 | 1 => .acquire (seatToken 0 opening).key 1000000000
  | 2 => .release (seatToken 0 opening)

theorem token_of_seatCalls {j : Fin 3} {token : LockToken} (call : seatCalls j = .release token) :
    seatToken 0 opening = token := by
  match j with
  | 0 | 1 => exact nomatch call
  | 2 => exact Call.release.inj call

theorem seatToken_ne : seatToken 0 opening ≠ seatToken 1 takeover := by
  intro same
  exact absurd (congrArg LockToken.acquiredAt same) (by decide)

theorem seats_apart : Apart seatCalls (seatToken 1 takeover) := by
  intro j other call same
  rw [← token_of_seatCalls call] at same
  exact absurd same (by decide +kernel)

def memoryReply (holder : Uuid) (now : Timestamp) (l : MemoryLocks) :
    Call → Option (Returned × MemoryLocks)
  | .acquire key lifetime =>
      (l.acquire? now key lifetime holder).map fun (token, l') => (.acquired (.ok token), l')
  | .release token => some (.released (.ok (l.release token).1), (l.release token).2)

theorem memoryAnswers_of_reply (holder : Uuid) (now : Timestamp) (l : MemoryLocks) (c : Call)
    (r : Returned) (l' : MemoryLocks) (replied : memoryReply holder now l c = some (r, l')) :
    memoryAnswers now l c r l' := by
  cases c with
  | acquire key lifetime =>
    obtain ⟨⟨token, held⟩, acquired, same⟩ := Option.map_eq_some_iff.1 replied
    cases same
    exact ⟨holder, token, acquired, rfl⟩
  | release token =>
    cases replied
    exact ⟨rfl, rfl⟩

section

variable {Q : Type} {R : Q → Type} (keeper : Keeper Q R) (s : keeper.surroundings.State)
  (reply : Uuid → Timestamp → keeper.surroundings.State → (q : Q) →
    Option (R q × keeper.surroundings.State))

def vacant : World keeper.surroundings (Fin 3) Returned where
  now := opening
  state := s
  tasks i := keeper.program (seatCalls i)
  history := []

section

local instance three_ne_zero : NeZero 3 := ⟨by decide⟩

-- The first token expires before the second is asked for.
def expired (steps : Nat) : World keeper.surroundings (Fin 3) Returned :=
  { (vacant keeper s).play (reply (.ofSeed 0)) (List.replicate steps 0) with now := takeover }

def retaken (steps : Nat) : World keeper.surroundings (Fin 3) Returned :=
  (expired keeper s reply (steps + 1)).play (reply (.ofSeed 1)) (List.replicate steps 1)

def regranted (steps : Nat) : World keeper.surroundings (Fin 3) Returned :=
  (retaken keeper s reply steps).advance (reply (.ofSeed 1)) 1

end

theorem inTerm_of_regranted (steps : Nat) {q : Q} {next : R q → Program Q R Returned}
    (correct : ∀ holder now s q r s', reply holder now s q = some (r, s') →
      keeper.surroundings.answers now s q r s')
    (shown : keeper.surroundings.shows takeover)
    (asks : (retaken keeper s reply steps).tasks 1 = .ask q next)
    (granted : (regranted keeper s reply steps).tasks 1 =
      .done (.acquired (.ok (some (seatToken 1 takeover))))) :
    InTerm keeper seatCalls (vacant keeper s) (regranted keeper s reply steps)
      (seatToken 1 takeover) := by
  have opened := World.reaches_play (correct (.ofSeed 0)) (vacant keeper s)
    (List.replicate (steps + 1) 0)
  have passed : World.Step _ (expired keeper s reply (steps + 1)) :=
    .pass _ takeover (by rw [World.play_now]; exact opening_le_takeover) shown
  have retried := World.reaches_play (correct (.ofSeed 1)) (expired keeper s reply (steps + 1))
    (List.replicate steps 1)
  have pending (r : Returned) : (retaken keeper s reply steps).tasks 1 ≠ .done r := by
    rw [asks]
    nofun
  constructor
  · refine ⟨1, _, _, (opened.tail passed).trans retried,
      World.returns_of_advance (correct (.ofSeed 1)) pending granted, .refl, ?_⟩
    intro j u u' _ _ _ same
    exact absurd (token_of_seatCalls same) seatToken_ne
  · refine ⟨closing, by decide +kernel, ?_⟩
    rw [regranted, World.advance_now, retaken, World.play_now]
    exact takeover_lt_closing

end

def lockReply (holder : Uuid) (now : Timestamp) (s : Redis.Server) :
    (q : Redis.Ask) → Option (q.Answer × Redis.Server)
  | .now => some (now, s)
  | .newHolder => some (holder, s)
  | .connect => some (.ok (), s)
  | .send c => some (s.run now c)
  | .report _ => some ((), s)

theorem clockedAnswers_of_reply (holder : Uuid) (now : Timestamp) (s : Redis.Server) (q : Redis.Ask)
    (r : q.Answer) (s' : Redis.Server) (replied : lockReply holder now s q = some (r, s')) :
    Redis.clockedAnswers False now s q r s' := by
  cases q with
  | now =>
    cases replied
    exact ⟨rfl, rfl⟩
  | newHolder | report =>
    cases replied
    exact (rfl : s = s)
  | connect =>
    cases replied
    exact ⟨.inl rfl, rfl⟩
  | send c =>
    have same : s.run now c = (r, s') := Option.some.inj replied
    refine .inl ?_
    rw [same]
    exact ⟨rfl, rfl⟩

theorem second_holder_excludes_first :
    (Apart seatCalls (seatToken 1 takeover) ∧
      InTerm memory seatCalls (vacant memory ({} : MemoryLocks))
        (regranted memory ({} : MemoryLocks) memoryReply 0) (seatToken 1 takeover) ∧
      Excludes memory seatCalls (regranted memory ({} : MemoryLocks) memoryReply 0)
        (seatToken 1 takeover)) ∧
    InTerm (Redis.keeper "idem" False) seatCalls
        (vacant (Redis.keeper "idem" False) ({} : Redis.Server))
        (regranted (Redis.keeper "idem" False) ({} : Redis.Server) lockReply 3) (seatToken 1 takeover) ∧
      Excludes (Redis.keeper "idem" False) seatCalls
        (regranted (Redis.keeper "idem" False) ({} : Redis.Server) lockReply 3)
        (seatToken 1 takeover) := by
  constructor
  · have term := inTerm_of_regranted memory ({} : MemoryLocks) memoryReply 0 memoryAnswers_of_reply
      trivial rfl rfl
    exact ⟨seats_apart, term, holder_excludes_others.1 _ _ _ _ ⟨rfl, rfl⟩ seats_apart term⟩
  · have term := inTerm_of_regranted (Redis.keeper "idem" False) ({} : Redis.Server) lockReply 3
      clockedAnswers_of_reply (by decide : takeover.IsPlain) rfl rfl
    exact ⟨term, holder_excludes_others.2 _ _ _ _ _ _ ⟨rfl, rfl⟩ (by decide : opening.IsPlain)
      seats_apart term⟩

end OncePerKey.Lock
