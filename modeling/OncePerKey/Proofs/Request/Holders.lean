import OncePerKey.Proofs.Lock.Memory
import OncePerKey.Proofs.Request.Account

set_option autoImplicit false

namespace OncePerKey.Request

def tokenOf {ι : Type} : Exchange ι Ask Ask.Answer → Option LockToken
  | ⟨_, _, .acquire _ _, .ok token⟩ => token
  | _ => none

theorem Move.guard_cases {ι : Type} {c : Context} {fingerprint : Option String} {key : CompositeKey}
    {s s' : Stage} {q : Ask} {r : q.Answer} {token : LockToken} (i : ι) (time : Timestamp)
    (move : Move c fingerprint key s q r s') (holds : s'.guard = some token) :
    s.guard = some token ∨ tokenOf ⟨i, time, q, r⟩ = some token := by
  rw [move.guard_after] at holds
  unfold guardAfter at holds
  split at holds
  · exact .inr holds
  · cases q with
    | release => exact nomatch holds
    | _ => exact .inl holds

theorem Move.guard_of_acquire {c : Context} {fingerprint : Option String} {key other : CompositeKey}
    {s s' : Stage} {lifetime : Nat} {r : Except Failure (Option LockToken)}
    (move : Move c fingerprint key s (.acquire other lifetime) r s') :
    other = key ∧ s.guard = none := by
  cases move <;> exact ⟨rfl, rfl⟩

theorem Move.guard_of_release {c : Context} {fingerprint : Option String} {key : CompositeKey}
    {s s' : Stage} {token : LockToken} {r : Except Failure Bool}
    (move : Move c fingerprint key s (.release token) r s') :
    s.guard = some token ∧ s'.guard = none := by
  cases move
  exact ⟨rfl, rfl⟩

section

variable {ι : Type} [DecidableEq ι] {contexts : ι → Context} {requests : ι → Request}
  {w₀ v w : World (overMemory .memory) ι (Except Failure Outcome)}

def guardOf (contexts : ι → Context) (requests : ι → Request)
    (history : List (Exchange ι Ask Ask.Answer)) (i : ι) : Option LockToken :=
  (stageOf (contexts i) (requests i) i history).guard

theorem guardOf_cons_of_ne {i j : ι} (other : j ≠ i) (time : Timestamp) (q : Ask) (r : q.Answer)
    (history : List (Exchange ι Ask Ask.Answer)) :
    guardOf contexts requests (⟨j, time, q, r⟩ :: history) i = guardOf contexts requests history i := by
  unfold guardOf
  rw [stageOf_cons_of_ne _ _ other]

structure Holders (contexts : ι → Context) (requests : ι → Request)
    (w : World (overMemory .memory) ι (Except Failure Outcome)) : Prop where
  keyed : ∀ i token, guardOf contexts requests w.history i = some token →
    token.key = keyOf (contexts i) (requests i)
  issued : ∀ i token, guardOf contexts requests w.history i = some token →
    token.holder ∈ w.state.locks.issued
  apart : ∀ i j token other, guardOf contexts requests w.history i = some token →
    guardOf contexts requests w.history j = some other → token.holder = other.holder → i = j
  held : ∀ i token, guardOf contexts requests w.history i = some token →
    token.isExpiredAt? w.now ≠ some true →
    w.state.locks.held.token? token.key = some token

theorem guardOf_start (begun : w₀.history = []) (i : ι) :
    guardOf contexts requests w₀.history i = none := by
  rw [begun]
  exact guard_start (contexts i) (requests i)

theorem Holders.of_start (begun : w₀.history = []) : Holders contexts requests w₀ := by
  constructor <;> simp [guardOf_start begun]

theorem Holders.of_fewer (holders : Holders contexts requests v) (order : v.now ≤ w.now)
    (fewer : ∀ i token, guardOf contexts requests w.history i = some token →
      guardOf contexts requests v.history i = some token)
    (issued : v.state.locks.issued ⊆ w.state.locks.issued)
    (held : ∀ i token, guardOf contexts requests w.history i = some token →
      v.state.locks.held.token? token.key = some token →
      w.state.locks.held.token? token.key = some token) : Holders contexts requests w where
  keyed i token has := holders.keyed i token (fewer i token has)
  issued i token has := issued (holders.issued i token (fewer i token has))
  apart i j token other has hasOther :=
    holders.apart i j token other (fewer i token has) (fewer j other hasOther)
  held i token has unexpired := by
    refine held i token has (holders.held i token (fewer i token has) fun expired => ?_)
    exact unexpired (LockToken.isExpiredAt?_of_le order expired)

theorem Holders.grant (holders : Holders contexts requests v) (i : ι) (token : LockToken)
    (free : v.state.locks.held.IsFree v.now token.key) (fresh : token.holder ∉ v.state.locks.issued)
    (key : token.key = keyOf (contexts i) (requests i)) (now : w.now = v.now)
    (mine : ∀ other, guardOf contexts requests w.history i = some other → other = token)
    (others : ∀ j ≠ i, guardOf contexts requests w.history j = guardOf contexts requests v.history j)
    (issued : w.state.locks.issued = token.holder :: v.state.locks.issued)
    (taken : w.state.locks.held.token? token.key = some token)
    (same : ∀ other ≠ token.key,
      w.state.locks.held.token? other = v.state.locks.held.token? other) :
    Holders contexts requests w where
  keyed j other has := by
    by_cases is : j = i
    · subst is
      rw [mine other has, key]
    · rw [others j is] at has
      exact holders.keyed j other has
  issued j other has := by
    rw [issued]
    by_cases is : j = i
    · subst is
      rw [mine other has]
      exact List.mem_cons_self
    · rw [others j is] at has
      exact List.mem_cons_of_mem _ (holders.issued j other has)
  -- The identifier of the new token was never given out before.
  apart j k first second hasFirst hasSecond equal := by
    by_cases isFirst : j = i
    · by_cases isSecond : k = i
      · rw [isFirst, isSecond]
      · subst isFirst
        rw [others k isSecond] at hasSecond
        rw [mine first hasFirst] at equal
        exact absurd (equal ▸ holders.issued k second hasSecond) fresh
    · rw [others j isFirst] at hasFirst
      by_cases isSecond : k = i
      · subst isSecond
        rw [mine second hasSecond] at equal
        exact absurd (equal ▸ holders.issued j first hasFirst) fresh
      · rw [others k isSecond] at hasSecond
        exact holders.apart j k first second hasFirst hasSecond equal
  held j other has unexpired := by
    by_cases is : j = i
    · subst is
      rw [mine other has]
      exact taken
    · rw [others j is] at has
      rw [now] at unexpired
      have before := holders.held j other has unexpired
      have elsewhere : other.key ≠ token.key := by
        intro equal
        rw [equal] at before
        exact unexpired (free other before)
      rw [same other.key elsewhere]
      exact before

theorem locks_of_answers {now : Timestamp} {s s' : Shared .memory} {q : Ask} {r : q.Answer}
    (answers : s.answers now q r s') (notAcquire : ∀ key lifetime, q ≠ .acquire key lifetime)
    (notRelease : ∀ token, q ≠ .release token) : s'.locks = s.locks := by
  cases q with
  | acquire key lifetime => exact absurd rfl (notAcquire key lifetime)
  | release token => exact absurd rfl (notRelease token)
  | lookup | now => rw [answers.2]
  | write => rw [answers.2]
  | sleep | operate | report => rw [show s' = s from answers]
  | abort => exact answers.elim

theorem Holders.acquired (holders : Holders contexts requests v) {i : ι} {key : CompositeKey}
    {lifetime : Nat} {r : Except Failure (Option LockToken)} {rest : Handling (Except Failure Outcome)}
    {s : Shared .memory} (answers : v.state.answers v.now (.acquire key lifetime) r s)
    (move : Move (contexts i) (requests i).fingerprint (keyOf (contexts i) (requests i))
      (stageOf (contexts i) (requests i) i v.history) (.acquire key lifetime) r
      (stageOf (contexts i) (requests i) i (⟨i, v.now, .acquire key lifetime, r⟩ :: v.history))) :
    Holders contexts requests (v.answered i (.acquire key lifetime) r rest s) := by
  obtain ⟨l, ⟨holder, token, held, fresh, acquired, rfl, rfl⟩, rfl⟩ := answers
  obtain ⟨isKey, without⟩ := move.guard_of_acquire
  have others : ∀ j ≠ i, guardOf contexts requests
      (⟨i, v.now, .acquire key lifetime, .ok token⟩ :: v.history) j =
        guardOf contexts requests v.history j := fun j differs =>
    guardOf_cons_of_ne (Ne.symm differs) _ _ _ _
  rcases MemoryLocks.acquire?_cases acquired with ⟨rfl, rfl⟩ | ⟨rfl, free, taken, same⟩
  · refine holders.of_fewer (le_refl _) (fun j other has => ?_) (List.subset_cons_self _ _)
      fun _ _ _ before => before
    by_cases is : j = i
    · subst is
      rcases move.guard_cases j v.now has with before | given
      · exact before
      · exact nomatch given
    · exact (others j is).symm.trans has
  · refine holders.grant i ⟨key, holder, v.now, lifetime⟩ free fresh isKey rfl (fun other has => ?_)
      others rfl taken same
    rcases move.guard_cases i v.now has with before | given
    · exact nomatch without.symm.trans before
    · exact (Option.some.inj given).symm

theorem Holders.step (starts : w₀.Starts fun i => execute (contexts i) (requests i))
    (run : World.Reaches w₀ v) (holders : Holders contexts requests v) (step : World.Step v w) :
    Holders contexts requests w := by
  cases step with
  | pass later order =>
    exact holders.of_fewer order (fun _ _ has => has) (List.Subset.refl _) fun _ _ _ held => held
  | change s swept =>
    have same := Shared.locks_of_swept swept
    exact holders.of_fewer (le_refl _) (fun _ _ has => has) (by rw [same]; exact List.Subset.refl _)
      fun _ _ _ held => by rw [same]; exact held
  | answer i q next r s asks answers =>
    have move := move_of_ask starts run asks v.now r
    have fewer (given : tokenOf ⟨i, v.now, q, r⟩ = none) (j : ι) (token : LockToken)
        (has : guardOf contexts requests (⟨i, v.now, q, r⟩ :: v.history) j = some token) :
        guardOf contexts requests v.history j = some token := by
      by_cases is : j = i
      · subst is
        rcases move.guard_cases j v.now has with before | now
        · exact before
        · exact nomatch given.symm.trans now
      · rwa [guardOf_cons_of_ne (Ne.symm is)] at has
    have same := locks_of_answers answers
    -- Only an attempt gives a token to a request, and only a release takes one off the locks.
    cases q with
    | acquire key lifetime => exact holders.acquired answers move
    | release token =>
      obtain ⟨l, ⟨rfl, rfl⟩, rfl⟩ := answers
      refine holders.of_fewer (le_refl _) (fewer rfl) (List.Subset.refl _) fun j other has before => ?_
      refine MemoryLocks.token?_release_of_holder_ne before fun equal => ?_
      obtain ⟨mine, gone⟩ := move.guard_of_release
      have is : j = i := holders.apart j i other token (fewer rfl j other has) mine equal
      subst is
      exact nomatch gone.symm.trans has
    | _ =>
      have locks : s.locks = v.state.locks := same (by simp) (by simp)
      refine holders.of_fewer (le_refl _) (fewer rfl) ?_ fun _ _ _ before => ?_
      · rw [World.answered_state, locks]
        exact List.Subset.refl _
      · rw [World.answered_state, locks]
        exact before

theorem given_of_guard (starts : w₀.Starts fun i => execute (contexts i) (requests i))
    (run : World.Reaches w₀ w) {i : ι} {token : LockToken}
    (has : guardOf contexts requests w.history i = some token) :
    token ∈ shownBy tokenOf i w.history := by
  refine cause_of_stageOf (p := fun s => s.guard = some token)
    (P := fun w => token ∈ shownBy tokenOf i w.history) starts ?_ ?_ ?_ run has
  · simp [guard_start]
  · intro u v step given
    exact shownBy_mono step.history_suffix given
  · intro v q next r s s' _ _ _ move has
    rcases move.guard_cases i v.now has with before | given
    · exact .inl before
    · exact .inr (mem_shownBy.2 ⟨_, List.mem_cons_self, rfl, given⟩)

theorem Holders.of_reaches (starts : w₀.Starts fun i => execute (contexts i) (requests i))
    (run : World.Reaches w₀ w) : Holders contexts requests w := by
  induction run with
  | refl => exact .of_start starts.2
  | tail run step ih => exact ih.step starts run step

end

end OncePerKey.Request
