import OncePerKey.Failure
import OncePerKey.Lock.Token
import OncePerKey.Proofs.World

set_option autoImplicit false

namespace OncePerKey

namespace World

variable {Q : Type} {R : Q → Type} {S : Surroundings Q R} {ι α : Type} [DecidableEq ι]
  {v w : World S ι α} {i : ι} {a : α}

structure Returns (v w : World S ι α) (i : ι) (a : α) : Prop where
  step : Step v w
  pending : ∀ b, v.tasks i ≠ .done b
  result : w.tasks i = .done a

theorem Returns.answered (returns : Returns v w i a) :
    ∃ q next r s, v.tasks i = .ask q next ∧ S.answers v.now v.state q r s ∧ next r = .done a ∧
      w = v.answered i q r (next r) s := by
  obtain ⟨step, pending, result⟩ := returns
  cases step with
  | pass | change => exact absurd result (pending a)
  | answer j q next r s asks answers =>
    by_cases same : i = j
    · subst same
      rw [answered_tasks_self] at result
      exact ⟨q, next, r, s, asks, answers, result, rfl⟩
    · rw [answered_tasks_of_ne _ _ _ _ _ _ same] at result
      exact absurd result (pending a)

theorem Returns.now_eq (returns : Returns v w i a) : w.now = v.now := by
  obtain ⟨q, next, r, s, -, -, -, rfl⟩ := returns.answered
  rfl

theorem Returns.task_eq {j : ι} {b : α} (first : Returns v w i a) (second : Returns v w j b) :
    i = j := by
  obtain ⟨q, next, r, s, -, -, -, rfl⟩ := first.answered
  by_contra differ
  have left := second.result
  rw [answered_tasks_of_ne _ _ _ _ _ _ (Ne.symm differ)] at left
  exact second.pending b left

theorem returns_of_answer {q : Q} {next : R q → Program Q R α} {r : R q} {s : S.State}
    (asks : v.tasks i = .ask q next) (answers : S.answers v.now v.state q r s)
    (ended : next r = .done a) : Returns v (v.answered i q r (next r) s) i a where
  step := .answer v i q next r s asks answers
  pending b left := by rw [asks] at left; cases left
  result := by rw [answered_tasks_self, ended]

theorem returns_of_advance {reply : Timestamp → S.State → (q : Q) → Option (R q × S.State)}
    (correct : ∀ now s q r s', reply now s q = some (r, s') → S.answers now s q r s')
    (pending : ∀ b, v.tasks i ≠ .done b) (result : (v.advance reply i).tasks i = .done a) :
    Returns v (v.advance reply i) i a := by
  refine ⟨?_, pending, result⟩
  unfold advance at result ⊢
  split at result
  · exact absurd result (pending a)
  · rename_i q next asks
    split at result
    · rename_i r s replied
      exact .answer v i q next r s asks (correct _ _ _ _ _ replied)
    · exact absurd result (pending a)

end World

namespace Lock

inductive Call where
  | acquire (key : CompositeKey) (lifetime : Nat)
  | release (token : LockToken)

inductive Returned where
  | acquired (r : Except Failure (Option LockToken))
  | released (r : Except Failure Bool)

def Call.key : Call → CompositeKey
  | .acquire key _ => key
  | .release token => token.key

def Call.failed (failure : Failure) : Call → Returned
  | .acquire _ _ => .acquired (.error failure)
  | .release _ => .released (.error failure)

structure Keeper (Q : Type) (R : Q → Type) where
  surroundings : Surroundings Q R
  program : Call → Program Q R Returned
  held : Timestamp → surroundings.State → LockToken → Prop
  -- Whether a call may be refused, which then has no effect.
  refuses : Prop

variable {Q : Type} {R : Q → Type} {keeper : Keeper Q R} {ι : Type} [DecidableEq ι]

def Keeper.Gives (keeper : Keeper Q R) (c : Call) (r wanted : Returned) : Prop :=
  r = wanted ∨ keeper.refuses ∧ ∃ failure, r = c.failed failure

def Apart (calls : ι → Call) (token : LockToken) : Prop :=
  ∀ i other, calls i = .release other → other.holder = token.holder → other = token

section

variable (keeper) (calls : ι → Call) (w₀ w : World keeper.surroundings ι Returned)
  (token : LockToken)

structure InTerm : Prop where
  granted : ∃ i v v', World.Reaches w₀ v ∧ World.Returns v v' i (.acquired (.ok (some token))) ∧
    World.Reaches v' w ∧ ∀ j u u', World.Reaches v' u →
      World.Returns u u' j (.released (.ok true)) → World.Reaches u' w → calls j ≠ .release token
  early : ∃ end_, token.expiresAt? = some end_ ∧ w.now < end_

structure Excludes : Prop where
  held : keeper.held w.now w.state token
  acquire : ∀ i lifetime u r, calls i = .acquire token.key lifetime → World.Returns w u i r →
    keeper.Gives (calls i) r (.acquired (.ok none)) ∧ keeper.held u.now u.state token
  release : ∀ i other u r, calls i = .release other → other.key = token.key → other ≠ token →
    World.Returns w u i r →
    keeper.Gives (calls i) r (.released (.ok false)) ∧ keeper.held u.now u.state token
  elsewhere : ∀ i u r, (calls i).key ≠ token.key → World.Returns w u i r →
    keeper.held u.now u.state token
  own : ∀ i u r, calls i = .release token → World.Returns w u i r →
    keeper.Gives (calls i) r (.released (.ok true))
  answered : ∀ i, (calls i).key = token.key →
    ∃ u r, World.Reaches w u ∧ u.now = w.now ∧ u.tasks i = .done r

structure Laws (kept : keeper.surroundings.State → LockToken → Prop) : Prop where
  grant : ∀ {v w i token}, World.Reaches w₀ v →
    World.Returns v w i (.acquired (.ok (some token))) → kept w.state token
  keep : ∀ {v w token end_}, World.Reaches w₀ v → World.Step v w → Apart calls token →
    token.expiresAt? = some end_ → v.now < end_ → kept v.state token →
    kept w.state token ∨
      ∃ j, calls j = .release token ∧ World.Returns v w j (.released (.ok true))
  held : ∀ {v token end_}, World.Reaches w₀ v → token.expiresAt? = some end_ → v.now < end_ →
    kept v.state token → keeper.held v.now v.state token
  acquire : ∀ {v w i token end_ lifetime r}, World.Reaches w₀ v → World.Returns v w i r →
    token.expiresAt? = some end_ → v.now < end_ → kept v.state token →
    calls i = .acquire token.key lifetime → keeper.Gives (calls i) r (.acquired (.ok none))
  release : ∀ {v w i token end_ other r}, World.Reaches w₀ v → World.Returns v w i r →
    token.expiresAt? = some end_ → v.now < end_ → kept v.state token →
    calls i = .release other → other.key = token.key →
    keeper.Gives (calls i) r (.released (.ok (decide (other.holder = token.holder))))
  answered : ∀ {v i token end_}, World.Reaches w₀ v → token.expiresAt? = some end_ → v.now < end_ →
    kept v.state token → (calls i).key = token.key →
    ∃ u r, World.Reaches v u ∧ u.now = v.now ∧ u.tasks i = .done r

end

namespace Laws

variable {calls : ι → Call} {w₀ w : World keeper.surroundings ι Returned}
  {kept : keeper.surroundings.State → LockToken → Prop} {token : LockToken}

theorem kept_of_inTerm (laws : Laws keeper calls w₀ kept) (apart : Apart calls token)
    (term : InTerm keeper calls w₀ w token) : World.Reaches w₀ w ∧ kept w.state token := by
  obtain ⟨⟨i, v, v', before, grant, after, unreleased⟩, end_, ends, early⟩ := term
  have reached := before.tail grant.step
  -- Along the way the end is to come and no release has succeeded, since both hold at the last step.
  have along (u : World keeper.surroundings ι Returned) (run : World.Reaches v' u) :
      World.Reaches u w → kept u.state token := by
    induction run with
    | refl =>
      intro _
      exact laws.grant before grant
    | @tail x u run step ih =>
      intro rest
      have earlyThen : x.now < end_ :=
        lt_of_le_of_lt (World.Reaches.now_le (.head step rest)) early
      rcases laws.keep (reached.trans run) step apart ends earlyThen (ih (.head step rest)) with
        stays | ⟨j, own, released⟩
      · exact stays
      · exact absurd own (unreleased j x u run released rest)
  exact ⟨reached.trans after, along w after .refl⟩

theorem excludes (laws : Laws keeper calls w₀ kept) (apart : Apart calls token)
    (term : InTerm keeper calls w₀ w token) : Excludes keeper calls w token := by
  obtain ⟨run, here⟩ := laws.kept_of_inTerm apart term
  obtain ⟨end_, ends, early⟩ := term.early
  have stays {i : ι} {u : World keeper.surroundings ι Returned} {r : Returned}
      (returns : World.Returns w u i r) (foreign : calls i ≠ .release token) :
      keeper.held u.now u.state token := by
    have keptThen : kept u.state token := by
      rcases laws.keep run returns.step apart ends early here with stays | ⟨j, own, released⟩
      · exact stays
      · rw [returns.task_eq released] at foreign
        exact absurd own foreign
    refine laws.held (run.tail returns.step) ends ?_ keptThen
    rwa [returns.now_eq]
  constructor
  · exact laws.held run ends early here
  · intro i lifetime u r call returns
    refine ⟨laws.acquire run returns ends early here call, stays returns ?_⟩
    rw [call]
    nofun
  · intro i other u r call key differ returns
    have holders : other.holder ≠ token.holder := fun same => differ (apart i other call same)
    have gives := laws.release run returns ends early here call key
    rw [decide_eq_false holders] at gives
    refine ⟨gives, stays returns ?_⟩
    rw [call]
    rintro ⟨⟩
    exact differ rfl
  · intro i u r foreign returns
    apply stays returns
    intro call
    rw [call] at foreign
    exact foreign rfl
  · intro i u r call returns
    have gives := laws.release run returns ends early here call rfl
    rwa [decide_eq_true rfl] at gives
  · intro i key
    exact laws.answered run ends early here key

end Laws

end Lock

end OncePerKey
