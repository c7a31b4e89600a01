import OncePerKey.Proofs.World

set_option autoImplicit false

namespace OncePerKey

structure Discipline (Q : Type) (R : Q → Type) (σ : Type) where
  may : σ → Q → Prop
  after : σ → (q : Q) → R q → σ

variable {Q : Type} {R : Q → Type} {σ α β ι : Type}

namespace Program

-- The program asks what it may, and ends at a stage that fits its result.
def Obeys (d : Discipline Q R σ) (ends : σ → α → Prop) : Program Q R α → σ → Prop
  | .done a, s => ends s a
  | .ask q next, s => d.may s q ∧ ∀ r, (next r).Obeys d ends (d.after s q r)

variable {d : Discipline Q R σ}

@[simp] theorem obeys_done {ends : σ → α → Prop} {a : α} {s : σ} :
    (done a : Program Q R α).Obeys d ends s ↔ ends s a := Iff.rfl

@[simp] theorem obeys_ask {ends : σ → α → Prop} {q : Q} {next : R q → Program Q R α} {s : σ} :
    (ask q next).Obeys d ends s ↔ d.may s q ∧ ∀ r, (next r).Obeys d ends (d.after s q r) :=
  Iff.rfl

theorem obeys_bind {ends : σ → β → Prop} (p : Program Q R α) (f : α → Program Q R β) (s : σ) :
    (p.bind f).Obeys d ends s ↔ p.Obeys d (fun s a => (f a).Obeys d ends s) s := by
  induction p generalizing s with
  | done a => rfl
  | ask q next ih => simp only [ask_bind, obeys_ask, ih]

theorem Obeys.mono {ends ends' : σ → α → Prop} (weaker : ∀ s a, ends s a → ends' s a)
    {p : Program Q R α} {s : σ} (obeys : p.Obeys d ends s) : p.Obeys d ends' s := by
  induction p generalizing s with
  | done a => exact weaker s a obeys
  | ask q next ih => exact ⟨obeys.1, fun r => ih r (obeys.2 r)⟩

theorem Obeys.simulate {τ : Type} {d : Discipline Q R σ} {d' : Discipline Q R τ}
    {ends : σ → α → Prop} {ends' : τ → α → Prop} (along : σ → τ → Prop)
    (may : ∀ s t q, along s t → d.may s q → d'.may t q)
    (after : ∀ s t q r, along s t → d.may s q → along (d.after s q r) (d'.after t q r))
    (fits : ∀ s t a, along s t → ends s a → ends' t a) {p : Program Q R α} {s : σ} {t : τ}
    (obeys : p.Obeys d ends s) (start : along s t) : p.Obeys d' ends' t := by
  induction p generalizing s t with
  | done a => exact fits s t a start obeys
  | ask q next ih =>
    exact ⟨may s t q start obeys.1, fun r => ih r (obeys.2 r) (after s t q r start obeys.1)⟩

end Program

namespace Discipline

variable [DecidableEq ι]

def stage (d : Discipline Q R σ) (start : σ) (i : ι) : List (Exchange ι Q R) → σ
  | [] => start
  | e :: earlier =>
      if e.task = i then d.after (d.stage start i earlier) e.question e.answer
      else d.stage start i earlier

@[simp] theorem stage_cons_self (d : Discipline Q R σ) (start : σ) (i : ι) (time : Timestamp) (q : Q)
    (r : R q) (earlier : List (Exchange ι Q R)) :
    d.stage start i (⟨i, time, q, r⟩ :: earlier) = d.after (d.stage start i earlier) q r := by
  simp [stage]

theorem stage_cons_of_ne (d : Discipline Q R σ) (start : σ) {i j : ι} (other : j ≠ i)
    (time : Timestamp) (q : Q) (r : R q) (earlier : List (Exchange ι Q R)) :
    d.stage start i (⟨j, time, q, r⟩ :: earlier) = d.stage start i earlier := by
  simp [stage, other]

end Discipline

namespace World

variable {S : Surroundings Q R} [DecidableEq ι] {w₀ w : World S ι α}

theorem obeys_stage {d : Discipline Q R σ} {ends : σ → α → Prop} {start : σ}
    {programs : ι → Program Q R α} (starts : w₀.Starts programs) {i : ι}
    (obeys : (programs i).Obeys d ends start) (run : Reaches w₀ w) :
    (w.tasks i).Obeys d ends (d.stage start i w.history) := by
  induction run with
  | refl =>
    rw [starts.1, starts.2]
    exact obeys
  | @tail v w _ step ih =>
    cases step with
    | pass => exact ih
    | change => exact ih
    | answer j q next r s asks answers =>
      by_cases same : j = i
      · subst same
        rw [asks] at ih
        simpa using ih.2 r
      · rw [answered_tasks_of_ne v j q r (next r) s (Ne.symm same)]
        simpa [Discipline.stage_cons_of_ne _ _ same] using ih

theorem may_of_ask {d : Discipline Q R σ} {ends : σ → α → Prop} {start : σ}
    {programs : ι → Program Q R α} (starts : w₀.Starts programs) {i : ι}
    (obeys : (programs i).Obeys d ends start) (run : Reaches w₀ w) {q : Q}
    {next : R q → Program Q R α} (asks : w.tasks i = .ask q next) :
    d.may (d.stage start i w.history) q := by
  have keeps := obeys_stage starts obeys run
  rw [asks] at keeps
  exact keeps.1

theorem ends_of_done {d : Discipline Q R σ} {ends : σ → α → Prop} {start : σ}
    {programs : ι → Program Q R α} (starts : w₀.Starts programs) {i : ι}
    (obeys : (programs i).Obeys d ends start) (run : Reaches w₀ w) {a : α}
    (ended : w.tasks i = .done a) : ends (d.stage start i w.history) a := by
  have keeps := obeys_stage starts obeys run
  rw [ended] at keeps
  exact keeps

theorem stage_induction {d : Discipline Q R σ} {ends : σ → α → Prop} {start : σ}
    {programs : ι → Program Q R α} (starts : w₀.Starts programs) {i : ι}
    (obeys : (programs i).Obeys d ends start)
    {P : World S ι α → σ → Prop} (first : P w₀ start)
    (others : ∀ u v s, Step u v →
      v.history.filter (·.task = i) = u.history.filter (·.task = i) → P u s → P v s)
    (answer : ∀ v q next r s, Reaches w₀ v → v.tasks i = .ask q next →
      S.answers v.now v.state q r s → d.may (d.stage start i v.history) q →
      P v (d.stage start i v.history) →
      P (v.answered i q r (next r) s) (d.after (d.stage start i v.history) q r))
    (run : Reaches w₀ w) : P w (d.stage start i w.history) := by
  induction run with
  | refl =>
    rw [starts.2]
    exact first
  | @tail v w run step ih =>
    have moved := others v w (d.stage start i v.history) step
    cases step with
    | pass => exact moved rfl ih
    | change => exact moved rfl ih
    | answer j q next r s asks answers =>
      rw [answered_history] at moved ⊢
      by_cases same : j = i
      · subst same
        rw [Discipline.stage_cons_self]
        exact answer v q next r s run asks answers (may_of_ask starts obeys run asks) ih
      · rw [Discipline.stage_cons_of_ne _ _ same]
        exact moved (by simp [same]) ih

theorem cause_of_stage {d : Discipline Q R σ} {ends : σ → α → Prop} {start : σ}
    {programs : ι → Program Q R α} (starts : w₀.Starts programs) {i : ι}
    (obeys : (programs i).Obeys d ends start) {p : σ → Prop}
    {P : World S ι α → Prop} (first : ¬ p start) (lasts : ∀ u v, Step u v → P u → P v)
    (answer : ∀ v q next r s, Reaches w₀ v → v.tasks i = .ask q next →
      S.answers v.now v.state q r s → d.may (d.stage start i v.history) q →
      p (d.after (d.stage start i v.history) q r) →
      p (d.stage start i v.history) ∨ P (v.answered i q r (next r) s))
    (run : Reaches w₀ w) (shows : p (d.stage start i w.history)) : P w := by
  revert shows
  refine stage_induction starts obeys (P := fun w s => p s → P w) ?_ ?_ ?_ run
  · intro shows
    exact absurd shows first
  · intro u v s step _ before shows
    exact lasts u v step (before shows)
  · intro v q next r s run asks answers may before shows
    rcases answer v q next r s run asks answers may shows with old | new
    · exact lasts v _ (.answer v i q next r s asks answers) (before old)
    · exact new

end World

end OncePerKey
