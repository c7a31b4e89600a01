import OncePerKey.Proofs.World

set_option autoImplicit false

namespace OncePerKey

inductive Happening (ι Λ : Type) where
  | pass (later : Timestamp)
  | change
  | answer (task : ι) (choice : Λ)

namespace World

variable {Q : Type} {R : Q → Type} {S : Surroundings Q R} {ι α Λ : Type} [DecidableEq ι]

section

variable (given : Λ → Timestamp → S.State → (q : Q) → R q → S.State → Prop)

inductive Occurs : World S ι α → Happening ι Λ → World S ι α → Prop where
  | pass (w : World S ι α) (later : Timestamp) (order : w.now ≤ later) (shown : S.shows later) :
      Occurs w (.pass later) { w with now := later }
  | change (w : World S ι α) (s : S.State) (changes : S.changes w.now w.state s) :
      Occurs w .change { w with state := s }
  | answer (w : World S ι α) (i : ι) (choice : Λ) (q : Q) (next : R q → Program Q R α) (r : R q)
      (s : S.State) (asks : w.tasks i = .ask q next) (answers : given choice w.now w.state q r s) :
      Occurs w (.answer i choice) (w.answered i q r (next r) s)

inductive Follows (w₀ : World S ι α) : List (Happening ι Λ) → World S ι α → Prop where
  | start : Follows w₀ [] w₀
  | next {tale : List (Happening ι Λ)} {v w : World S ι α} {e : Happening ι Λ}
      (before : Follows w₀ tale v) (occurs : Occurs given v e w) : Follows w₀ (e :: tale) w

end

variable {given : Λ → Timestamp → S.State → (q : Q) → R q → S.State → Prop}
  {w₀ v w : World S ι α} {tale : List (Happening ι Λ)} {e : Happening ι Λ}

theorem Occurs.step
    (sound : ∀ choice now s q r s', given choice now s q r s' → S.answers now s q r s')
    (occurs : Occurs given v e w) : Step v w := by
  cases occurs with
  | pass later order shown => exact .pass v later order shown
  | change s changes => exact .change v s changes
  | answer i choice q next r s asks answers =>
    exact .answer v i q next r s asks (sound _ _ _ _ _ _ answers)

theorem Follows.reaches
    (sound : ∀ choice now s q r s', given choice now s q r s' → S.answers now s q r s')
    (follows : Follows given w₀ tale w) : Reaches w₀ w := by
  induction follows with
  | start => exact .refl
  | next _ occurs ih => exact ih.tail (occurs.step sound)

theorem follows_of_reaches
    (complete : ∀ now s q r s', S.answers now s q r s' → ∃ choice, given choice now s q r s')
    (run : Reaches w₀ w) : ∃ tale, Follows given w₀ tale w := by
  induction run with
  | refl => exact ⟨[], .start⟩
  | @tail v w _ step ih =>
    obtain ⟨tale, before⟩ := ih
    cases step with
    | pass later order shown => exact ⟨_, .next before (.pass v later order shown)⟩
    | change s changes => exact ⟨_, .next before (.change v s changes)⟩
    | answer i q next r s asks answers =>
      obtain ⟨choice, chosen⟩ := complete _ _ _ _ _ answers
      exact ⟨_, .next before (.answer v i choice q next r s asks chosen)⟩

end World

end OncePerKey
