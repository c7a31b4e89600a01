import Mathlib.Logic.Function.Basic
import Mathlib.Logic.Relation
import OncePerKey.Program
import OncePerKey.Proofs.Moment

set_option autoImplicit false

namespace OncePerKey

structure Surroundings (Q : Type) (R : Q → Type) where
  State : Type
  answers : Timestamp → State → (q : Q) → R q → State → Prop
  -- What happens without being asked for.
  changes : Timestamp → State → State → Prop := fun _ _ _ => False
  -- The moments that the clock can show.
  shows : Timestamp → Prop := fun _ => True

inductive Surroundings.Turns {Q : Type} {R : Q → Type} (S : Surroundings Q R) : S.State → S.State → Prop
    where
  | answer {now : Timestamp} {s s' : S.State} (q : Q) (r : R q) (answers : S.answers now s q r s') :
      Turns S s s'
  | change {now : Timestamp} {s s' : S.State} (changes : S.changes now s s') : Turns S s s'

structure Exchange (ι Q : Type) (R : Q → Type) where
  task : ι
  time : Timestamp
  question : Q
  answer : R question

variable {Q : Type} {R : Q → Type} {S : Surroundings Q R} {ι α : Type}

structure World (S : Surroundings Q R) (ι α : Type) where
  now : Timestamp
  state : S.State
  tasks : ι → Program Q R α
  history : List (Exchange ι Q R)

namespace World

def Starts (w : World S ι α) (programs : ι → Program Q R α) : Prop :=
  w.tasks = programs ∧ w.history = []

variable [DecidableEq ι]

def answered (w : World S ι α) (i : ι) (q : Q) (r : R q) (rest : Program Q R α) (s : S.State) :
    World S ι α :=
  { w with state := s, tasks := Function.update w.tasks i rest
           history := ⟨i, w.now, q, r⟩ :: w.history }

section

variable (w : World S ι α) (i : ι) (q : Q) (r : R q) (rest : Program Q R α) (s : S.State)

@[simp] theorem answered_now : (w.answered i q r rest s).now = w.now := rfl

@[simp] theorem answered_state : (w.answered i q r rest s).state = s := rfl

@[simp] theorem answered_history :
    (w.answered i q r rest s).history = ⟨i, w.now, q, r⟩ :: w.history := rfl

@[simp] theorem answered_tasks_self : (w.answered i q r rest s).tasks i = rest := by
  simp [answered]

theorem answered_tasks_of_ne {j : ι} (other : j ≠ i) :
    (w.answered i q r rest s).tasks j = w.tasks j := by
  simp [answered, other]

end

inductive Step : World S ι α → World S ι α → Prop where
  | pass (w : World S ι α) (later : Timestamp) (order : w.now ≤ later) (shown : S.shows later) :
      Step w { w with now := later }
  | change (w : World S ι α) (s : S.State) (changes : S.changes w.now w.state s) :
      Step w { w with state := s }
  | answer (w : World S ι α) (i : ι) (q : Q) (next : R q → Program Q R α) (r : R q) (s : S.State)
      (asks : w.tasks i = .ask q next) (answers : S.answers w.now w.state q r s) :
      Step w (w.answered i q r (next r) s)

abbrev Reaches : World S ι α → World S ι α → Prop :=
  Relation.ReflTransGen Step

structure Happened (w₀ w : World S ι α) (e : Exchange ι Q R) (v v' : World S ι α) : Prop where
  before : Reaches w₀ v
  step : Step v v'
  after : Reaches v' w
  asks : ∃ next, v.tasks e.task = .ask e.question next
  answers : S.answers v.now v.state e.question e.answer v'.state
  time : e.time = v.now
  now : v'.now = v.now
  history : v'.history = e :: v.history

variable {v v' w w₀ : World S ι α}

theorem Step.now_le (step : Step v w) : v.now ≤ w.now := by
  cases step with
  | pass later order => exact order
  | change => exact le_refl _
  | answer => exact le_refl _

theorem Reaches.now_le (run : Reaches v w) : v.now ≤ w.now := by
  induction run with
  | refl => exact le_refl _
  | tail _ step ih => exact le_trans ih step.now_le

theorem Step.history_suffix (step : Step v w) : v.history <:+ w.history := by
  cases step with
  | pass => exact List.suffix_refl _
  | change => exact List.suffix_refl _
  | answer => exact List.suffix_cons _ _

theorem Reaches.history_suffix (run : Reaches v w) : v.history <:+ w.history := by
  induction run with
  | refl => exact List.suffix_refl _
  | tail _ step ih => exact ih.trans step.history_suffix

theorem Reaches.state_induction {P : S.State → Prop} (kept : ∀ s s', S.Turns s s' → P s → P s')
    (run : Reaches v w) (first : P v.state) : P w.state := by
  induction run with
  | refl => exact first
  | tail _ step ih =>
    cases step with
    | pass => exact ih
    | change s changes => exact kept _ _ (.change changes) ih
    | answer i q next r s asks answers => exact kept _ _ (.answer q r answers) ih

theorem Happened.mono {e : Exchange ι Q R} {u : World S ι α} (happened : Happened w₀ w e v v')
    (run : Reaches w u) : Happened w₀ u e v v' :=
  { happened with after := happened.after.trans run }

theorem Happened.reaches {e : Exchange ι Q R} (happened : Happened w₀ w e v v') : Reaches w₀ v' :=
  happened.before.tail happened.step

theorem Happened.rest {e : Exchange ι Q R} (happened : Happened w₀ w e v v') : Reaches v w :=
  .head happened.step happened.after

theorem happened_of_answer (run : Reaches w₀ v) {i : ι} {q : Q} {next : R q → Program Q R α}
    {r : R q} {s : S.State} (asks : v.tasks i = .ask q next)
    (answers : S.answers v.now v.state q r s) :
    Happened w₀ (v.answered i q r (next r) s) ⟨i, v.now, q, r⟩ v (v.answered i q r (next r) s) where
  before := run
  step := .answer v i q next r s asks answers
  after := .refl
  asks := ⟨next, asks⟩
  answers := answers
  time := rfl
  now := rfl
  history := rfl

theorem happened_of_mem (begun : w₀.history = []) (run : Reaches w₀ w) {e : Exchange ι Q R}
    (present : e ∈ w.history) : ∃ v v', Happened w₀ w e v v' := by
  induction run with
  | refl => simp [begun] at present
  | @tail u w run step ih =>
    have earlier (old : e ∈ u.history) : ∃ v v', Happened w₀ w e v v' := by
      obtain ⟨v, v', happened⟩ := ih old
      exact ⟨v, v', happened.mono (.single step)⟩
    cases step with
    | pass => exact earlier present
    | change => exact earlier present
    | answer i q next r s asks answers =>
      rcases List.mem_cons.1 present with rfl | old
      · exact ⟨u, _, happened_of_answer run asks answers⟩
      · exact earlier old

theorem mem_or_now_le (run : Reaches v w) {e : Exchange ι Q R} (present : e ∈ w.history) :
    e ∈ v.history ∨ v.now ≤ e.time := by
  induction run with
  | refl => exact .inl present
  | @tail u w run step ih =>
    cases step with
    | pass => exact ih present
    | change => exact ih present
    | answer i q next r s asks answers =>
      rcases List.mem_cons.1 present with rfl | old
      · exact .inr (Reaches.now_le run)
      · exact ih old

theorem Happened.total {u u' : World S ι α} {e f : Exchange ι Q R} (he : Happened w₀ w e v v')
    (hf : Happened w₀ w f u u') (differ : e ≠ f) : e ∈ u.history ∨ f ∈ v.history := by
  have first := he.after.history_suffix
  have second := hf.after.history_suffix
  rw [he.history] at first
  rw [hf.history] at second
  -- Both pasts are ends of one history, so one of them is an end of the other.
  rcases List.suffix_or_suffix_of_suffix first second with inside | inside
  · rcases List.suffix_cons_iff.1 inside with same | inside
    · exact absurd (List.cons.inj same).1 differ
    · exact .inl (inside.subset List.mem_cons_self)
  · rcases List.suffix_cons_iff.1 inside with same | inside
    · exact absurd (List.cons.inj same).1.symm differ
    · exact .inr (inside.subset List.mem_cons_self)

theorem exists_done {i : ι} (answerable : ∀ u q next, Reaches w u → u.now = w.now →
    u.tasks i = .ask q next → ∃ r s, S.answers u.now u.state q r s) :
    ∃ u a, Reaches w u ∧ u.now = w.now ∧ u.tasks i = .done a := by
  induction left : w.tasks i generalizing w with
  | done a => exact ⟨w, a, .refl, rfl, left⟩
  | ask q next ih =>
    obtain ⟨r, s, answers⟩ := answerable w q next .refl rfl left
    have first : Step w (w.answered i q r (next r) s) := .answer w i q next r s left answers
    obtain ⟨u, a, run, still, ended⟩ := ih r (w := w.answered i q r (next r) s)
      (fun u q next run still => answerable u q next (.head first run) still)
      (answered_tasks_self w i q r (next r) s)
    exact ⟨u, a, .head first run, still, ended⟩

theorem time_le_of_mem (begun : w₀.history = []) (run : Reaches w₀ w) {e : Exchange ι Q R}
    (present : e ∈ w.history) : e.time ≤ w.now := by
  obtain ⟨v, v', happened⟩ := happened_of_mem begun run present
  rw [happened.time]
  exact happened.rest.now_le

theorem pairwise_time (begun : w₀.history = []) (run : Reaches w₀ w) :
    w.history.Pairwise fun later earlier => earlier.time ≤ later.time := by
  induction run with
  | refl => simp [begun]
  | @tail v w run step ih =>
    cases step with
    | pass => exact ih
    | change => exact ih
    | answer i q next r s =>
      exact List.pairwise_cons.2 ⟨fun e old => time_le_of_mem begun run old, ih⟩

theorem pairwise_filterMap {β : Type} (shows : Exchange ι Q R → Option β) {rel : β → β → Prop}
    (begun : w₀.history = []) (run : Reaches w₀ w)
    (related : ∀ e v v' x, Happened w₀ w e v v' → shows e = some x →
      ∀ y ∈ v.history.filterMap shows, rel x y) :
    (w.history.filterMap shows).Pairwise rel := by
  induction run with
  | refl => simp [begun]
  | @tail v w run step ih =>
    have before := ih fun e u u' x happened => related e u u' x (happened.mono (.single step))
    cases step with
    | pass => exact before
    | change => exact before
    | answer i q next r s asks answers =>
      have happened := happened_of_answer run asks answers
      rw [answered_history]
      cases shown : shows ⟨i, v.now, q, r⟩ with
      | none =>
        rw [List.filterMap_cons_none shown]
        exact before
      | some x =>
        rw [List.filterMap_cons_some shown]
        exact List.pairwise_cons.2 ⟨related _ v _ x happened shown, before⟩

theorem shows_now (shown : S.shows w₀.now) (run : Reaches w₀ w) : S.shows w.now := by
  induction run with
  | refl => exact shown
  | tail _ step ih =>
    cases step with
    | pass later order shown => exact shown
    | change => exact ih
    | answer => exact ih

section

variable (reply : Timestamp → S.State → (q : Q) → Option (R q × S.State))

def advance (w : World S ι α) (i : ι) : World S ι α :=
  match w.tasks i with
  | .done _ => w
  | .ask q next =>
      match reply w.now w.state q with
      | some (r, s) => w.answered i q r (next r) s
      | none => w

def play (w : World S ι α) (order : List ι) : World S ι α :=
  order.foldl (advance reply) w

@[simp] theorem advance_now (w : World S ι α) (i : ι) : (w.advance reply i).now = w.now := by
  unfold advance
  split
  · rfl
  · split <;> rfl

@[simp] theorem play_now (w : World S ι α) (order : List ι) : (w.play reply order).now = w.now := by
  induction order generalizing w with
  | nil => rfl
  | cons i rest ih => exact (ih (w.advance reply i)).trans (advance_now reply w i)

variable {reply}

theorem reaches_play
    (correct : ∀ now s q r s', reply now s q = some (r, s') → S.answers now s q r s')
    (w : World S ι α) (order : List ι) : Reaches w (w.play reply order) := by
  induction order generalizing w with
  | nil => exact .refl
  | cons i rest ih =>
    have first : Reaches w (w.advance reply i) := by
      unfold advance
      split
      · exact .refl
      · rename_i q next asks
        split
        · rename_i r s replied
          exact .single (.answer w i q next r s asks (correct _ _ _ _ _ replied))
        · exact .refl
    exact first.trans (ih _)

theorem happened_of_advance
    (correct : ∀ now s q r s', reply now s q = some (r, s') → S.answers now s q r s')
    (run : Reaches w₀ w) {i : ι} {q : Q} {next : R q → Program Q R α} {r : R q} {s : S.State}
    (asks : w.tasks i = .ask q next) (replied : reply w.now w.state q = some (r, s)) :
    Happened w₀ (w.advance reply i) ⟨i, w.now, q, r⟩ w (w.advance reply i) := by
  have moved : w.advance reply i = w.answered i q r (next r) s := by
    simp only [advance, asks, replied]
  rw [moved]
  exact happened_of_answer run asks (correct _ _ _ _ _ replied)

end

end World

end OncePerKey
