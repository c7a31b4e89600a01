import OncePerKey.Proofs.Redis.Discard

set_option autoImplicit false

namespace OncePerKey.Redis

variable {ι : Type} [DecidableEq ι] {space : String} {calls : ι → Call}
  {w₀ v v' w : World overServer ι Returned} {name : String}

def stageOf (space : String) (c : Call) (i : ι) (history : List (Exchange ι Ask Ask.Answer)) : Stage :=
  (stages space c).stage (.start c) i history

section

variable (starts : w₀.Starts fun i => (calls i).program space)
include starts

theorem may_stage (run : World.Reaches w₀ w) {i : ι} {q : Ask} {next : q.Answer → Talking Returned}
    (asks : w.tasks i = .ask q next) :
    (stages space (calls i)).may (stageOf space (calls i) i w.history) q :=
  World.may_of_ask starts (program_stages space (calls i)) run asks

theorem question_of_happened {e : Exchange ι Ask Ask.Answer} (happened : World.Happened w₀ w e v v')
    (other : ∀ note, e.question ≠ .report note) :
    (stageOf space (calls e.task) e.task v.history).question space (calls e.task) =
      some e.question := by
  obtain ⟨next, asks⟩ := happened.asks
  rcases may_stage starts happened.before asks with ⟨note, same⟩ | asked
  · exact absurd same (other note)
  · exact asked

theorem move_of_happened {e : Exchange ι Ask Ask.Answer} (happened : World.Happened w₀ w e v v') :
    Move space (calls e.task) (stageOf space (calls e.task) e.task v.history) e.question e.answer
      (stageOf space (calls e.task) e.task v'.history) := by
  obtain ⟨i, time, q, r⟩ := e
  obtain ⟨next, asks⟩ := happened.asks
  rw [happened.history, stageOf, stageOf, Discipline.stage_cons_self]
  exact .of_may (may_stage starts happened.before asks) r

-- What is left of a call goes on from its stage.
theorem left_obeys (run : World.Reaches w₀ w) (i : ι) :
    (w.tasks i).Obeys (stages space (calls i)) (fun s r => s = .ended r)
      (stageOf space (calls i) i w.history) :=
  World.obeys_stage starts (program_stages space (calls i)) run

theorem suits_of_reaches (run : World.Reaches w₀ w) (i : ι) :
    (stageOf space (calls i) i w.history).Suits (calls i) :=
  World.stage_induction starts (program_stages space (calls i))
    (P := fun _ s => s.Suits (calls i)) (suits_start _) (fun _ _ _ _ _ suits => suits)
    (fun _ _ _ r _ _ _ _ may suits => (Move.of_may may r).suits suits) run

theorem cause_of_stageOf {i : ι} {p : Stage → Prop} {P : World overServer ι Returned → Prop}
    (first : ¬ p (.start (calls i))) (lasts : ∀ u v, World.Step u v → P u → P v)
    (answer : ∀ v q next r s s', World.Reaches w₀ v → v.tasks i = .ask q next →
      overServer.answers v.now v.state q r s →
      Move space (calls i) (stageOf space (calls i) i v.history) q r s' → p s' →
      p (stageOf space (calls i) i v.history) ∨ P (v.answered i q r (next r) s))
    (run : World.Reaches w₀ w) (shows : p (stageOf space (calls i) i w.history)) : P w :=
  World.cause_of_stage starts (program_stages space (calls i)) first lasts
    (fun v q next r s run asks answers may =>
      answer v q next r s _ run asks answers (.of_may may r)) run shows

theorem clock_of_taken (run : World.Reaches w₀ w) {i : ι} {taken : Timestamp}
    (shows : (stageOf space (calls i) i w.history).taken? = some taken) :
    ∃ time, ⟨i, time, .now, taken⟩ ∈ w.history := by
  refine cause_of_stageOf (p := fun s => s.taken? = some taken)
    (P := fun w => ∃ time, (⟨i, time, .now, taken⟩ : Exchange ι Ask Ask.Answer) ∈ w.history)
    starts ?_ ?_ ?_ run shows
  · cases calls i <;> simp [Stage.start, Stage.taken?]
  · rintro u v step ⟨time, shown⟩
    exact ⟨time, step.history_suffix.subset shown⟩
  · intro v q next r s s' _ _ _ move shows
    rcases move.taken? shows with before | same
    · exact .inl before
    · cases same
      exact .inr ⟨v.now, List.mem_cons_self⟩

theorem setter_of_happened {i : ι} {text : String} {px : Nat} {r : Reply}
    (set : World.Happened w₀ w ⟨i, v.now, .send (.setAbsent name text px), r⟩ v v') :
    ∃ key response taken time, calls i = .set key response ∧ name = responseName space key ∧
      text = Cached.codec.render response ∧ px = (millis response taken).toNat ∧
      0 < millis response taken ∧ ⟨i, time, .now, taken⟩ ∈ v.history := by
  have asked := question_of_happened starts set nofun
  have suits := suits_of_reaches starts set.before i
  have shown (taken : Timestamp)
      (shows : (stageOf space (calls i) i v.history).taken? = some taken) :
      ∃ time, ⟨i, time, .now, taken⟩ ∈ v.history :=
    clock_of_taken starts set.before shows
  simp only at asked
  generalize stageOf space (calls i) i v.history = stage at asked suits shown
  generalize calls i = c at asked suits
  cases stage with
  | setting round =>
    cases c with
    | get => exact suits.elim
    | set key response =>
      cases asked
      obtain ⟨time, shown⟩ := shown round.taken rfl
      exact ⟨key, response, round.taken, time, rfl, rfl, rfl, rfl, suits, shown⟩
  | _ => exact nomatch asked

end

def IsSet (w₀ w : World overServer ι Returned) (name : String) (entry : Entry) : Prop :=
  ∃ u u' i text px,
    World.Happened w₀ w ⟨i, u.now, .send (.setAbsent name text px), Reply.okay⟩ u u' ∧
      entry = ⟨Utf8.encode text, some (u.now.toNanos + px * 1000000)⟩

theorem IsSet.mono {entry : Entry} (set : IsSet w₀ v name entry) (run : World.Reaches v w) :
    IsSet w₀ w name entry := by
  obtain ⟨u, u', i, text, px, happened, same⟩ := set
  exact ⟨u, u', i, text, px, happened.mono run, same⟩

theorem origin_of_lookup {entry : Entry} (run : World.Reaches w₀ w)
    (there : w.state.entries.lookup name = some entry) :
    w₀.state.entries.lookup name = some entry ∨ IsSet w₀ w name entry := by
  induction run with
  | refl => exact .inl there
  | @tail v w run step ih =>
    have before (kept : v.state.entries.lookup name = some entry) :
        w₀.state.entries.lookup name = some entry ∨ IsSet w₀ w name entry :=
      (ih kept).imp_right (·.mono (.single step))
    cases step with
    | pass => exact before there
    | change s changes => exact changes.elim
    | answer i q next r s asks answers =>
      have happened := World.happened_of_answer run asks answers
      cases q with
      | now | newHolder | connect | report =>
        cases answers
        exact before there
      | send c =>
        rcases answers with ⟨answer, rfl⟩ | ⟨line, -, rfl⟩
        · rcases Server.lookup_of_run there with kept | ⟨text, px, rfl, okay, same⟩
          · exact before kept
          · cases answer.trans okay
            exact .inr ⟨v, _, i, text, px, happened, same⟩
        · exact before there

end OncePerKey.Redis
