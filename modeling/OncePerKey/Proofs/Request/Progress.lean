import OncePerKey.Proofs.Request.Replay

set_option autoImplicit false

namespace OncePerKey

def Coordinator.AnswersReleases (locks : Coordinator) : Prop :=
  ∀ now l token, ∃ r l', locks.releases now l token r l'

theorem Coordinator.memory_answersReleases : Coordinator.memory.AnswersReleases := by
  intro now l token
  exact ⟨_, _, rfl, rfl⟩

namespace Request

open Call (times)

-- From all moments between two, a response that is stored lives to an end that has a date.
def Context.Dated (c : Context) (first last : Timestamp) : Prop :=
  ∀ t, first ≤ t → t ≤ last → t.plus? (c.policy.expirationSecs.toNat * nanosPerSecond) ≠ none

section

variable {locks : Coordinator} {ι : Type} [DecidableEq ι] {contexts : ι → Context}
  {requests : ι → Request} {w₀ w : World (overMemory locks) ι (Except Failure Outcome)} {i : ι} {q : Ask}
  {next : q.Answer → Handling (Except Failure Outcome)}

theorem not_sawTooLate (begun : w₀.history = []) (run : World.Reaches w₀ w)
    (dated : (contexts i).Dated w₀.now w.now) : ¬ SawTooLate (contexts i) i w.history := by
  rintro ⟨time, now, shown, beyond⟩
  obtain ⟨v, v', happened⟩ := World.happened_of_mem begun run shown
  obtain ⟨rfl, -⟩ := happened.answers
  exact dated v.now happened.before.now_le happened.rest.now_le beyond

theorem exists_answer_of_ran (starts : w₀.Starts fun i => execute (contexts i) (requests i))
    (run : World.Reaches w₀ w) (valid : (contexts i).policy.Valid) (releases : locks.AnswersReleases)
    (dated : (contexts i).Dated w₀.now w.now) (ran : times .operate (calls i w.history) ≠ 0)
    (asks : w.tasks i = .ask q next) : ∃ r s, (overMemory locks).answers w.now w.state q r s := by
  have ledger := ledger_of_reaches starts run i
  rcases question_of_ask starts rfl run asks with ⟨note, rfl⟩ | question
  · exact ⟨(), w.state, rfl⟩
  · generalize stageOf (contexts i) (requests i) i w.history = stage at question ledger
    cases stage with
    | looking | missed | holding | waiting | polling | ready => exact absurd (ledger.idle rfl) ran
    | ran guard captured lifetime =>
      cases question
      exact ⟨w.now, w.state, rfl, rfl⟩
    | writing guard captured cached =>
      cases question
      exact ⟨_, _, rfl, rfl⟩
    | leaving token result =>
      cases question
      obtain ⟨r, l, answers⟩ := releases w.now w.state.locks token
      exact ⟨r, _, l, answers, rfl⟩
    | stuck guard =>
      cases question
      exact absurd (sawTooLate_of_abort starts run valid asks) (not_sawTooLate starts.2 run dated)
    | finished => cases question

theorem Finds.asks_lookup {c : Context} {r : Request} {key : CompositeKey} {response : Cached} {s : Stage}
    {calls : List Call} (finds : Finds c r response s calls) (question : s.question c key = some q) :
    q = .lookup key := by
  cases finds with
  | before =>
    cases question
    rfl
  | found => cases question

theorem exists_answer_of_finds (starts : w₀.Starts fun i => execute (contexts i) (requests i))
    (run : World.Reaches w₀ w) {response : Cached} {calls : List Call}
    (finds : Finds (contexts i) (requests i) response (stageOf (contexts i) (requests i) i w.history) calls)
    (asks : w.tasks i = .ask q next) : ∃ r s, (overMemory locks).answers w.now w.state q r s := by
  rcases question_of_ask starts rfl run asks with ⟨note, rfl⟩ | question
  · exact ⟨(), w.state, rfl⟩
  · obtain rfl := finds.asks_lookup question
    exact ⟨_, _, rfl, rfl⟩

end

end Request

end OncePerKey
