import OncePerKey.Proofs.Request.Shared

set_option autoImplicit false

namespace OncePerKey.Request

structure Write where
  time : Timestamp
  key : CompositeKey
  response : Cached

section

variable {ι : Type}

def writeOf : Exchange ι Ask Ask.Answer → Option Write
  | ⟨_, time, .write key response, .ok .written⟩ => some ⟨time, key, response⟩
  | _ => none

-- The writes of a history that stored their responses, the last one first.
def writes (history : List (Exchange ι Ask Ask.Answer)) : List Write :=
  history.filterMap writeOf

theorem mem_writes {history : List (Exchange ι Ask Ask.Answer)} {x : Write} :
    x ∈ writes history ↔ ∃ e ∈ history, writeOf e = some x :=
  List.mem_filterMap

theorem writes_cons_of_none {e : Exchange ι Ask Ask.Answer} (nothing : writeOf e = none)
    (history : List (Exchange ι Ask Ask.Answer)) : writes (e :: history) = writes history :=
  List.filterMap_cons_none nothing

theorem writes_cons_of_some {e : Exchange ι Ask Ask.Answer} {x : Write} (stored : writeOf e = some x)
    (history : List (Exchange ι Ask Ask.Answer)) : writes (e :: history) = x :: writes history :=
  List.filterMap_cons_some stored

theorem eq_of_writeOf {i : ι} {time : Timestamp} {key : CompositeKey} {response : Cached}
    {r : Except Failure WriteOutcome} {x : Write}
    (stored : writeOf ⟨i, time, .write key response, r⟩ = some x) : x = ⟨time, key, response⟩ := by
  match r with
  | .ok .written =>
    cases stored
    rfl
  | .ok (.alreadyExists _) | .error _ => exact nomatch stored

theorem answer_of_writeOf {i : ι} {time : Timestamp} {key : CompositeKey} {response : Cached}
    {r : Except Failure WriteOutcome} {x : Write}
    (stored : writeOf ⟨i, time, .write key response, r⟩ = some x) : r = .ok .written := by
  match r with
  | .ok .written => rfl
  | .ok (.alreadyExists _) | .error _ => exact nomatch stored

theorem question_of_writeOf {i : ι} {time : Timestamp} {q : Ask} {r : q.Answer} {x : Write}
    (stored : writeOf (⟨i, time, q, r⟩ : Exchange ι Ask Ask.Answer) = some x) :
    q = .write x.key x.response := by
  cases q with
  | write key response =>
    cases eq_of_writeOf stored
    rfl
  | _ => exact nomatch stored

theorem writes_mono {earlier later : List (Exchange ι Ask Ask.Answer)} (grows : earlier <:+ later)
    {x : Write} (present : x ∈ writes earlier) : x ∈ writes later := by
  obtain ⟨e, old, stored⟩ := mem_writes.1 present
  exact mem_writes.2 ⟨e, grows.subset old, stored⟩

end

section

variable {locks : Coordinator} {ι : Type}

theorem Shared.store_cases {now : Timestamp} {s s' : Shared locks} {q : Ask} {r : q.Answer} (i : ι)
    (answers : s.answers now q r s') :
    (writeOf ⟨i, now, q, r⟩ = none ∧ s'.store = s.store ∧
        ∀ key response, q = .write key response → ∃ existing, s.store.get now key = some existing) ∨
      ∃ x, writeOf ⟨i, now, q, r⟩ = some x ∧ x.time = now ∧ s.store.get now x.key = none ∧
        s'.store = s.store.put x.key x.response := by
  cases q with
  | write key response =>
    obtain ⟨rfl, rfl⟩ := answers
    cases found : s.store.get now key with
    | none =>
      rw [MemoryStore.set_of_get_eq_none found]
      exact .inr ⟨⟨now, key, response⟩, rfl, rfl, found, rfl⟩
    | some existing =>
      rw [MemoryStore.set_of_get_eq_some found]
      refine .inl ⟨rfl, rfl, ?_⟩
      rintro _ _ ⟨⟩
      exact ⟨existing, found⟩
  | lookup | now =>
    rw [answers.2]
    exact .inl ⟨rfl, rfl, fun _ _ same => nomatch same⟩
  | sleep | operate | report =>
    rw [show s' = s from answers]
    exact .inl ⟨rfl, rfl, fun _ _ same => nomatch same⟩
  | acquire | release =>
    obtain ⟨l, _, rfl⟩ := answers
    exact .inl ⟨rfl, rfl, fun _ _ same => nomatch same⟩
  | abort => exact answers.elim

variable [DecidableEq ι] {w₀ v w : World (overMemory locks) ι (Except Failure Outcome)}
  {key : CompositeKey} {cached : Cached}

theorem get_of_step (step : World.Step v w) (there : v.state.store.get v.now key = some cached)
    (live : w.now < cached.expiresAt) : w.state.store.get w.now key = some cached := by
  have kept := (MemoryStore.get_eq_some_iff.1 there).1
  cases step with
  | pass => exact MemoryStore.get_eq_some_iff.2 ⟨kept, live⟩
  | change s swept =>
    exact (Shared.get_of_swept swept key).trans there
  | answer i q next r s asks answers =>
    rcases Shared.store_cases i answers with ⟨-, same, -⟩ | ⟨x, -, -, free, stored⟩
    · rwa [World.answered_state, same]
    -- The key of a write is free, so it is another one.
    · have elsewhere : key ≠ x.key := by
        rintro rfl
        exact nomatch free.symm.trans there
      rw [World.answered_state, stored]
      refine MemoryStore.get_eq_some_iff.2 ⟨?_, live⟩
      rw [MemoryStore.kept?_put_of_ne elsewhere]
      exact kept

theorem get_of_reaches (run : World.Reaches v w)
    (there : v.state.store.get v.now key = some cached) (live : w.now < cached.expiresAt) :
    w.state.store.get w.now key = some cached := by
  induction run with
  | refl => exact there
  | tail _ step ih => exact get_of_step step (ih (lt_of_le_of_lt step.now_le live)) live

theorem get_of_written (begun : w₀.history = []) (run : World.Reaches w₀ w) {x : Write}
    (present : x ∈ writes w.history) (live : w.now < x.response.expiresAt) :
    w.state.store.get w.now x.key = some x.response := by
  obtain ⟨e, present, stored⟩ := mem_writes.1 present
  obtain ⟨v, v', happened⟩ := World.happened_of_mem begun run present
  refine get_of_reaches happened.after ?_ live
  obtain ⟨i, time, q, r⟩ := e
  obtain rfl : time = v.now := happened.time
  rcases Shared.store_cases i happened.answers with ⟨nothing, -, -⟩ | ⟨y, written, -, -, put⟩
  · exact nomatch nothing.symm.trans stored
  · obtain rfl : y = x := Option.some.inj (written.symm.trans stored)
    rw [put]
    refine MemoryStore.get_eq_some_iff.2 ⟨?_, lt_of_le_of_lt happened.after.now_le live⟩
    rw [MemoryStore.kept?_put_self]

theorem origin_of_kept (run : World.Reaches w₀ w)
    (kept : w.state.store.kept? key = some cached) :
    (∃ x ∈ writes w.history, x.key = key ∧ x.response = cached) ∨
      w₀.state.store.kept? key = some cached := by
  induction run with
  | refl => exact .inr kept
  | @tail v w _ step ih =>
    cases step with
    | pass => exact ih kept
    | change s swept =>
      exact ih (Shared.kept?_of_swept swept kept)
    | answer i q next r s asks answers =>
      rcases Shared.store_cases i answers with ⟨nothing, same, -⟩ | ⟨x, written, -, -, put⟩
      · rw [World.answered_state, same] at kept
        rw [World.answered_history, writes_cons_of_none nothing]
        exact ih kept
      · rw [World.answered_state, put] at kept
        rw [World.answered_history, writes_cons_of_some written]
        by_cases same : key = x.key
        · subst same
          rw [MemoryStore.kept?_put_self] at kept
          exact .inl ⟨x, List.mem_cons_self, rfl, Option.some.inj kept⟩
        · rw [MemoryStore.kept?_put_of_ne same] at kept
          refine (ih kept).imp_left ?_
          rintro ⟨y, earlier, isKey, isResponse⟩
          exact ⟨y, List.mem_cons_of_mem _ earlier, isKey, isResponse⟩

theorem origin_of_get (run : World.Reaches w₀ w)
    (there : w.state.store.get w.now key = some cached) :
    (∃ x ∈ writes w.history, x.key = key ∧ x.response = cached) ∨
      w₀.state.store.get w₀.now key = some cached := by
  obtain ⟨kept, live⟩ := MemoryStore.get_eq_some_iff.1 there
  refine (origin_of_kept run kept).imp_right fun old => ?_
  exact MemoryStore.get_eq_some_iff.2 ⟨old, lt_of_le_of_lt run.now_le live⟩

end

end OncePerKey.Request
