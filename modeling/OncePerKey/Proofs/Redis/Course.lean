import OncePerKey.Proofs.Redis.Stage

set_option autoImplicit false

namespace OncePerKey.Redis

structure Course where
  -- The name whose value was no response and is still to be deleted.
  condemned : Option String := none
  wrote : Option Command := none

def condemnedBy (name : String) (r : Reply) : Option String :=
  match r.text? with
  | .ok (some text) =>
      match Cached.codec.parse text with
      | .ok _ => none
      | .error _ => some name
  | _ => none

def wroteBy (c : Command) (r : Reply) : Option Command :=
  match r.text? with
  | .ok (some _) => some c
  | _ => none

def Course.after (s : Course) : (q : Ask) → q.Answer → Course
  | .send (.get name), r => { s with condemned := condemnedBy name r }
  | .send (.del _), _ => { s with condemned := none }
  | .send (.setAbsent name text px), r => { s with wrote := wroteBy (.setAbsent name text px) r }
  | _, _ => s

def Call.may (space : String) (c : Call) (s : Course) : Ask → Prop
  | .send (.get name) => name = responseName space c.key
  | .send (.setAbsent name text px) =>
      ∃ key response, c = .set key response ∧ name = responseName space key ∧
        text = Cached.codec.render response ∧ 0 < px
  | .send (.del name) => s.condemned = some name
  | .send (.deleteIf _ _) | .send .loadScript | .send .ping | .newHolder => False
  | .now | .connect | .report _ => True

def Call.ends (space : String) (c : Call) (s : Course) (r : Returned) : Prop :=
  r = .set (.ok .written) → ∃ key response px, c = .set key response ∧
    s.wrote = some (.setAbsent (responseName space key) (Cached.codec.render response) px)

def Call.discipline (space : String) (c : Call) : Discipline Ask Ask.Answer Course where
  may := c.may space
  after := Course.after

section

variable {space : String} {c : Call} {s : Stage} {course : Course}

structure Along (space : String) (c : Call) (s : Stage) (course : Course) : Prop where
  suits : s.Suits c
  condemned : ∀ round, s = .discarding round → course.condemned = some (responseName space c.key)
  wrote : s = .ended (.set (.ok .written)) → ∃ key response px, c = .set key response ∧
    course.wrote = some (.setAbsent (responseName space key) (Cached.codec.render response) px)

-- Nothing is to be deleted at the stage, and nothing has been written.
def Stage.IsPlain (s : Stage) : Prop :=
  (∀ round, s ≠ .discarding round) ∧ s ≠ .ended (.set (.ok .written))

theorem plain_attempt (c : Call) (taken : Timestamp) (left : Nat) :
    (Stage.attempt c taken left).IsPlain := by
  cases left <;> simp [Stage.attempt, Stage.IsPlain]

theorem plain_vanished (c : Call) (round : Option Round) : (Stage.vanished c round).IsPlain := by
  cases round with
  | none => simp [Stage.vanished, Stage.IsPlain]
  | some round => exact plain_attempt c _ _

theorem plain_found (response : Cached) (round : Option Round) :
    (Stage.found response round).IsPlain := by
  cases round <;> simp [Stage.found, Stage.IsPlain]

theorem plain_failed (c : Call) (fault : Fault) : (Stage.ended (c.failed fault)).IsPlain := by
  cases c <;> simp [Call.failed, Stage.IsPlain]

theorem Along.of_plain (suits : s.Suits c) (plain : s.IsPlain) : Along space c s course where
  suits := suits
  condemned round same := absurd same (plain.1 round)
  wrote same := absurd same plain.2

theorem Along.may {q : Ask} (along : Along space c s course) (may : (stages space c).may s q) :
    c.may space course q := by
  rcases may with ⟨note, rfl⟩ | asked
  · trivial
  · cases s with
    | timing | connecting | judging =>
      cases asked
      trivial
    | setting round =>
      have timed := along.suits
      cases c with
      | get => exact timed.elim
      | set key response =>
        cases asked
        have positive : 0 < millis response round.taken := timed
        exact ⟨key, response, rfl, rfl, rfl, by omega⟩
    | reading round =>
      cases asked
      exact (rfl : responseName space c.key = _)
    | discarding round =>
      cases asked
      exact along.condemned round rfl
    | ended => exact nomatch asked

theorem Along.move {s' : Stage} {q : Ask} {r : q.Answer} (along : Along space c s course)
    (move : Move space c s q r s') : Along space c s' (course.after q r) := by
  have suits := move.suits along.suits
  cases move with
  | noted => exact along
  | late | timed | untimed | judged | reads | unset | occupied =>
    exact .of_plain suits (by simp [Stage.IsPlain])
  | unconnected | unread | undeleted => exact .of_plain suits (plain_failed c _)
  | writes => exact .of_plain suits (plain_attempt c _ _)
  | absent | deleted => exact .of_plain suits (plain_vanished c _)
  | present => exact .of_plain suits (plain_found _ _)
  | wrote key response round r text said =>
    refine ⟨suits, fun _ same => (nomatch same), fun _ =>
      ⟨key, response, (millis response round.taken).toNat, rfl, ?_⟩⟩
    simp only [Course.after, wroteBy, said]
  | spoiled _ round r text fault said parsed =>
    refine ⟨suits, fun _ _ => ?_, fun same => (nomatch same)⟩
    simp only [Course.after, condemnedBy, said, parsed]

theorem program_obeys (space : String) (c : Call) :
    (c.program space).Obeys (c.discipline space) (c.ends space) {} := by
  have fits (s : Stage) (course : Course) (r : Returned) (along : Along space c s course)
      (reached : s = .ended r) : c.ends space course r := by
    rintro rfl
    exact along.wrote reached
  have start : Along space c (.start c) {} := by
    refine ⟨suits_start c, ?_, ?_⟩ <;> cases c <;> simp [Stage.start]
  refine (program_stages space c).simulate (Along space c) ?_ ?_ fits start
  · intro s course q along may
    exact along.may may
  · intro s course q r along may
    exact along.move (.of_may may r)

end

end OncePerKey.Redis
