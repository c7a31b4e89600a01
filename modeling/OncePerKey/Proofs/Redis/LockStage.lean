import OncePerKey.Proofs.Discipline
import OncePerKey.Proofs.Lock.Term
import OncePerKey.Redis.Client

set_option autoImplicit false

namespace OncePerKey.Redis

inductive LockStage where
  | connecting
  | naming
  | dating (holder : Uuid)
  | setting (holder : Uuid) (acquiredAt : Timestamp)
  | deleting (told : Bool)
  | loading
  | ended (r : Lock.Returned)

def unlocking (space : String) (token : LockToken) : Command :=
  .deleteIf (lockName space token.key) (Uuid.render token.holder)

namespace LockStage

def question (space : String) : Lock.Call → LockStage → Option Ask
  | _, .connecting => some .connect
  | .acquire _ _, .naming => some .newHolder
  | .acquire _ _, .dating _ => some .now
  | .acquire key lifetime, .setting holder _ =>
      some (.send (.setAbsent (lockName space key) (Uuid.render holder) (lockMillis lifetime)))
  | .release token, .deleting _ => some (.send (unlocking space token))
  | .release _, .loading => some (.send .loadScript)
  | _, _ => none

def afterConnect : Lock.Call → Except Fault Unit → LockStage
  | c, .error fault => .ended (c.failed fault.toFailure)
  | .acquire _ _, .ok () => .naming
  | .release _, .ok () => .deleting false

def afterSet (token : LockToken) (r : Reply) : LockStage :=
  match r.text? with
  | .error fault => .ended (.acquired (.error fault.toFailure))
  | .ok none => .ended (.acquired (.ok none))
  | .ok (some _) => .ended (.acquired (.ok (some token)))

def afterDelete (told : Bool) (r : Reply) : LockStage :=
  match r.number? with
  | .ok n => .ended (.released (.ok (decide (0 < n))))
  | .error fault =>
      if fault.isNoScript && !told then .loading else .ended (.released (.error fault.toFailure))

def afterLoad (r : Reply) : LockStage :=
  match r.done? with
  | .error fault => .ended (.released (.error fault.toFailure))
  | .ok () => .deleting true

def after : Lock.Call → LockStage → (q : Ask) → q.Answer → LockStage
  | c, .connecting, .connect, r => afterConnect c r
  | .acquire _ _, .naming, .newHolder, holder => .dating holder
  | .acquire _ _, .dating holder, .now, acquiredAt => .setting holder acquiredAt
  | .acquire key lifetime, .setting holder acquiredAt, .send (.setAbsent _ _ _), r =>
      afterSet ⟨key, holder, acquiredAt, lifetime⟩ r
  | .release _, .deleting told, .send (.deleteIf _ _), r => afterDelete told r
  | .release _, .loading, .send .loadScript, r => afterLoad r
  | _, s, _, _ => s

end LockStage

def lockStages (space : String) (c : Lock.Call) : Discipline Ask Ask.Answer LockStage where
  may s q := s.question space c = some q
  after := LockStage.after c

def lockProgram (space : String) : Lock.Call → Talking Lock.Returned
  | .acquire key lifetime => do return .acquired (← acquire space key lifetime)
  | .release token => do return .released (← release space token)

section

variable {space : String} {c : Lock.Call} {s : LockStage} {α : Type} {ends : LockStage → α → Prop}

theorem obeys_lockQuestion {q : Ask} {next : q.Answer → Talking α}
    (asked : s.question space c = some q) :
    ((Talking.ask q).bind next).Obeys (lockStages space c) ends s ↔
      ∀ r, (next r).Obeys (lockStages space c) ends (s.after c q r) := by
  simp [Talking.ask, Program.perform, lockStages, asked]

theorem acquire_stages (key : CompositeKey) (lifetime : Nat) :
    (acquire space key lifetime).Obeys (lockStages space (.acquire key lifetime))
      (fun s r => s = .ended (.acquired r)) .connecting := by
  unfold acquire
  simp only [Program.bind_eq]
  rw [obeys_lockQuestion rfl]
  intro connected
  match connected with
  | .error fault => exact rfl
  | .ok () =>
    simp only
    rw [obeys_lockQuestion rfl]
    intro holder
    rw [obeys_lockQuestion rfl]
    intro acquiredAt
    rw [obeys_lockQuestion rfl]
    intro answer
    change Program.Obeys _ _ _ (LockStage.afterSet ⟨key, holder, acquiredAt, lifetime⟩ answer)
    unfold LockStage.afterSet
    cases Reply.text? answer with
    | error fault => exact rfl
    | ok value => cases value <;> exact rfl

def wasCalled : Except Fault Int → LockStage
  | .error fault => .ended (.released (.error fault.toFailure))
  | .ok n => .ended (.released (.ok (decide (0 < n))))

theorem callScript_stages (token : LockToken) :
    (callScript (unlocking space token)).Obeys (lockStages space (.release token))
      (fun s r => s = wasCalled r) (.deleting false) := by
  unfold callScript
  simp only [Program.bind_eq]
  rw [obeys_lockQuestion rfl]
  intro answer
  change Program.Obeys _ _ _ (LockStage.afterDelete false answer)
  unfold LockStage.afterDelete
  cases Reply.number? answer with
  | ok n => exact rfl
  | error fault =>
    by_cases unknown : fault.isNoScript = true
    · simp only [unknown, Bool.not_true, Bool.false_eq_true, if_false, Bool.not_false, Bool.and_self,
        if_true]
      rw [obeys_lockQuestion rfl]
      intro answer
      change Program.Obeys _ _ _ (LockStage.afterLoad answer)
      unfold LockStage.afterLoad
      cases Reply.done? answer with
      | error fault => exact rfl
      | ok =>
        simp only
        rw [obeys_lockQuestion rfl]
        intro answer
        change LockStage.afterDelete true answer = wasCalled (Reply.number? answer)
        unfold LockStage.afterDelete
        cases Reply.number? answer <;> simp [wasCalled]
    · simp [unknown, wasCalled]

theorem release_stages (token : LockToken) :
    (release space token).Obeys (lockStages space (.release token))
      (fun s r => s = .ended (.released r)) .connecting := by
  unfold release
  simp only [Program.bind_eq]
  rw [obeys_lockQuestion rfl]
  intro connected
  match connected with
  | .error fault => exact rfl
  | .ok () =>
    simp only
    rw [Program.obeys_bind]
    refine (callScript_stages token).mono fun s result reached => ?_
    rw [reached]
    match result with
    | .error fault => exact rfl
    | .ok n => exact rfl

theorem lockProgram_stages (space : String) (c : Lock.Call) :
    (lockProgram space c).Obeys (lockStages space c) (fun s r => s = .ended r) .connecting := by
  cases c with
  | acquire key lifetime =>
    change ((acquire space key lifetime).bind fun r => .done (Lock.Returned.acquired r)).Obeys _ _ _
    rw [Program.obeys_bind]
    exact acquire_stages key lifetime
  | release token =>
    change ((release space token).bind fun r => .done (Lock.Returned.released r)).Obeys _ _ _
    rw [Program.obeys_bind]
    exact release_stages token

end

inductive LockEnd (space : String) :
    Lock.Call → LockStage → (q : Ask) → q.Answer → Lock.Returned → Prop where
  | unconnected (c : Lock.Call) (fault : Fault) :
      LockEnd space c .connecting .connect (.error fault) (c.failed fault.toFailure)
  | set (token : LockToken) (r : Reply) (result : Lock.Returned)
      (leads : LockStage.afterSet token r = .ended result) :
      LockEnd space (.acquire token.key token.lifetime) (.setting token.holder token.acquiredAt)
        (.send (.setAbsent (lockName space token.key) (Uuid.render token.holder)
          (lockMillis token.lifetime))) r result
  | deleted (token : LockToken) (told : Bool) (r : Reply) (result : Lock.Returned)
      (leads : LockStage.afterDelete told r = .ended result) :
      LockEnd space (.release token) (.deleting told) (.send (unlocking space token)) r result
  | unloaded (token : LockToken) (r : Reply) (fault : Fault) (said : r.done? = .error fault) :
      LockEnd space (.release token) .loading (.send .loadScript) r
        (.released (.error fault.toFailure))

theorem LockEnd.of_after {space : String} {c : Lock.Call} {s : LockStage} {q : Ask} {r : q.Answer}
    {result : Lock.Returned} (asked : s.question space c = some q)
    (ended : s.after c q r = .ended result) : LockEnd space c s q r result := by
  cases s with
  | connecting =>
    cases asked
    match c, r with
    | c, .error fault =>
      cases ended
      exact .unconnected c fault
    | .acquire _ _, .ok () => cases ended
    | .release _, .ok () => cases ended
  | naming =>
    cases c with
    | acquire =>
      cases asked
      cases ended
    | release => cases asked
  | dating holder =>
    cases c with
    | acquire =>
      cases asked
      cases ended
    | release => cases asked
  | setting holder acquiredAt =>
    cases c with
    | acquire key lifetime =>
      cases asked
      exact .set ⟨key, holder, acquiredAt, lifetime⟩ r result ended
    | release => cases asked
  | deleting told =>
    cases c with
    | acquire => cases asked
    | release token =>
      cases asked
      exact .deleted token told r result ended
  | loading =>
    cases c with
    | acquire => cases asked
    | release token =>
      cases asked
      change LockStage.afterLoad r = _ at ended
      unfold LockStage.afterLoad at ended
      split at ended
      · rename_i fault said
        cases ended
        exact .unloaded token r fault said
      · cases ended
  | ended => cases c <;> cases asked

end OncePerKey.Redis
