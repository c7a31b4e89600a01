import OncePerKey.Proofs.Redis.LockStage
import OncePerKey.Proofs.Redis.Server
import OncePerKey.Proofs.Text.Hex
import OncePerKey.Proofs.Text.Utf8

set_option autoImplicit false

namespace OncePerKey.Redis

def clockedAnswers (refuses : Prop) (now : Timestamp) (s : Server) :
    (q : Ask) → q.Answer → Server → Prop
  | .now, r, s' => r = now ∧ s' = s
  | .connect, r, s' => (r = .ok () ∨ refuses) ∧ s' = s
  | .send c, r, s' =>
      (r = (s.run now c).1 ∧ s' = (s.run now c).2) ∨ (refuses ∧ ∃ line, r = .error line) ∧ s' = s
  | .newHolder, _, s' | .report _, _, s' => s' = s

def keeper (space : String) (refuses : Prop) : Lock.Keeper Ask Ask.Answer where
  surroundings :=
    { State := Server
      answers := clockedAnswers refuses
      shows := Timestamp.IsPlain }
  program := lockProgram space
  held now s token :=
    s.value? now (lockName space token.key) = some (Utf8.encode (Uuid.render token.holder))
  refuses := refuses

namespace Server

def Keeps (space : String) (s : Server) (token : LockToken) : Prop :=
  ∃ goneAt, s.entries.lookup (lockName space token.key) =
      some ⟨Utf8.encode (Uuid.render token.holder), some goneAt⟩ ∧
    ∀ end_, token.expiresAt? = some end_ → end_.IsPlain ∧ end_.toNanos ≤ goneAt

variable {space : String} {s : Server} {token : LockToken} {now end_ : Timestamp}

theorem isLiveAt_iff {value : Bytes} {goneAt : Int} :
    Entry.isLiveAt ⟨value, some goneAt⟩ now = true ↔ now.toNanos < goneAt := by
  simp [Entry.isLiveAt]

theorem Keeps.outlasts (keeps : s.Keeps space token) (plain : now.IsPlain)
    (ends : token.expiresAt? = some end_) (early : now < end_) :
    ∃ goneAt, s.entries.lookup (lockName space token.key) =
        some ⟨Utf8.encode (Uuid.render token.holder), some goneAt⟩ ∧ now.toNanos < goneAt := by
  obtain ⟨goneAt, there, outlasts⟩ := keeps
  obtain ⟨plainEnd, later⟩ := outlasts end_ ends
  have order := (Timestamp.toNanos_lt_iff plain plainEnd).2 early
  exact ⟨goneAt, there, lt_of_lt_of_le order later⟩

theorem Keeps.value? (keeps : s.Keeps space token) (plain : now.IsPlain)
    (ends : token.expiresAt? = some end_) (early : now < end_) :
    s.value? now (lockName space token.key) = some (Utf8.encode (Uuid.render token.holder)) := by
  obtain ⟨goneAt, there, live⟩ := keeps.outlasts plain ends early
  rw [value?_of_lookup there (isLiveAt_iff.2 live)]

theorem Keeps.run {c : Command} (keeps : s.Keeps space token) (plain : now.IsPlain)
    (ends : token.expiresAt? = some end_) (early : now < end_)
    (spared : ¬ c.deletes (lockName space token.key)) : (s.run now c).2.Keeps space token := by
  obtain ⟨goneAt, there, live⟩ := keeps.outlasts plain ends early
  obtain ⟨goneAt', there', outlasts⟩ := keeps
  rw [there] at there'
  cases there'
  exact ⟨goneAt, lookup_run there (isLiveAt_iff.2 live) spared, outlasts⟩

theorem lifetimeMs_le_lockMillis (token : LockToken) :
    token.lifetimeMs ≤ lockMillis token.lifetime := by
  have word : (Int64.ofNat (token.lifetime / 1000000)).toInt =
      ((token.lifetime / 1000000 : Nat) : Int).bmod (2 ^ 64) := Int64.toInt_ofNat'
  have size : UInt64.size = 2 ^ 64 := rfl
  rw [LockToken.lifetimeMs, lockMillis, word, size, Int.bmod_def]
  split <;> omega

theorem keeps_of_set (set : s.entries.lookup (lockName space token.key) =
      some ⟨Utf8.encode (Uuid.render token.holder),
        some (now.toNanos + lockMillis token.lifetime * 1000000)⟩)
    (plain : token.acquiredAt.IsPlain) (dated : token.acquiredAt.toNanos ≤ now.toNanos) :
    s.Keeps space token := by
  refine ⟨_, set, fun end_ ends => ?_⟩
  obtain ⟨nanos, plainEnd⟩ := LockToken.toNanos_expiresAt? plain ends
  have millis := lifetimeMs_le_lockMillis token
  refine ⟨plainEnd, ?_⟩
  rw [nanos]
  omega

theorem knowsScript_run {c : Command} (knows : s.knowsScript = true) :
    (s.run now c).2.knowsScript = true := by
  cases c with
  | get =>
    simp only [run]
    split <;> exact knows
  | setAbsent =>
    simp only [run]
    split <;> exact knows
  | deleteIf =>
    simp only [run, knows, Bool.not_true, Bool.false_eq_true, if_false]
    split <;> exact knows
  | del | ping => exact knows
  | loadScript => rfl

theorem run_unlocking_of_ne {other : LockToken} {holder : Uuid}
    (there : s.value? now (lockName space other.key) = some (Utf8.encode (Uuid.render holder)))
    (differ : other.holder ≠ holder) (knows : s.knowsScript = true) :
    s.run now (unlocking space other) = (.int 0, s) := by
  have apart : Utf8.encode (Uuid.render holder) ≠ Utf8.encode (Uuid.render other.holder) :=
    fun equal => differ (Uuid.render_injective (Utf8.encode_injective equal)).symm
  simp [run, unlocking, knows, there, apart]

theorem run_unlocking_self
    (there : s.value? now (lockName space token.key) = some (Utf8.encode (Uuid.render token.holder)))
    (knows : s.knowsScript = true) : (s.run now (unlocking space token)).1 = .int 1 := by
  simp [run, unlocking, knows, there, delete]

theorem run_unlocking_of_unknown {other : LockToken} (unknown : s.knowsScript = false) :
    s.run now (unlocking space other) =
      (.error (noScriptCode ++ " No matching script. Please use EVAL."), s) := by
  simp [run, unlocking, unknown]

end Server

def LockStage.Fits (now : Timestamp) (s : Server) : LockStage → Prop
  | .setting _ acquiredAt => acquiredAt ≤ now ∧ acquiredAt.IsPlain
  | .deleting told => told = true → s.knowsScript = true
  | _ => True

section

variable {space : String} {refuses : Prop} {now end_ : Timestamp} {s s' : Server} {c : Lock.Call}
  {stage : LockStage} {q : Ask} {x : q.Answer} {token : LockToken} {r : Lock.Returned}

theorem text?_setAbsent (s : Server) (now : Timestamp) (name value : String) (px : Nat) :
    (s.run now (.setAbsent name value px)).1.text? =
      .ok (if (s.value? now name).isSome then none else some "OK") := by
  rw [Server.run_setAbsent]
  split <;> rfl

theorem afterSet_of_text? {r : Reply} {said : Option String} (text : r.text? = .ok said) :
    LockStage.afterSet token r = .ended (.acquired (.ok (said.map fun _ => token))) := by
  unfold LockStage.afterSet
  rw [text]
  cases said <;> rfl

theorem keeps_of_granted (ending : LockEnd space c stage q x (.acquired (.ok (some token))))
    (fits : stage.Fits now s) (plain : now.IsPlain) (answers : clockedAnswers refuses now s q x s') :
    s'.Keeps space token := by
  generalize granted : Lock.Returned.acquired (.ok (some token)) = r at ending
  cases ending with
  | unconnected => cases c <;> cases granted
  | deleted other told x result leads =>
    subst granted
    unfold LockStage.afterDelete at leads
    split at leads
    · cases leads
    · split at leads <;> cases leads
  | unloaded => cases granted
  | set mine x result leads =>
    subst granted
    rcases answers with ⟨rfl, rfl⟩ | ⟨⟨-, line, rfl⟩, -⟩
    · rw [afterSet_of_text? (text?_setAbsent _ _ _ _ _)] at leads
      cases taken : s.value? now (lockName space mine.key) with
      | some other => simp [taken] at leads
      | none =>
        have same : mine = token := by simpa [taken] using leads
        subst same
        have okay : (s.run now (.setAbsent (lockName space mine.key) (Uuid.render mine.holder)
            (lockMillis mine.lifetime))).1 = .okay := by
          rw [Server.run_setAbsent, taken]
          rfl
        exact Server.keeps_of_set (Server.run_setAbsent_okay okay).2 fits.2
          ((Timestamp.toNanos_le_iff fits.2 plain).2 fits.1)
    · cases leads

theorem question_eq_unlocking {name value : String}
    (asked : stage.question space c = some (.send (.deleteIf name value))) :
    ∃ other told, c = .release other ∧ stage = .deleting told ∧
      Command.deleteIf name value = unlocking space other := by
  cases stage with
  | deleting told =>
    cases c <;> cases asked
    exact ⟨_, told, rfl, rfl, rfl⟩
  | connecting => cases asked
  | naming | dating | setting | loading | ended => cases c <;> cases asked

theorem keeps_or_released (asked : stage.question space c = some q)
    (apart : ∀ other, c = .release other → other.holder = token.holder → other = token)
    (plain : now.IsPlain) (ends : token.expiresAt? = some end_) (early : now < end_)
    (keeps : s.Keeps space token) (answers : clockedAnswers refuses now s q x s') :
    s'.Keeps space token ∨
      c = .release token ∧ stage.after c q x = .ended (.released (.ok true)) := by
  cases q with
  | now | connect =>
    obtain ⟨-, rfl⟩ := answers
    exact .inl keeps
  | newHolder | report =>
    cases answers
    exact .inl keeps
  | send command =>
    rcases answers with ⟨rfl, rfl⟩ | ⟨-, rfl⟩
    · cases command with
      | get | setAbsent | ping | loadScript => exact .inl (keeps.run plain ends early id)
      | del =>
        -- No client of locks deletes a name without the script.
        cases stage <;> cases c <;> cases asked
      | deleteIf name value =>
        obtain ⟨other, told, rfl, rfl, same⟩ := question_eq_unlocking asked
        rw [same]
        have there := keeps.value? plain ends early
        by_cases names : lockName space other.key = lockName space token.key
        · rw [← names] at there
          cases knows : s.knowsScript with
          | false =>
            rw [Server.run_unlocking_of_unknown knows]
            exact .inl keeps
          | true =>
            by_cases mine : other.holder = token.holder
            · rw [apart other rfl mine]
              refine .inr ⟨rfl, ?_⟩
              change LockStage.afterDelete told _ = _
              rw [Server.run_unlocking_self (keeps.value? plain ends early) knows]
              rfl
            · rw [Server.run_unlocking_of_ne there mine knows]
              exact .inl keeps
        · exact .inl (keeps.run plain ends early names)
    · exact .inl keeps

theorem gives_of_acquire {lifetime : Nat} (call : c = .acquire token.key lifetime)
    (ending : LockEnd space c stage q x r) (plain : now.IsPlain) (ends : token.expiresAt? = some end_)
    (early : now < end_) (keeps : s.Keeps space token)
    (answers : clockedAnswers refuses now s q x s') :
    (keeper space refuses).Gives c r (.acquired (.ok none)) := by
  cases ending with
  | unconnected c fault =>
    rcases answers.1 with connected | refused
    · cases connected
    · exact .inr ⟨refused, fault.toFailure, rfl⟩
  | deleted | unloaded => cases call
  | set mine x result leads =>
    have key : mine.key = token.key := (Lock.Call.acquire.inj call).1
    rcases answers with ⟨rfl, -⟩ | ⟨⟨refused, line, rfl⟩, -⟩
    · have there := keeps.value? plain ends early
      rw [afterSet_of_text? (text?_setAbsent _ _ _ _ _), key, there] at leads
      exact .inl (LockStage.ended.inj leads).symm
    · exact .inr ⟨refused, _, (LockStage.ended.inj leads).symm⟩

theorem gives_of_release {other : LockToken} (call : c = .release other) (key : other.key = token.key)
    (ending : LockEnd space c stage q x r) (fits : stage.Fits now s) (plain : now.IsPlain)
    (ends : token.expiresAt? = some end_) (early : now < end_) (keeps : s.Keeps space token)
    (answers : clockedAnswers refuses now s q x s') :
    (keeper space refuses).Gives c r (.released (.ok (decide (other.holder = token.holder)))) := by
  cases ending with
  | unconnected c fault =>
    rcases answers.1 with connected | refused
    · cases connected
    · exact .inr ⟨refused, fault.toFailure, rfl⟩
  | set => cases call
  | unloaded mine x fault said =>
    rcases answers with ⟨rfl, -⟩ | ⟨⟨refused, line, rfl⟩, -⟩
    · cases said
    · exact .inr ⟨refused, fault.toFailure, rfl⟩
  | deleted mine told x result leads =>
    cases call
    have there := keeps.value? plain ends early
    rw [← key] at there
    rcases answers with ⟨rfl, -⟩ | ⟨⟨refused, line, rfl⟩, -⟩
    · cases knows : s.knowsScript with
      | false =>
        rw [Server.run_unlocking_of_unknown knows] at leads
        have untold : told = false := by
          cases told with
          | false => rfl
          | true => exact absurd (fits rfl) (by simp [knows])
        subst untold
        cases leads
      | true =>
        by_cases same : other.holder = token.holder
        · rw [← same] at there
          rw [Server.run_unlocking_self there knows] at leads
          rw [decide_eq_true same]
          exact .inl (LockStage.ended.inj leads).symm
        · rw [Server.run_unlocking_of_ne there same knows] at leads
          rw [decide_eq_false same]
          exact .inl (LockStage.ended.inj leads).symm
    · unfold LockStage.afterDelete at leads
      simp only [Reply.number?] at leads
      split at leads
      · cases leads
      · exact .inr ⟨refused, _, (LockStage.ended.inj leads).symm⟩

end

section

variable {space : String} {refuses : Prop} {ι : Type} [DecidableEq ι] {calls : ι → Lock.Call}
  {w₀ v w : World (keeper space refuses).surroundings ι Lock.Returned} {i : ι} {token : LockToken}
  {r : Lock.Returned}

def lockStageOf (space : String) (c : Lock.Call) (i : ι) (history : List (Exchange ι Ask Ask.Answer)) :
    LockStage :=
  (lockStages space c).stage .connecting i history

theorem LockStage.Fits.mono {s : LockStage} (fits : s.Fits v.now v.state) (step : World.Step v w) :
    s.Fits w.now w.state := by
  cases s with
  | setting holder acquiredAt => exact ⟨le_trans fits.1 step.now_le, fits.2⟩
  | deleting told =>
    intro known
    have knows := fits known
    cases step with
    | pass => exact knows
    | change s changes => exact changes.elim
    | answer j q next r s asks answers =>
      cases q with
      | now | connect =>
        obtain ⟨-, rfl⟩ := answers
        exact knows
      | newHolder | report =>
        cases answers
        exact knows
      | send c =>
        rcases answers with ⟨-, rfl⟩ | ⟨-, rfl⟩
        · exact Server.knowsScript_run knows
        · exact knows
  | connecting | naming | dating | loading | ended => exact trivial

theorem fits_after {c : Lock.Call} {s : LockStage} {q : Ask} {r : q.Answer} {now : Timestamp}
    {server server' : Server} (asked : s.question space c = some q) (plain : now.IsPlain)
    (answers : clockedAnswers refuses now server q r server') : (s.after c q r).Fits now server' := by
  cases s with
  | connecting =>
    cases asked
    match c, r with
    | c, .error fault => exact trivial
    | .acquire _ _, .ok () => exact trivial
    | .release _, .ok () => exact nofun
  | naming =>
    cases c <;> cases asked
    exact trivial
  | dating holder =>
    cases c <;> cases asked
    obtain ⟨rfl, -⟩ := answers
    exact ⟨le_refl _, plain⟩
  | setting holder acquiredAt =>
    cases c <;> cases asked
    change (LockStage.afterSet _ r).Fits now server'
    unfold LockStage.afterSet
    split <;> exact trivial
  | deleting told =>
    cases c <;> cases asked
    change (LockStage.afterDelete told r).Fits now server'
    unfold LockStage.afterDelete
    split
    · exact trivial
    · split <;> exact trivial
  | loading =>
    cases c <;> cases asked
    rcases answers with ⟨rfl, rfl⟩ | ⟨⟨-, line, rfl⟩, -⟩
    · exact fun _ => rfl
    · exact trivial
  | ended => cases c <;> cases asked

theorem fits_of_reaches (starts : w₀.Starts fun i => (keeper space refuses).program (calls i))
    (plain : w₀.now.IsPlain) (run : World.Reaches w₀ w) (i : ι) :
    (lockStageOf space (calls i) i w.history).Fits w.now w.state := by
  induction run with
  | refl =>
    rw [starts.2]
    exact trivial
  | @tail v w run step ih =>
    have moved := ih.mono step
    cases step with
    | pass => exact moved
    | change => exact moved
    | answer j q next r s asks answers =>
      by_cases same : j = i
      · subst same
        have asked := World.may_of_ask starts (lockProgram_stages space (calls j)) run asks
        rw [World.answered_history, lockStageOf, Discipline.stage_cons_self]
        exact fits_after asked (World.shows_now plain run) answers
      · rw [World.answered_history, lockStageOf, Discipline.stage_cons_of_ne _ _ same]
        exact moved

theorem done_of_ended {c : Lock.Call} {s : LockStage} {p : Talking Lock.Returned}
    (ended : s = .ended r) (obeys : p.Obeys (lockStages space c) (fun s r => s = .ended r) s) :
    p = .done r := by
  subst ended
  cases p with
  | done a => rw [LockStage.ended.inj obeys]
  | ask q next => cases c <;> cases obeys.1

theorem end_of_returns (starts : w₀.Starts fun i => (keeper space refuses).program (calls i))
    (run : World.Reaches w₀ v) (returns : World.Returns v w i r) :
    ∃ q x, LockEnd space (calls i) (lockStageOf space (calls i) i v.history) q x r ∧
      clockedAnswers refuses v.now v.state q x w.state := by
  have ends := World.ends_of_done starts (lockProgram_stages space (calls i))
    (run.tail returns.step) returns.result
  obtain ⟨q, next, x, s, asks, answers, -, rfl⟩ := returns.answered
  have asked := World.may_of_ask starts (lockProgram_stages space (calls i)) run asks
  rw [World.answered_history, Discipline.stage_cons_self] at ends
  exact ⟨q, x, .of_after asked ends, answers⟩

theorem lockLaws (starts : w₀.Starts fun i => (keeper space refuses).program (calls i))
    (plain : w₀.now.IsPlain) :
    Lock.Laws (keeper space refuses) calls w₀ fun s token => Server.Keeps space s token where
  grant := by
    intro v w i token run returns
    obtain ⟨q, x, ending, answers⟩ := end_of_returns starts run returns
    exact keeps_of_granted ending (fits_of_reaches starts plain run i) (World.shows_now plain run) answers
  keep := by
    intro v w token end_ run step apart ends early keeps
    cases step with
    | pass => exact .inl keeps
    | change s changes => exact changes.elim
    | answer j q next r s asks answers =>
      have stages := lockProgram_stages space (calls j)
      have asked := World.may_of_ask starts stages run asks
      rcases keeps_or_released asked (apart j) (World.shows_now plain run) ends early keeps answers with
        stays | ⟨own, ended⟩
      · exact .inl stays
      · -- After the last answer nothing is left of the program.
        refine .inr ⟨j, own, World.returns_of_answer asks answers ?_⟩
        have left := World.obeys_stage starts stages (run.tail (.answer v j q next r s asks answers))
        rw [World.answered_tasks_self, World.answered_history, Discipline.stage_cons_self] at left
        exact done_of_ended ended left
  held := by
    intro v token end_ run ends early keeps
    exact Server.Keeps.value? keeps (World.shows_now plain run) ends early
  acquire := by
    intro v w i token end_ lifetime r run returns ends early keeps call
    obtain ⟨q, x, ending, answers⟩ := end_of_returns starts run returns
    exact gives_of_acquire call ending (World.shows_now plain run) ends early keeps answers
  release := by
    intro v w i token end_ other r run returns ends early keeps call key
    obtain ⟨q, x, ending, answers⟩ := end_of_returns starts run returns
    exact gives_of_release call key ending (fits_of_reaches starts plain run i)
      (World.shows_now plain run) ends early keeps answers
  answered := by
    intro v i token end_ _ _ _ _ _
    apply World.exists_done
    intro u q next _ _ _
    cases q with
    | now => exact ⟨u.now, u.state, rfl, rfl⟩
    | newHolder => exact ⟨(default : Uuid), u.state, rfl⟩
    | connect => exact ⟨.ok (), u.state, .inl rfl, rfl⟩
    | send c => exact ⟨_, _, .inl ⟨rfl, rfl⟩⟩
    | report => exact ⟨(), u.state, rfl⟩

end

end OncePerKey.Redis
