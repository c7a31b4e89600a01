import OncePerKey.Program
import OncePerKey.Rehearsal.Clock

set_option autoImplicit false

namespace OncePerKey.Rehearsal

structure Stage (σ : Type) where
  clock : Clock
  scene : σ

inductive Cue (σ : Type) where
  | look
  | change (f : σ → σ)
  | sleep (ms : Nat)
  | crash

@[reducible] def Cue.Answer {σ : Type} : Cue σ → Type
  | .look => Stage σ
  | .change _ => Unit
  | .sleep _ => Unit
  | .crash => Empty

abbrev Task (σ α : Type) := Program (Cue σ) Cue.Answer α

variable {σ α : Type}

def look : Task σ (Stage σ) := .ask .look .done

def change (f : σ → σ) : Task σ Unit := .ask (.change f) .done

def sleep (ms : Nat) : Task σ Unit := .ask (.sleep ms) .done

def crash : Task σ α := .ask .crash nofun

def orCrash : Option α → Task σ α
  | some a => .done a
  | none => crash

def now : Task σ Timestamp := do
  orCrash (← look).clock.now?

def update (f : σ → α × σ) : Task σ α := do
  let (a, scene) := f (← look).scene
  change fun _ => scene
  return a

inductive Ending (α : Type) where
  | done (a : α)
  | crashed
  | cancelled

inductive Slot (σ α : Type) where
  | asleep (wakeAt : Int) (rest : Task σ α)
  | ended (e : Ending α)

def Task.run : Task σ α → Stage σ → Slot σ α × Stage σ
  | .done a, s => (.ended (.done a), s)
  | .ask .look next, s => Task.run (next s) s
  | .ask (.change f) next, s => Task.run (next ()) { s with scene := f s.scene }
  | .ask (.sleep ms) next, s =>
      let tick := s.clock.timer ms
      if s.clock.isDue tick then Task.run (next ()) s else (.asleep tick (next ()), s)
  | .ask .crash _, s => (.ended .crashed, s)

inductive Follows : Task σ α → Task σ α → Prop where
  | answer (q : Cue σ) (next : q.Answer → Task σ α) (r : q.Answer) : Follows (next r) (.ask q next)

theorem acc_follows (t : Task σ α) : Acc Follows t := by
  induction t with
  | done a => exact ⟨_, fun _ h => nomatch h⟩
  | ask q next ih => exact ⟨_, fun _ h => by cases h; exact ih _⟩

theorem acc_later (t : Task σ α) : Acc (Relation.TransGen Follows) t :=
  (acc_follows t).transGen

theorem run_later (t : Task σ α) (s : Stage σ) {wakeAt : Int} {rest : Task σ α} :
    (t.run s).1 = .asleep wakeAt rest → Relation.TransGen Follows rest t := by
  induction t generalizing s with
  | done a => intro h; simp [Task.run] at h
  | ask q next ih =>
    intro h
    cases q with
    | look => exact (ih s s h).tail (.answer .look next s)
    | change f => exact (ih () _ h).tail (.answer (.change f) next ())
    | sleep ms =>
      rw [Task.run] at h
      split at h
      · exact (ih () s h).tail (.answer (.sleep ms) next ())
      · simp only [Slot.asleep.injEq] at h
        exact h.2 ▸ .single (.answer (.sleep ms) next ())
    | crash => simp [Task.run] at h

inductive Slot.Shorter : Slot σ α → Slot σ α → Prop where
  | ended (e : Ending α) (wakeAt : Int) (rest : Task σ α) :
      Shorter (.ended e) (.asleep wakeAt rest)
  | resumed (wakeAt wakeAt' : Int) {rest' rest : Task σ α}
      (h : Relation.TransGen Follows rest' rest) :
      Shorter (.asleep wakeAt' rest') (.asleep wakeAt rest)

theorem Slot.acc_shorter (slot : Slot σ α) : Acc Slot.Shorter slot := by
  have hended (e : Ending α) : Acc Slot.Shorter (.ended e : Slot σ α) := ⟨_, fun _ h => nomatch h⟩
  cases slot with
  | ended e => exact hended e
  | asleep wakeAt rest =>
    have hrest := acc_later rest
    induction hrest generalizing wakeAt with
    | intro rest _ ih =>
      refine ⟨_, fun slot h => ?_⟩
      cases h with
      | ended e => exact hended e
      | resumed _ wakeAt' h => exact ih _ h wakeAt'

inductive OneShorter : List (Slot σ α) → List (Slot σ α) → Prop where
  | head {slot' slot : Slot σ α} (rest : List (Slot σ α)) (h : slot'.Shorter slot) :
      OneShorter (slot' :: rest) (slot :: rest)
  | tail (slot : Slot σ α) {rest' rest : List (Slot σ α)} (h : OneShorter rest' rest) :
      OneShorter (slot :: rest') (slot :: rest)

theorem acc_oneShorter (slots : List (Slot σ α)) : Acc OneShorter slots := by
  induction slots with
  | nil => exact ⟨_, fun _ h => nomatch h⟩
  | cons slot rest ih =>
    induction slot.acc_shorter generalizing rest with
    | intro slot _ ihSlot =>
      induction ih with
      | intro rest hrest ihRest =>
        refine ⟨_, fun slots h => ?_⟩
        cases h with
        | head _ h => exact ihSlot _ h _ ⟨_, hrest⟩
        | tail _ h => exact ihRest _ h

instance : WellFoundedRelation (List (Slot σ α)) := ⟨OneShorter, ⟨acc_oneShorter⟩⟩

structure Happening where
  tick : Int
  index : Nat
  isCancellation : Bool

def Slot.happening? (cancelAt : List (Option Int)) (index : Nat) : Slot σ α → Option Happening
  | .ended _ => none
  | .asleep wakeAt _ =>
      match cancelAt[index]?.join with
      | some tick =>
          if tick ≤ wakeAt then some ⟨tick, index, true⟩ else some ⟨wakeAt, index, false⟩
      | none => some ⟨wakeAt, index, false⟩

def Happening.earlier (a b : Option Happening) : Option Happening :=
  match a, b with
  | some a, some b => if b.tick < a.tick then some b else some a
  | none, b => b
  | a, none => a

def nextHappening (cancelAt : List (Option Int)) (slots : List (Slot σ α)) : Option Happening :=
  slots.zipIdx.foldl (fun e (slot, i) => Happening.earlier e (slot.happening? cancelAt i)) none

def actAt (act : (wakeAt : Int) → (rest : Task σ α) → Stage σ →
      { slot : Slot σ α // slot.Shorter (.asleep wakeAt rest) } × Stage σ) :
    (slots : List (Slot σ α)) → (index : Nat) → Stage σ →
      Option ({ slots' : List (Slot σ α) // OneShorter slots' slots } × Stage σ)
  | [], _, _ => none
  | .ended _ :: _, 0, _ => none
  | .asleep wakeAt rest :: slots, 0, s =>
      let (slot, s) := act wakeAt rest s
      some (⟨slot.val :: slots, .head slots slot.property⟩, s)
  | slot :: slots, index + 1, s =>
      (actAt act slots index s).map fun (slots', s) =>
        (⟨slot :: slots'.val, .tail slot slots'.property⟩, s)

theorem Task.run_shorter (wakeAt : Int) (t : Task σ α) (s : Stage σ) :
    (t.run s).1.Shorter (.asleep wakeAt t) := by
  match h : (t.run s).1 with
  | .ended e => exact .ended e wakeAt t
  | .asleep wakeAt' rest => exact .resumed wakeAt wakeAt' (run_later t s h)

def afterRun (clear : Task σ Unit) : Slot σ α × Stage σ → Slot σ α × Stage σ
  | (.ended .crashed, s) => (.ended .crashed, (clear.run s).2)
  | r => r

def happen (clear : Nat → Task σ Unit) (e : Happening) (slots : List (Slot σ α)) (s : Stage σ) :
    Option ({ slots' : List (Slot σ α) // OneShorter slots' slots } × Stage σ) :=
  let s := { s with clock := s.clock.jumpTo e.tick }
  if e.isCancellation then
    actAt (fun wakeAt rest s =>
      (⟨.ended .cancelled, .ended .cancelled wakeAt rest⟩, ((clear e.index).run s).2))
      slots e.index s
  else
    actAt (fun wakeAt rest s =>
      (⟨(rest.run s).1, Task.run_shorter wakeAt rest s⟩,
       (afterRun (clear e.index) (rest.run s)).2)) slots e.index s

def finish (clear : Nat → Task σ Unit) (cancelAt : List (Option Int)) (slots : List (Slot σ α))
    (s : Stage σ) : List (Slot σ α) × Stage σ :=
  match nextHappening cancelAt slots with
  | none => (slots, s)
  | some e =>
      match happen clear e slots s with
      | none => (slots, s)
      | some (slots', s) => finish clear cancelAt slots'.val s
termination_by slots
decreasing_by exact slots'.property

def Slot.ending : Slot σ α → Ending α
  | .ended e => e
  | .asleep _ _ => .cancelled

def together (clear : Nat → Task σ Unit) (tasks : List (Task σ α × Option Nat)) (s : Stage σ) :
    List (Ending α) × Stage σ :=
  let cancelAt := tasks.map fun (_, ms) => ms.map s.clock.timer
  let (slots, s) := tasks.zipIdx.foldl
    (fun (slots, s) ((task, _), i) =>
      let (slot, s) := afterRun (clear i) (task.run s)
      (slots ++ [slot], s)) ([], s)
  let (slots, s) := finish clear cancelAt slots s
  (slots.map Slot.ending, s)

def alone (clear : Task σ Unit) (task : Task σ α) (s : Stage σ) : Ending α × Stage σ :=
  let (endings, s) := together (fun _ => clear) [(task, none)] s
  (endings.head?.getD .cancelled, s)

end OncePerKey.Rehearsal
