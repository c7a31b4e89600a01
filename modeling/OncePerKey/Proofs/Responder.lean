import OncePerKey.Proofs.Moment

set_option autoImplicit false

namespace OncePerKey

structure Responder (C R : Type) where
  State : Type
  start : State
  serve : Timestamp → C → State → R × State
  -- What happens without being asked for.
  changes : Timestamp → State → State → Prop := fun _ _ _ => False
  -- The moments that the clock can show.
  shows : Timestamp → Prop := fun _ => True

structure Answered (C R : Type) where
  time : Timestamp
  call : C
  answer : R

abbrev Record (C R : Type) := List (Answered C R)

abbrev Rule (C R : Type) := Record C R → Timestamp → C → R

variable {C R : Type}

namespace Record

-- What was asked and when, whatever the answers were.
def asked (record : Record C R) : List (Timestamp × C) :=
  record.map fun e => (e.time, e.call)

def Abides (rule : Rule C R) : Record C R → Prop
  | [] => True
  | e :: past => e.answer = rule past e.time e.call ∧ Abides rule past

variable {rule : Rule C R} {record past : Record C R} {e : Answered C R}

theorem Abides.of_suffix (abides : record.Abides rule) (part : past <:+ record) :
    past.Abides rule := by
  induction record with
  | nil =>
    rw [List.suffix_nil.1 part]
    trivial
  | cons head rest ih =>
    rcases List.suffix_cons_iff.1 part with rfl | part
    · exact abides
    · exact ih abides.2 part

theorem Abides.answer (abides : record.Abides rule) (part : e :: past <:+ record) :
    e.answer = rule past e.time e.call :=
  (abides.of_suffix part).1

theorem Abides.congr {rule' : Rule C R} (abides : record.Abides rule)
    (agree : ∀ e past, e :: past <:+ record → rule past e.time e.call = rule' past e.time e.call) :
    record.Abides rule' := by
  induction record with
  | nil => trivial
  | cons e past ih =>
    refine ⟨abides.1.trans (agree e past (List.suffix_refl _)), ih abides.2 fun x before part => ?_⟩
    exact agree x before (part.trans (List.suffix_cons e past))

theorem eq_iff_of_abides {rule' : Rule C R} {other : Record C R} (abides : record.Abides rule)
    (too : other.Abides rule') (same : record.asked = other.asked) :
    record = other ↔
      ∀ e past, e :: past <:+ record → rule past e.time e.call = rule' past e.time e.call := by
  constructor
  · rintro rfl e past part
    rw [← abides.answer part, too.answer part]
  · intro agree
    induction record generalizing other with
    | nil => exact (List.map_eq_nil_iff.1 same.symm).symm
    | cons e past ih =>
      cases other with
      | nil => cases same
      | cons e' past' =>
        obtain ⟨head, rest⟩ := List.cons.inj same
        obtain rfl := ih abides.2 too.2 rest fun x before part =>
          agree x before (part.trans (List.suffix_cons e past))
        obtain ⟨time, call, answer⟩ := e
        obtain ⟨time', call', answer'⟩ := e'
        cases head
        have ruled := agree ⟨time, call, answer⟩ past (List.suffix_refl _)
        rw [show answer = answer' from abides.1.trans (ruled.trans too.1.symm)]

theorem eq_of_abides {other : Record C R} (abides : record.Abides rule) (too : other.Abides rule)
    (same : record.asked = other.asked) : record = other :=
  (eq_iff_of_abides abides too same).2 fun _ _ _ => rfl

theorem forall_of_asked {other : Record C R} {p : Timestamp → C → Prop}
    (same : record.asked = other.asked) (all : ∀ e ∈ record, p e.time e.call) :
    ∀ e ∈ other, p e.time e.call := by
  intro e present
  have asked : (e.time, e.call) ∈ record.asked := by
    rw [same]
    exact List.mem_map_of_mem present
  obtain ⟨e', presentToo, pair⟩ := List.mem_map.1 asked
  obtain ⟨time, call⟩ := Prod.mk.inj pair
  rw [← time, ← call]
  exact all e' presentToo

end Record

namespace Responder

variable {S : Responder C R} {rule : Rule C R} {fits : Record C R → Timestamp → C → Prop}
  {P : Timestamp → Record C R → S.State → Prop} {now : Timestamp} {record : Record C R} {s : S.State}

inductive Follows (S : Responder C R) : Timestamp → Record C R → S.State → Prop where
  | start (now : Timestamp) (shown : S.shows now) : Follows S now [] S.start
  | pass {now later : Timestamp} {record : Record C R} {s : S.State} (before : Follows S now record s)
      (order : now ≤ later) (shown : S.shows later) : Follows S later record s
  | change {now : Timestamp} {record : Record C R} {s s' : S.State} (before : Follows S now record s)
      (changes : S.changes now s s') : Follows S now record s'
  | call {now : Timestamp} {record : Record C R} {s : S.State} (before : Follows S now record s)
      (c : C) : Follows S now (⟨now, c, (S.serve now c s).1⟩ :: record) (S.serve now c s).2

theorem Follows.shown (run : S.Follows now record s) : S.shows now := by
  induction run with
  | start _ shown | pass _ _ shown => exact shown
  | change _ _ ih | call _ _ ih => exact ih

theorem Follows.shows_of_mem (run : S.Follows now record s) : ∀ e ∈ record, S.shows e.time := by
  induction run with
  | start => simp
  | pass _ _ _ ih | change _ _ ih => exact ih
  | call before _ ih => exact List.forall_mem_cons.2 ⟨before.shown, ih⟩

theorem Follows.served {c : C} {r : R} {s' : S.State} (before : S.Follows now record s)
    (served : S.serve now c s = (r, s')) : S.Follows now (⟨now, c, r⟩ :: record) s' := by
  have run := before.call c
  rwa [served] at run

structure Keeps (S : Responder C R) (rule : Rule C R) (fits : Record C R → Timestamp → C → Prop)
    (P : Timestamp → Record C R → S.State → Prop) : Prop where
  start : ∀ {now}, S.shows now → P now [] S.start
  pass : ∀ {now later record s}, now ≤ later → S.shows later → P now record s → P later record s
  change : ∀ {now record s s'}, S.shows now → S.changes now s s' → P now record s → P now record s'
  call : ∀ {now record s c}, S.shows now → fits record now c → P now record s →
    (S.serve now c s).1 = rule record now c ∧
      P now (⟨now, c, (S.serve now c s).1⟩ :: record) (S.serve now c s).2

theorem Keeps.abides (keeps : S.Keeps rule fits P) (run : S.Follows now record s)
    (fitting : ∀ e past, e :: past <:+ record → fits past e.time e.call) :
    record.Abides rule ∧ P now record s := by
  induction run with
  | start _ shown => exact ⟨trivial, keeps.start shown⟩
  | pass before order shown ih =>
    obtain ⟨abides, holds⟩ := ih fitting
    exact ⟨abides, keeps.pass order shown holds⟩
  | change before changes ih =>
    obtain ⟨abides, holds⟩ := ih fitting
    exact ⟨abides, keeps.change before.shown changes holds⟩
  | @call now record s before c ih =>
    obtain ⟨abides, holds⟩ := ih fun e past part => fitting e past (part.trans (List.suffix_cons _ _))
    obtain ⟨answer, after⟩ := keeps.call before.shown (fitting _ _ (List.suffix_refl _)) holds
    exact ⟨⟨answer, abides⟩, after⟩

end Responder

end OncePerKey
