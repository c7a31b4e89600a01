import Mathlib.Algebra.BigOperators.Group.Finset.Piecewise
import Mathlib.Algebra.Order.BigOperators.Group.Finset
import OncePerKey.Proofs.Request.Sheet
import OncePerKey.Proofs.Request.Winner
import OncePerKey.Rehearsal.Scene

set_option autoImplicit false

namespace OncePerKey

def Program.result? {Q : Type} {R : Q → Type} {α : Type} : Program Q R α → Option α
  | .done a => some a
  | .ask _ _ => none

namespace Tally

def shows (t : Tally) : Tick → UInt64
  | .request => t.requests
  | .replay => t.replays
  | .execution => t.executions
  | .cached => t.cached
  | .lostRace => t.lostRaces
  | .conflict => t.conflicts
  | .rejectedKey => t.rejectedKeys
  | .storeFailure => t.storeFailures

theorem shows_count (t : Tally) (a b : Tick) :
    (t.count a).shows b = t.shows b + if a = b then 1 else 0 := by
  cases a <;> cases b <;> first | rfl | exact (UInt64.add_zero _).symm

end Tally

-- Where a scraper finds the requests that ended with a label.
def outcomeSeries (label : String) : Series :=
  ⟨"idempotency_requests_total", [("outcome", label)]⟩

namespace Counters

theorem valueOf_record_outcome (c : Counters) (label l : String) :
    (c.record (.outcome label)).valueOf (outcomeSeries l) =
      c.valueOf (outcomeSeries l) + if label = l then 1 else 0 := by
  by_cases same : label = l
  · subst same
    rw [if_pos rfl]
    exact valueOf_add_self (outcomeSeries label) 1 c
  · have other : outcomeSeries l ≠ outcomeSeries label := by
      simp [outcomeSeries, Ne.symm same]
    rw [if_neg same, UInt64.add_zero]
    exact valueOf_add_of_ne other 1 c

theorem valueOf_record_other (c : Counters) {m : Measurement} (other : ∀ label, m ≠ .outcome label)
    (l : String) : (c.record m).valueOf (outcomeSeries l) = c.valueOf (outcomeSeries l) := by
  cases m with
  | outcome label => exact absurd rfl (other label)
  | _ => simp [record, Measurement.increments, valueOf_add_of_ne, outcomeSeries]

inductive Measures : Counters → Counters → Prop where
  | nothing (c : Counters) : Measures c c
  | more {c c' : Counters} (m : Measurement) (other : ∀ label, m ≠ .outcome label)
      (measures : Measures c c') : Measures c (c'.record m)

theorem Measures.valueOf_eq {c c' : Counters} (measures : Measures c c') (l : String) :
    c'.valueOf (outcomeSeries l) = c.valueOf (outcomeSeries l) := by
  induction measures with
  | nothing => rfl
  | more m other _ ih => rw [valueOf_record_other _ other, ih]

end Counters

namespace Rehearsal.Scene

variable {β : Type}

def hear (s : Scene β) (at_ : Timestamp) (task : Nat) : Ask → Scene β
  | .report n => s.note at_ task n
  | _ => s

theorem leave_tally (s : Scene β) (at_ : Timestamp) (task : Nat) :
    (s.leave at_ task).tally = s.tally := by
  unfold leave
  split <;> rfl

theorem leave_counters (s : Scene β) (at_ : Timestamp) (task : Nat) :
    (s.leave at_ task).counters = s.counters := by
  unfold leave
  split <;> rfl

end Rehearsal.Scene

namespace Request

open Rehearsal (Scene)

theorem shows_hear {β : Type} (s : Scene β) (at_ : Timestamp) (task : Nat) (q : Ask) (r : q.Answer)
    (t : Tick) : (s.hear at_ task q).tally.shows t =
      s.tally.shows t + .ofNat ((marksOf q r).count (.tick t)) := by
  match q, r with
  | .report (.tick a), _ =>
    rw [Scene.hear, Scene.note, Tally.shows_count]
    by_cases same : a = t <;> simp [marksOf, same]
  | .report (.measure m), _ => cases m <;> simp [Scene.hear, Scene.note, marksOf]
  | .report .leave, _ => simp [Scene.hear, Scene.note, Scene.leave_tally, marksOf]
  | .report (.event _), _ | .report (.enter _), _ | .now, _ | .sleep _, _ | .acquire _ _, _
  | .release _, _ | .operate, .ok _ | .operate, .error _ | .lookup _, .ok _ | .lookup _, .error _
  | .write _ _, .ok .written | .write _ _, .ok (.alreadyExists _) | .write _ _, .error _ =>
    simp [Scene.hear, Scene.note, Scene.write, marksOf]

theorem valueOf_hear {β : Type} (s : Scene β) (at_ : Timestamp) (task : Nat) (q : Ask)
    (r : q.Answer) (l : String) : (s.hear at_ task q).counters.valueOf (outcomeSeries l) =
      s.counters.valueOf (outcomeSeries l) + .ofNat ((marksOf q r).count (.ended l)) := by
  match q, r with
  | .report (.measure (.outcome label)), _ =>
    rw [Scene.hear, Scene.note, Counters.valueOf_record_outcome]
    by_cases same : label = l <;> simp [marksOf, same]
  | .report (.measure (.storeOperation ..)), _ | .report (.measure (.lockAcquisition _)), _
  | .report (.measure (.sweep _)), _ | .report (.measure (.httpRequest ..)), _ =>
    rw [Scene.hear, Scene.note, Counters.valueOf_record_other _ (by simp)]
    simp [marksOf]
  | .report .leave, _ => simp [Scene.hear, Scene.note, Scene.leave_counters, marksOf]
  | .report (.tick _), _ | .report (.event _), _ | .report (.enter _), _ | .now, _ | .sleep _, _
  | .acquire _ _, _ | .release _, _ | .operate, .ok _ | .operate, .error _ | .lookup _, .ok _
  | .lookup _, .error _ | .write _ _, .ok .written | .write _ _, .ok (.alreadyExists _)
  | .write _ _, .error _ => simp [Scene.hear, Scene.note, Scene.write, marksOf]

def heard (S : Surroundings Ask Ask.Answer) : Surroundings Ask Ask.Answer where
  State := Scene S.State
  answers now s q r s' := S.answers now s.props q r s'.props ∧
    ∃ task, s'.tally = (s.hear now task q).tally ∧ (s.hear now task q).counters.Measures s'.counters
  changes now s s' := (s'.props = s.props ∨ S.changes now s.props s'.props) ∧
    s'.tally = s.tally ∧ s.counters.Measures s'.counters
  shows := S.shows

section

variable {ι : Type}

def marks (history : List (Exchange ι Ask Ask.Answer)) : List Mark :=
  history.flatMap fun e => marksOf e.question e.answer

variable [DecidableEq ι] {S : Surroundings Ask Ask.Answer}
  {w₀ w : World (heard S) ι (Except Failure Outcome)}

theorem tally_of_reaches (begun : w₀.history = []) (fresh : w₀.state.tally = {})
    (run : World.Reaches w₀ w) (t : Tick) :
    w.state.tally.shows t = .ofNat ((marks w.history).count (.tick t)) := by
  induction run with
  | refl =>
    rw [begun, fresh]
    cases t <;> rfl
  | @tail v w _ step ih =>
    cases step with
    | pass => exact ih
    | change s changes => exact (congrArg (Tally.shows · t) changes.2.1).trans ih
    | answer i q next r s asks answers =>
      obtain ⟨-, task, tally, -⟩ := answers
      rw [World.answered_state, World.answered_history, tally, shows_hear v.state v.now task q r, ih]
      simp [marks, UInt64.add_comm]

theorem series_of_reaches (begun : w₀.history = []) (fresh : w₀.state.counters = [])
    (run : World.Reaches w₀ w) (l : String) :
    w.state.counters.valueOf (outcomeSeries l) = .ofNat ((marks w.history).count (.ended l)) := by
  induction run with
  | refl =>
    rw [begun, fresh]
    rfl
  | @tail v w _ step ih =>
    cases step with
    | pass => exact ih
    | change s changes => exact (changes.2.2.valueOf_eq l).trans ih
    | answer i q next r s asks answers =>
      obtain ⟨-, task, -, measures⟩ := answers
      rw [World.answered_state, World.answered_history, measures.valueOf_eq,
        valueOf_hear v.state v.now task q r, ih]
      simp [marks, UInt64.add_comm]

theorem count_marks (m : Mark) {tasks : Finset ι} {history : List (Exchange ι Ask Ask.Answer)}
    (all : ∀ e ∈ history, e.task ∈ tasks) :
    (marks history).count m = ∑ i ∈ tasks, (sheet.stage [] i history).count m := by
  induction history with
  | nil => simp [marks, Discipline.stage]
  | cons e earlier ih =>
    obtain ⟨mine, others⟩ := List.forall_mem_cons.1 all
    have one (i : ι) : (sheet.stage [] i (e :: earlier)).count m =
        (if e.task = i then (marksOf e.question e.answer).count m else 0) +
          (sheet.stage [] i earlier).count m := by
      by_cases same : e.task = i <;> simp [Discipline.stage, sheet, same]
    simp only [one, Finset.sum_add_distrib, Finset.sum_ite_eq, mine, if_true, ← ih others]
    simp [marks]

-- The requests that got an answer to their first report.
def begun (w : World (heard S) ι (Except Failure Outcome)) : Finset ι :=
  (w.history.map (·.task)).toFinset

def ended (k : Kind) (w : World (heard S) ι (Except Failure Outcome)) : Nat :=
  ((begun w).filter fun i => (w.tasks i).result?.map Kind.of = some k).card

def labelled (l : String) (w : World (heard S) ι (Except Failure Outcome)) : Nat :=
  ((begun w).filter fun i => (w.tasks i).result?.bind label? = some l).card

def made (m : Mark) (w : World (heard S) ι (Except Failure Outcome)) : Nat :=
  (marks w.history).count m

def Shows (w : World (heard S) ι (Except Failure Outcome)) (word : UInt64) (n : Nat) : Prop :=
  word = .ofNat n ∧ ((begun w).card < UInt64.size → word.toNat = n)

theorem shows_of_le {word : UInt64} {n : Nat} (shown : word = .ofNat n)
    (bound : n ≤ (begun w).card) : Shows w word n := by
  refine ⟨shown, fun few => ?_⟩
  rw [shown]
  exact UInt64.toNat_ofNat_of_lt (lt_of_le_of_lt bound few)

structure Balanced (w : World (heard S) ι (Except Failure Outcome)) : Prop where
  requests : Shows w w.state.tally.requests (begun w).card
  ends : (begun w).card = ended .rejected w + ended .replayed w + ended .conflict w +
    ended .cached w + ended .uncached w + ended .mismatch w + ended .failed w
  rejectedKeys : Shows w w.state.tally.rejectedKeys (ended .rejected w)
  replays : Shows w w.state.tally.replays (ended .replayed w)
  conflicts : Shows w w.state.tally.conflicts (ended .conflict w)
  cached : Shows w w.state.tally.cached (ended .cached w)
  executions : Shows w w.state.tally.executions (made .operated w)
  operated : made .operated w =
    ended .cached w + made .lost w + ended .uncached w + made .failed w
  lostRaces : Shows w w.state.tally.lostRaces (made .lost w)
  storeFailures : Shows w w.state.tally.storeFailures (made .misread w + made .miswritten w)
  outcomes : ∀ l, Shows w (w.state.counters.valueOf (outcomeSeries l)) (labelled l w)

-- The sum of what the requests that ended contribute, each by its sheet and its result.
def total (f : List Mark → Except Failure Outcome → Nat)
    (w : World (heard S) ι (Except Failure Outcome)) : Nat :=
  ∑ i ∈ begun w, ((w.tasks i).result?.map (f (sheet.stage [] i w.history))).getD 0

theorem total_add (f g : List Mark → Except Failure Outcome → Nat) :
    total (fun marks result => f marks result + g marks result) w = total f w + total g w := by
  rw [total, total, total, ← Finset.sum_add_distrib]
  refine Finset.sum_congr rfl fun i _ => ?_
  cases (w.tasks i).result? <;> rfl

theorem ended_eq_total (k : Kind) : ended k w = total (fun _ result => k.share result) w := by
  rw [ended, total, Finset.card_filter]
  refine Finset.sum_congr rfl fun i _ => ?_
  cases (w.tasks i).result? with
  | none => rfl
  | some result => simp [Kind.share]

theorem labelled_eq_total (l : String) :
    labelled l w = total (fun _ result => if label? result = some l then 1 else 0) w := by
  rw [labelled, total, Finset.card_filter]
  refine Finset.sum_congr rfl fun i _ => ?_
  cases (w.tasks i).result? with
  | none => rfl
  | some result => rfl

section

variable (allEnded : ∀ i ∈ begun w, ∃ result, w.tasks i = .done result)

include allEnded

theorem made_eq_total (m : Mark) : made m w = total (fun marks _ => marks.count m) w := by
  rw [made, count_marks m fun _ present => List.mem_toFinset.2 (List.mem_map_of_mem present)]
  refine Finset.sum_congr rfl fun i present => ?_
  obtain ⟨result, done⟩ := allEnded i present
  rw [done]
  rfl

theorem card_eq_total : (begun w).card = total (fun _ _ => 1) w := by
  rw [Finset.card_eq_sum_ones]
  refine Finset.sum_congr rfl fun i present => ?_
  obtain ⟨result, done⟩ := allEnded i present
  rw [done]
  rfl

variable {c : Context} {requests : ι → Request}
  (starts : w₀.Starts fun i => execute c (requests i)) (run : World.Reaches w₀ w)

include starts run

theorem total_congr {f g : List Mark → Except Failure Outcome → Nat}
    (same : ∀ marks result, Settled marks result → f marks result = g marks result) :
    total f w = total g w := by
  refine Finset.sum_congr rfl fun i present => ?_
  obtain ⟨result, done⟩ := allEnded i present
  have settled := World.ends_of_done starts (Sheet.execute_settles c (requests i)) run done
  simp [done, Program.result?, same _ result settled]

theorem made_eq_of_settled {m : Mark} {f : List Mark → Except Failure Outcome → Nat}
    (same : ∀ marks result, Settled marks result → marks.count m = f marks result) :
    made m w = total f w :=
  (made_eq_total allEnded m).trans (total_congr allEnded starts run same)

theorem total_le {f : List Mark → Except Failure Outcome → Nat}
    (bound : ∀ marks result, Settled marks result → f marks result ≤ 1) :
    total f w ≤ (begun w).card := by
  have split := total_congr allEnded starts run fun marks result settled =>
    (Nat.add_sub_of_le (bound marks result settled)).symm
  rw [card_eq_total allEnded, split, total_add]
  exact Nat.le_add_right _ _

theorem made_kind {k : Kind} {t : Tick} (own : k.tick? = some t) :
    made (.tick t) w = ended k w := by
  rw [ended_eq_total]
  exact made_eq_of_settled allEnded starts run fun _ _ settled => settled.kinds k t own

theorem made_storeFailure :
    made (.tick .storeFailure) w = made .misread w + made .miswritten w := by
  rw [made_eq_total allEnded .misread, made_eq_total allEnded .miswritten, ← total_add]
  exact made_eq_of_settled allEnded starts run fun _ _ settled => settled.storeFailures

theorem made_operated :
    made .operated w = ended .cached w + made .lost w + ended .uncached w + made .failed w := by
  rw [made_eq_total allEnded .lost, made_eq_total allEnded .failed]
  simp only [ended_eq_total, ← total_add]
  exact made_eq_of_settled allEnded starts run fun _ _ settled => settled.operated

theorem failures_le : made .misread w + made .miswritten w ≤ (begun w).card := by
  rw [made_eq_total allEnded, made_eq_total allEnded, ← total_add]
  exact total_le allEnded starts run fun _ _ settled => settled.storeFailures_le

end

-- When every request that was begun has ended, the tally and the series of the outcomes add up.
theorem tally_balances {c : Context} {requests : ι → Request}
    (starts : w₀.Starts fun i => execute c (requests i)) (tally : w₀.state.tally = {})
    (counters : w₀.state.counters = []) (run : World.Reaches w₀ w)
    (allEnded : ∀ i ∈ begun w, ∃ result, w.tasks i = .done result) : Balanced w := by
  have words := tally_of_reaches starts.2 tally run
  have series := series_of_reaches starts.2 counters run
  have ended_le (k : Kind) : ended k w ≤ (begun w).card := Finset.card_filter_le _ _
  have shows_kind (k : Kind) (t : Tick) (own : k.tick? = some t) :
      Shows w (w.state.tally.shows t) (ended k w) :=
    shows_of_le (made_kind allEnded starts run own ▸ words t) (ended_le k)
  have operated := made_operated allEnded starts run
  have operated_le : made .operated w ≤ (begun w).card := by
    rw [made_eq_total allEnded]
    exact total_le allEnded starts run fun _ _ settled => settled.operated_le
  constructor
  case requests =>
    have all : made (.tick .request) w = (begun w).card := by
      rw [card_eq_total allEnded]
      exact made_eq_of_settled allEnded starts run fun _ _ settled => settled.requests
    exact shows_of_le (all ▸ words .request) le_rfl
  case ends =>
    simp only [ended_eq_total, ← total_add]
    rw [card_eq_total allEnded]
    exact total_congr allEnded starts run fun _ result _ => (Kind.share_total result).symm
  case rejectedKeys => exact shows_kind _ .rejectedKey rfl
  case replays => exact shows_kind _ .replay rfl
  case conflicts => exact shows_kind _ .conflict rfl
  case cached => exact shows_kind _ .cached rfl
  case executions =>
    have all : made (.tick .execution) w = made .operated w := by
      rw [made_eq_total allEnded .operated]
      exact made_eq_of_settled allEnded starts run fun _ _ settled => settled.executions
    exact shows_of_le (all ▸ words .execution) operated_le
  case operated => exact operated
  case lostRaces =>
    have all : made (.tick .lostRace) w = made .lost w := by
      rw [made_eq_total allEnded .lost]
      exact made_eq_of_settled allEnded starts run fun _ _ settled => settled.lostRaces
    exact shows_of_le (all ▸ words .lostRace) (by omega)
  case storeFailures =>
    have all := made_storeFailure allEnded starts run
    exact shows_of_le (all ▸ words .storeFailure) (failures_le allEnded starts run)
  case outcomes =>
    intro l
    have all : made (.ended l) w = labelled l w := by
      rw [labelled_eq_total]
      exact made_eq_of_settled allEnded starts run fun _ _ settled => settled.labels l
    exact shows_of_le (all ▸ series l) (Finset.card_filter_le _ _)

end

def heardReply (now : Timestamp) (s : Scene (Shared .memory)) (q : Ask) :
    Option (q.Answer × Scene (Shared .memory)) :=
  (s.props.reply (.ok created) now q).map fun (r, props) => (r, { s.hear now 0 q with props })

def heardRace : World (heard (overMemory .memory)) Bool (Except Failure Outcome) :=
  { now := .epoch, state := ({ props := ⟨{}, {}⟩ } : Scene (Shared .memory))
    tasks := fun _ => execute withoutLocks placeOrder, history := [] }

def heardRaced : World (heard (overMemory .memory)) Bool (Except Failure Outcome) :=
  heardRace.play heardReply (List.replicate 13 [false, true]).flatten

theorem heardRace_reaches : World.Reaches heardRace heardRaced := by
  refine World.reaches_play (fun now s q r s' replied => ?_) heardRace _
  obtain ⟨⟨r, props⟩, answered, same⟩ := Option.map_eq_some_iff.1 replied
  cases same
  exact ⟨Shared.answers_of_reply _ _ _ _ _ _ answered, 0, rfl, .nothing _⟩

set_option maxRecDepth 4000 in
theorem balance_of_race :
    heardRaced.state.tally =
        { requests := 2, replays := 1, executions := 2, cached := 1, lostRaces := 1 } ∧
      Balanced heardRaced := by
  have starts : heardRace.Starts fun _ => execute withoutLocks placeOrder := ⟨rfl, rfl⟩
  refine ⟨rfl, tally_balances starts rfl rfl heardRace_reaches fun i _ => ?_⟩
  cases i with
  | false => exact ⟨.ok (.executedCached created firstCreated.expiresAt), rfl⟩
  | true => exact ⟨.ok (.replayed firstCreated), rfl⟩

end Request

end OncePerKey
