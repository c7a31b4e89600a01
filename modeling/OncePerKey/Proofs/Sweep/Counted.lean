import OncePerKey.Proofs.Store.Sequence
import OncePerKey.Proofs.Told
import OncePerKey.Sweep

set_option autoImplicit false

namespace OncePerKey

namespace Sweep

abbrev Tale := List ((q : Ask) × q.Answer)

-- How much a batch deleted, if it did.
def taken : (q : Ask) → q.Answer → Nat
  | .deleteExpired _ _, .ok deleted => deleted.toNat
  | _, _ => 0

def deleted : Tale → Nat
  | [] => 0
  | e :: rest => taken e.1 e.2 + deleted rest

def measured (tale : Tale) : List Measurement :=
  tale.filterMap fun e => match e.1 with
    | .report (.measure m) => some m
    | _ => none

variable {settings : SweepSettings} {tale : Tale} {result : Except Failure UInt64}

theorem told_answered_iff {α : Type} {q : Ask} {next : q.Answer → Sweeping α} {a : α} :
    ((Sweeping.ask q).bind next).Told tale a ↔ ∃ r rest, tale = ⟨q, r⟩ :: rest ∧ (next r).Told rest a :=
  Program.told_ask_iff

theorem told_batches {left : Nat} {total : UInt64} (told : (batches settings left total).Told tale result) :
    measured tale = [] ∧ ∀ sum, result = .ok sum → sum = total + .ofNat (deleted tale) := by
  induction left generalizing total tale with
  | zero =>
    obtain ⟨rfl, rfl⟩ := Program.told_done_iff.1 told
    simp [measured, deleted]
  | succ left ih =>
    obtain ⟨now, _, rfl, asked⟩ := told_answered_iff.1 told
    obtain ⟨answer, rest, rfl, answered⟩ := told_answered_iff.1 asked
    cases answer with
    | error failure =>
      obtain ⟨rfl, rfl⟩ := Program.told_done_iff.1 answered
      simp [measured]
    | ok count =>
      have batch :
          UInt64.ofNat (deleted (⟨.now, now⟩ :: ⟨.deleteExpired now settings.batchSize, .ok count⟩ :: rest)) =
            count + .ofNat (deleted rest) := by
        simp [deleted, taken]
      rw [batch, ← UInt64.add_assoc]
      by_cases short : count < settings.batchSize.toUInt64
      · simp only [short, if_true] at answered
        obtain ⟨rfl, rfl⟩ := Program.told_done_iff.1 answered
        simp [measured, deleted]
      · simp only [short, if_false] at answered
        exact ih answered

@[simp] theorem measured_append (first rest : Tale) :
    measured (first ++ rest) = measured first ++ measured rest := by
  simp [measured]

@[simp] theorem deleted_append (first rest : Tale) :
    deleted (first ++ rest) = deleted first + deleted rest := by
  induction first with
  | nil => simp [deleted]
  | cons e first ih => simp [deleted, ih, Nat.add_assoc]

-- What a sweep that ended so tells the counter.
def tells : Except Failure UInt64 → List Measurement
  | .ok total => [.sweep total]
  | .error _ => []

theorem told_sweep (told : (sweep settings).Told tale result) :
    measured tale = tells result ∧ ∀ sum, result = .ok sum → sum = .ofNat (deleted tale) := by
  obtain ⟨outcome, first, rest, rfl, batched, reported⟩ := Program.told_bind_iff.1 told
  obtain ⟨silent, sum⟩ := told_batches batched
  cases outcome with
  | error failure =>
    obtain ⟨rfl, rfl⟩ := Program.told_done_iff.1 reported
    simp [silent, tells]
  | ok total =>
    obtain ⟨-, _, rfl, ended⟩ := told_answered_iff.1 reported
    obtain ⟨rfl, rfl⟩ := Program.told_done_iff.1 ended
    refine ⟨by rw [measured_append, silent]; rfl, fun sum' same => ?_⟩
    cases same
    rw [sum total rfl, UInt64.zero_add]
    simp [deleted, taken]

structure Made where
  settings : SweepSettings
  tale : Tale
  result : Except Failure UInt64
  told : (sweep settings).Told tale result

def Made.failed (s : Made) : Bool :=
  s.result matches .error _

def deletedBy : List Made → Nat
  | [] => 0
  | s :: rest => deleted s.tale + deletedBy rest

theorem deletedBy_eq_zero_iff {run : List Made} : deletedBy run = 0 ↔ ∀ s ∈ run, deleted s.tale = 0 := by
  induction run with
  | nil => simp [deletedBy]
  | cons s rest ih => simp [deletedBy, ih]

def counters (run : List Made) : Counters :=
  (run.flatMap fun s => measured s.tale).foldl .record []

def deletedTotal : Series := ⟨"idempotency_sweep_deleted_total", []⟩

theorem valueOf_record_sweep (c : Counters) (n : UInt64) :
    (c.record (.sweep n)).valueOf deletedTotal = c.valueOf deletedTotal + n := by
  have other : deletedTotal ≠ ⟨"idempotency_sweep_duration_ms_count", []⟩ := by decide
  simp only [Counters.record, Measurement.increments, List.foldl_cons, List.foldl_nil,
    Counters.valueOf_add_of_ne other]
  exact Counters.valueOf_add_self _ _ _

theorem valueOf_counters (run : List Made) :
    (counters run).valueOf deletedTotal = .ofNat (deletedBy (run.filter fun s => !s.failed)) := by
  suffices added : ∀ c : Counters,
      ((run.flatMap fun s => measured s.tale).foldl .record c).valueOf deletedTotal =
        c.valueOf deletedTotal + .ofNat (deletedBy (run.filter fun s => !s.failed)) by
    exact (added []).trans (UInt64.zero_add _)
  induction run with
  | nil => simp [deletedBy]
  | cons s rest ih =>
    intro c
    obtain ⟨said, sum⟩ := told_sweep s.told
    rw [List.flatMap_cons, List.foldl_append, ih, said]
    cases ended : s.result with
    | error failure => simp [tells, Made.failed, ended]
    | ok total =>
      simp [tells, Made.failed, ended, valueOf_record_sweep, deletedBy, sum total ended, UInt64.add_assoc]

theorem deletedBy_filter_add (run : List Made) (p : Made → Bool) :
    deletedBy (run.filter fun s => !p s) + deletedBy (run.filter p) = deletedBy run := by
  induction run with
  | nil => rfl
  | cons s rest ih =>
    cases kept : p s <;> simp [kept, deletedBy] <;> omega

-- The counter lacks what the batches of failed sweeps deleted.
theorem counter_eq_deleted_iff (run : List Made) (fits : deletedBy run < UInt64.size) :
    ((counters run).valueOf deletedTotal).toNat + deletedBy (run.filter (·.failed)) = deletedBy run ∧
      (((counters run).valueOf deletedTotal).toNat = deletedBy run ↔
        ∀ s ∈ run, s.failed → deleted s.tale = 0) := by
  have parts := deletedBy_filter_add run (·.failed)
  have word : ((counters run).valueOf deletedTotal).toNat = deletedBy (run.filter fun s => !s.failed) := by
    rw [valueOf_counters, UInt64.toNat_ofNat_of_lt' (by omega)]
  have none_lost : deletedBy (run.filter (·.failed)) = 0 ↔ ∀ s ∈ run, s.failed → deleted s.tale = 0 := by
    simp only [deletedBy_eq_zero_iff, List.mem_filter, and_imp]
  refine ⟨by omega, ?_⟩
  rw [← none_lost]
  omega

def fiveAtATime : SweepSettings := { batchSize := 5 }

def brokenOff : Made where
  settings := fiveAtATime
  tale := [⟨.now, MemoryStore.noon⟩, ⟨.deleteExpired MemoryStore.noon 5, .ok 5⟩, ⟨.now, MemoryStore.noon⟩,
    ⟨.deleteExpired MemoryStore.noon 5, .error (.storeUnavailable (.backend "down"))⟩]
  result := .error (.storeUnavailable (.backend "down"))
  told := .ask _ _ _ (.ask _ _ _ (.ask _ _ _ (.ask _ _ _ (.done _))))

def wentThrough : Made where
  settings := fiveAtATime
  tale := [⟨.now, MemoryStore.noon⟩, ⟨.deleteExpired MemoryStore.noon 5, .ok 2⟩,
    ⟨.report (.measure (.sweep 2)), ()⟩]
  result := .ok 2
  told := .ask _ _ _ (.ask _ _ _ (.ask _ _ _ (.done _)))

theorem brokenOff_not_counted :
    deletedBy [brokenOff, wentThrough] = 7 ∧
      ((counters [brokenOff, wentThrough]).valueOf deletedTotal).toNat = 2 := by
  have seven : deletedBy [brokenOff, wentThrough] = 7 := by decide
  have five : deletedBy ([brokenOff, wentThrough].filter (·.failed)) = 5 := by decide
  obtain ⟨sum, -⟩ := counter_eq_deleted_iff [brokenOff, wentThrough] (by rw [seven]; decide)
  exact ⟨seven, by omega⟩

end Sweep

end OncePerKey
