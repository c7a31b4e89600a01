import OncePerKey.Proofs.Store.Sequence
import OncePerKey.Sweep

set_option autoImplicit false

namespace OncePerKey

namespace Program

variable {Q : Type} {R : Q → Type} {σ α β : Type}

-- Every question has an answer, and whichever it is, the program comes to such an end.
def Ensures (answers : (q : Q) → σ → R q → σ → Prop) : Program Q R α → σ → (α → σ → Prop) → Prop
  | .done a, s, post => post a s
  | .ask q next, s, post =>
      (∃ r s', answers q s r s') ∧ ∀ r s', answers q s r s' → (next r).Ensures answers s' post

variable {answers : (q : Q) → σ → R q → σ → Prop}

@[simp] theorem ensures_done {a : α} {s : σ} {post : α → σ → Prop} :
    (done a : Program Q R α).Ensures answers s post ↔ post a s := .rfl

theorem Ensures.mono {p : Program Q R α} {s : σ} {post post' : α → σ → Prop}
    (ensured : p.Ensures answers s post) (weaker : ∀ a s', post a s' → post' a s') :
    p.Ensures answers s post' := by
  induction p generalizing s with
  | done a => exact weaker a s ensured
  | ask q next ih => exact ⟨ensured.1, fun r s' answered => ih r (ensured.2 r s' answered)⟩

theorem ensures_bind {p : Program Q R α} {f : α → Program Q R β} {s : σ} {post : β → σ → Prop} :
    (p.bind f).Ensures answers s post ↔
      p.Ensures answers s fun a s' => (f a).Ensures answers s' post := by
  induction p generalizing s with
  | done a => rfl
  | ask q next ih => simp only [ask_bind, Ensures, ih]

end Program

namespace MemoryStore

def backlog (now : Timestamp) (s : MemoryStore) : Nat :=
  s.entries.countP fun entry => !entry.2.isLiveAt now

theorem length_dropExpired (now : Timestamp) (limit : Nat) (entries : List (CompositeKey × Cached)) :
    (dropExpired now limit entries).length +
      min limit (entries.countP fun entry => !entry.2.isLiveAt now) = entries.length := by
  induction entries generalizing limit with
  | nil => cases limit <;> simp [dropExpired]
  | cons entry rest ih =>
    obtain ⟨key, r⟩ := entry
    cases limit with
    | zero => simp [dropExpired]
    | succ limit =>
      by_cases live : r.isLiveAt now
      · have := ih (limit + 1)
        simp [dropExpired, live]
        omega
      · have := ih limit
        simp [dropExpired, live]
        omega

theorem countP_dropExpired (now : Timestamp) (limit : Nat) (entries : List (CompositeKey × Cached)) :
    ((dropExpired now limit entries).countP fun entry => !entry.2.isLiveAt now) =
      (entries.countP fun entry => !entry.2.isLiveAt now) - limit := by
  induction entries generalizing limit with
  | nil => cases limit <;> simp [dropExpired]
  | cons entry rest ih =>
    obtain ⟨key, r⟩ := entry
    cases limit with
    | zero => simp [dropExpired]
    | succ limit => by_cases live : r.isLiveAt now <;> simp [dropExpired, live, ih]

variable {s t u : MemoryStore} {now : Timestamp} {key : CompositeKey} {c : Cached}

structure Relieved (now : Timestamp) (n : Nat) (s t : MemoryStore) : Prop where
  size : s.size = t.size + n
  backlog : s.backlog now = t.backlog now + n
  unchanged : ∀ {key c}, t.kept? key = some c → s.kept? key = some c
  expired : ∀ {key c}, s.kept? key = some c → t.kept? key = none → c.expiresAt ≤ now

namespace Relieved

theorem refl (now : Timestamp) (s : MemoryStore) : Relieved now 0 s s where
  size := rfl
  backlog := rfl
  unchanged kept := kept
  expired kept gone := by simp [kept] at gone

theorem trans {m n : Nat} (first : Relieved now m s t) (second : Relieved now n t u) :
    Relieved now (m + n) s u where
  size := by rw [first.size, second.size]; omega
  backlog := by rw [first.backlog, second.backlog]; omega
  unchanged kept := first.unchanged (second.unchanged kept)
  expired {key c} kept gone := by
    cases between : t.kept? key with
    | none => exact first.expired kept between
    | some d =>
      obtain rfl : c = d := by simpa [kept] using first.unchanged between
      exact second.expired between gone

theorem kept?_of_live {n : Nat} (relieved : Relieved now n s t) (kept : s.kept? key = some c)
    (live : now < c.expiresAt) : t.kept? key = some c := by
  cases found : t.kept? key with
  | none => exact absurd (relieved.expired kept found) (not_le.2 live)
  | some d => simpa [kept] using (relieved.unchanged found).symm

end Relieved

theorem relieved_of_perm (perm : t.entries.Perm s.entries) (now : Timestamp) : Relieved now 0 s t where
  size := perm.length_eq.symm
  backlog := (perm.countP_eq _).symm
  unchanged kept := by simpa only [kept?_iff_mem, perm.mem_iff] using kept
  expired {key c} kept gone := by
    rw [kept?_iff_mem, ← perm.mem_iff, ← kept?_iff_mem] at kept
    simp [kept] at gone

theorem relieved_deleteExpired (now : Timestamp) (s : MemoryStore) (limit : Int) :
    Relieved now (min limit.toNat (s.backlog now)) s (s.deleteExpired now limit).2 where
  size := (length_dropExpired now limit.toNat s.entries).symm
  backlog := by
    have left := countP_dropExpired now limit.toNat s.entries
    simp only [MemoryStore.backlog, deleteExpired, left]
    omega
  unchanged := kept?_of_kept?_deleteExpired
  expired {key c} kept gone := by
    by_contra live
    have alive : c.isLiveAt now = true := (c.isLiveAt_iff now).2 (not_le.1 live)
    have present := mem_dropExpired_of_isLiveAt alive limit.toNat (kept?_iff_mem.1 kept)
    have remains : (s.deleteExpired now limit).2.kept? key = some c := kept?_iff_mem.2 present
    simp [remains] at gone

theorem fst_deleteExpired (now : Timestamp) (s : MemoryStore) (limit : Int) :
    (s.deleteExpired now limit).1 = min limit.toNat (s.backlog now) := by
  have size := (relieved_deleteExpired now s limit).size
  change s.size - (s.deleteExpired now limit).2.size = _
  omega

theorem backlog_eq_zero_iff :
    s.backlog now = 0 ↔ ∀ key c, s.kept? key = some c → now < c.expiresAt := by
  simp only [backlog, List.countP_eq_zero, kept?_iff_mem, Prod.forall, Bool.not_eq_true',
    Bool.not_eq_false, Cached.isLiveAt_iff]

-- Where nothing has expired nothing can go.
theorem Relieved.kept?_eq {n : Nat} (relieved : Relieved now n s t) (clear : s.backlog now = 0)
    (key : CompositeKey) : t.kept? key = s.kept? key := by
  cases kept : s.kept? key with
  | none =>
    cases found : t.kept? key with
    | none => rfl
    | some c => simp [relieved.unchanged found] at kept
  | some c => exact relieved.kept?_of_live kept (backlog_eq_zero_iff.1 clear key c kept)

end MemoryStore

namespace Sweep

open MemoryStore

structure Progress where
  store : MemoryStore
  batches : Nat

-- Who holds the clock still and writes nothing answers like this. A batch goes through the entries in any
-- order.
inductive Answers (now : Timestamp) : (q : Ask) → Progress → q.Answer → Progress → Prop where
  | now (p : Progress) : Answers now .now p now p
  | deleted (p : Progress) (limit : Int64) (t : MemoryStore) (order : t.entries.Perm p.store.entries) :
      Answers now (.deleteExpired now limit) p (.ok (.ofNat (t.deleteExpired now limit.toInt).1))
        ⟨(t.deleteExpired now limit.toInt).2, p.batches + 1⟩
  | reported (p : Progress) (note : Note) : Answers now (.report note) p () p

variable {now : Timestamp} {p : Progress} {α : Type}

theorem ensures_now {next : Timestamp → Sweeping α} {post : α → Progress → Prop}
    (ensured : (next now).Ensures (Answers now) p post) :
    ((Sweeping.ask .now).bind next).Ensures (Answers now) p post := by
  refine ⟨⟨now, p, .now p⟩, fun r p' answered => ?_⟩
  cases answered
  exact ensured

theorem ensures_report {note : Note} {next : Unit → Sweeping α} {post : α → Progress → Prop}
    (ensured : (next ()).Ensures (Answers now) p post) :
    ((Sweeping.ask (.report note)).bind next).Ensures (Answers now) p post := by
  refine ⟨⟨(), p, .reported p note⟩, fun r p' answered => ?_⟩
  cases answered
  exact ensured

theorem ensures_deleteExpired {limit : Int64} {b : Nat} (size : limit.toInt = b)
    {next : Except Failure UInt64 → Sweeping α} {post : α → Progress → Prop}
    (ensured : ∀ t, Relieved now (min b (p.store.backlog now)) p.store t →
      (next (.ok (.ofNat (min b (p.store.backlog now))))).Ensures (Answers now) ⟨t, p.batches + 1⟩ post) :
    ((Sweeping.ask (.deleteExpired now limit)).bind next).Ensures (Answers now) p post := by
  refine ⟨⟨_, _, .deleted p limit p.store (.refl _)⟩, fun r p' answered => ?_⟩
  cases answered with
  | deleted _ _ t order =>
    have arranged := relieved_of_perm order now
    have same : t.backlog now = p.store.backlog now := arranged.backlog.symm
    have taken := fst_deleteExpired now t limit.toInt
    have relieved := arranged.trans (relieved_deleteExpired now t limit.toInt)
    rw [size, Int.toNat_natCast, same] at taken relieved
    rw [Nat.zero_add] at relieved
    rw [size, taken]
    exact ensured _ relieved

theorem ofNat_lt_toUInt64_iff {limit : Int64} {b n : Nat} (size : limit.toInt = b) (most : n ≤ b) :
    UInt64.ofNat n < limit.toUInt64 ↔ n < b := by
  have whole : limit.toInt = limit.toBitVec.toInt := rfl
  have word : limit.toUInt64.toNat = limit.toBitVec.toNat := rfl
  have fits := limit.toBitVec.isLt
  have signed := limit.toInt_lt
  have words : UInt64.size = 2 ^ 64 := rfl
  rw [BitVec.toInt_eq_toNat_cond] at whole
  rw [UInt64.lt_iff_toNat_lt, UInt64.toNat_ofNat_of_lt' (by omega)]
  split at whole <;> omega

variable {settings : SweepSettings} {b : Nat}

theorem ensures_batches (size : settings.batchSize.toInt = b) (positive : 0 < b) (left : Nat)
    (total : UInt64) :
    (batches settings left total).Ensures (Answers now) p fun result p' =>
      result = .ok (total + .ofNat (min (p.store.backlog now) (b * left))) ∧
        Relieved now (min (p.store.backlog now) (b * left)) p.store p'.store ∧
        p'.batches = p.batches + min left (p.store.backlog now / b + 1) := by
  induction left generalizing total p with
  | zero => simpa [batches] using Relieved.refl now p.store
  | succ left ih =>
    refine ensures_now (ensures_deleteExpired size fun t relieved => ?_)
    have stops := ofNat_lt_toUInt64_iff size (Nat.min_le_left b (p.store.backlog now))
    have rest := relieved.backlog
    generalize p.store.backlog now = n at *
    by_cases short : n < b
    · have all : n ≤ b * (left + 1) := short.le.trans (Nat.le_mul_of_pos_right _ (Nat.succ_pos left))
      rw [Nat.min_eq_right short.le] at relieved stops ⊢
      simp [stops, short, Nat.min_eq_left all, Nat.div_eq_of_lt short, relieved]
    · have full := not_lt.1 short
      have cap : min n (b * (left + 1)) = b + min (n - b) (b * left) := by
        rw [Nat.mul_succ]
        omega
      have more : n / b = (n - b) / b + 1 := Nat.div_eq_sub_div positive full
      rw [Nat.min_eq_left full] at relieved rest stops ⊢
      simp only [stops, Nat.lt_irrefl, if_false]
      refine (ih _).mono fun result p' ended => ?_
      obtain ⟨sum, relieved', count⟩ := ended
      have left' : t.backlog now = n - b := by omega
      simp only [left'] at sum relieved' count
      refine ⟨?_, cap ▸ relieved.trans relieved', ?_⟩
      · rw [sum, cap, UInt64.ofNat_add, UInt64.add_assoc]
      · rw [count, more]
        omega

theorem ensures_sweep (size : settings.batchSize.toInt = b) (positive : 0 < b) :
    (sweep settings).Ensures (Answers now) p fun result p' =>
      let cap := b * settings.maxBatchesPerSweep.toNat
      result = .ok (.ofNat (min (p.store.backlog now) cap)) ∧
        Relieved now (min (p.store.backlog now) cap) p.store p'.store ∧
        p'.batches = p.batches +
          min settings.maxBatchesPerSweep.toNat (p.store.backlog now / b + 1) := by
  refine Program.ensures_bind.2 ((ensures_batches size positive _ 0).mono fun result p' ended => ?_)
  obtain ⟨rfl, relieved⟩ := ended
  exact ensures_report ⟨by rw [UInt64.zero_add], relieved⟩

def repeated (settings : SweepSettings) : Nat → Sweeping (List (Except Failure UInt64))
  | 0 => return []
  | k + 1 => do
      let result ← sweep settings
      let results ← repeated settings k
      return result :: results

theorem ensures_repeated (size : settings.batchSize.toInt = b) (positive : 0 < b) (k : Nat) :
    (repeated settings k).Ensures (Answers now) p fun results p' =>
      let cap := b * settings.maxBatchesPerSweep.toNat
      results = (List.range k).map (fun i => .ok (.ofNat (min (p.store.backlog now - i * cap) cap))) ∧
        Relieved now (min (p.store.backlog now) (k * cap)) p.store p'.store := by
  induction k generalizing p with
  | zero => simpa [repeated] using Relieved.refl now p.store
  | succ k ih =>
    refine Program.ensures_bind.2 ((ensures_sweep size positive).mono fun result p' ended => ?_)
    obtain ⟨rfl, relieved, -⟩ := ended
    have rest := relieved.backlog
    generalize b * settings.maxBatchesPerSweep.toNat = cap at *
    refine Program.ensures_bind.2 (ih.mono fun results p'' ended => ?_)
    obtain ⟨rfl, relieved'⟩ := ended
    have next (i : Nat) : p'.store.backlog now - i * cap = p.store.backlog now - (i + 1) * cap := by
      rw [Nat.succ_mul]
      omega
    have sum : min (p.store.backlog now) cap + min (p'.store.backlog now) (k * cap) =
        min (p.store.backlog now) ((k + 1) * cap) := by
      rw [Nat.succ_mul]
      omega
    refine ⟨?_, sum ▸ relieved.trans relieved'⟩
    simp [List.range_succ_eq_map, next]

-- With `n` expired entries, batches of `b` and at most `m` of them, a sweep takes `min n (b * m)` entries in
-- `min m (n / b + 1)` batches.
theorem sweep_takes_backlog {m n : Nat} (size : settings.batchSize.toInt = b)
    (most : settings.maxBatchesPerSweep.toNat = m) (positive : 0 < b) (allowed : 0 < m) (s : MemoryStore)
    (due : s.backlog now = n) :
    ((sweep settings).Ensures (Answers now) ⟨s, 0⟩ fun result p =>
      (∃ total, result = .ok total ∧ total = .ofNat (min n (b * m)) ∧
        (n < UInt64.size → total.toNat = min n (b * m))) ∧
      s.size = p.store.size + min n (b * m) ∧
      (∀ key c, s.kept? key = some c → p.store.kept? key = none → c.expiresAt ≤ now) ∧
      (∀ key c, now < c.expiresAt → (p.store.kept? key = some c ↔ s.kept? key = some c)) ∧
      (∀ key c, p.store.kept? key = some c → s.kept? key = some c) ∧
      p.batches = min m (n / b + 1)) ∧
    (∀ k, (repeated settings k).Ensures (Answers now) ⟨s, 0⟩ fun results p =>
      results = (List.range k).map (fun i => .ok (.ofNat (min (n - i * (b * m)) (b * m)))) ∧
      Relieved now (min n (k * (b * m))) s p.store) ∧
    ∃ k ≤ n, (repeated settings k).Ensures (Answers now) ⟨s, 0⟩ fun _ p =>
      (∀ key c, p.store.kept? key = some c → now < c.expiresAt) ∧
      ∀ j, (repeated settings j).Ensures (Answers now) p fun results q =>
        results = List.replicate j (.ok 0) ∧ ∀ key, q.store.kept? key = p.store.kept? key := by
  subst most due
  refine ⟨?_, fun k => ensures_repeated size positive k, _, le_rfl, ?_⟩
  · refine (ensures_sweep size positive).mono fun result p ended => ?_
    obtain ⟨rfl, relieved, count⟩ := ended
    refine ⟨⟨_, rfl, rfl, fun fits =>
        UInt64.toNat_ofNat_of_lt' ((Nat.min_le_left _ _).trans_lt fits)⟩, relieved.size,
      fun key c => relieved.expired, fun key c live => ⟨relieved.unchanged, fun kept => ?_⟩,
      fun key c => relieved.unchanged, by simpa using count⟩
    exact relieved.kept?_of_live kept live
  · have enough : s.backlog now ≤ s.backlog now * (b * settings.maxBatchesPerSweep.toNat) :=
      Nat.le_mul_of_pos_right _ (Nat.mul_pos positive allowed)
    refine (ensures_repeated size positive _).mono fun results p ended => ?_
    have clear : p.store.backlog now = 0 := by
      have rest := ended.2.backlog
      simp only [Nat.min_eq_left enough] at rest
      omega
    refine ⟨backlog_eq_zero_iff.1 clear, fun j => ?_⟩
    refine (ensures_repeated size positive j).mono fun results q ended => ?_
    obtain ⟨rfl, relieved⟩ := ended
    exact ⟨by simp [clear], relieved.kept?_eq clear⟩

def secondParcelKey : CompositeKey :=
  CompositeKey.build "POST" "/parcels" ⟨"k-2"⟩

def thirdParcelKey : CompositeKey :=
  CompositeKey.build "POST" "/parcels" ⟨"k-3"⟩

def parcelsAtNoon : MemoryStore :=
  ((({} : MemoryStore).put parcelKey morningParcel).put secondParcelKey laterParcel).put thirdParcelKey
    morningParcel

def twoAtATime : SweepSettings := { batchSize := 2, maxBatchesPerSweep := 5 }

theorem parcels_swept_at_noon :
    twoAtATime.batchSize.toInt = (2 : Nat) ∧ twoAtATime.maxBatchesPerSweep.toNat = 5 ∧
      parcelsAtNoon.backlog noon = 2 ∧
      (sweep twoAtATime).Ensures (Answers noon) ⟨parcelsAtNoon, 0⟩ fun result p =>
        result = .ok 2 ∧ p.batches = 2 ∧ p.store.size = 1 ∧
          p.store.kept? secondParcelKey = some laterParcel := by
  have size : twoAtATime.batchSize.toInt = (2 : Nat) := by decide
  have most : twoAtATime.maxBatchesPerSweep.toNat = 5 := by decide
  have due : parcelsAtNoon.backlog noon = 2 := by decide +kernel
  refine ⟨size, most, due, ?_⟩
  obtain ⟨swept, -⟩ := sweep_takes_backlog size most (by decide) (by decide) parcelsAtNoon due
  refine swept.mono fun result p ended => ?_
  obtain ⟨⟨total, rfl, rfl, -⟩, entries, -, live, -, count⟩ := ended
  have three : parcelsAtNoon.size = 3 := by decide +kernel
  have second : parcelsAtNoon.kept? secondParcelKey = some laterParcel := by decide +kernel
  exact ⟨rfl, count, by omega, (live _ _ (by decide)).2 second⟩

end Sweep

end OncePerKey
