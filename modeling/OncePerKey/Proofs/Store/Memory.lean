import Mathlib.Data.List.Perm.Basic
import OncePerKey.Proofs.Moment
import OncePerKey.Store.Memory

set_option autoImplicit false

namespace OncePerKey.MemoryStore

variable {s : MemoryStore} {key : CompositeKey} {c : Cached} {now : Timestamp}

theorem kept?_iff_mem : s.kept? key = some c ↔ (key, c) ∈ s.entries := by
  obtain ⟨entries, distinct⟩ := s
  simp only [kept?]
  -- No key has two entries, so the first one of a key is the only one.
  induction entries with
  | nil => simp
  | cons entry rest ih =>
    obtain ⟨k, r⟩ := entry
    simp only [List.map_cons, List.nodup_cons] at distinct
    by_cases same : key = k
    · subst same
      have absent : (key, c) ∉ rest := fun present => distinct.1 (List.mem_map_of_mem present)
      simp [absent, eq_comm]
    · simp [List.lookup_cons, beq_false_of_ne same, same, ih distinct.2]

theorem get_eq_some_iff : s.get now key = some c ↔ s.kept? key = some c ∧ now < c.expiresAt := by
  simp [get, Cached.isLiveAt_iff]

theorem get_of_le {earlier later : Timestamp} (order : earlier ≤ later)
    (live : s.get later key = some c) : s.get earlier key = some c := by
  rw [get_eq_some_iff] at live ⊢
  exact ⟨live.1, lt_of_le_of_lt order live.2⟩

theorem get_eq_none_of_le {earlier later : Timestamp} (order : earlier ≤ later)
    (absent : s.get earlier key = none) : s.get later key = none := by
  cases found : s.get later key with
  | none => rfl
  | some c => simp [get_of_le order found] at absent

theorem set_of_get_eq_none (absent : s.get now key = none) (c : Cached) :
    s.set now key c = (.written, s.put key c) := by
  simp [set, absent]

theorem set_of_get_eq_some {existing : Cached} (found : s.get now key = some existing) (c : Cached) :
    s.set now key c = (.alreadyExists existing, s) := by
  simp [set, found]

theorem get_deleteExpired {at_ : Timestamp} (order : at_ ≤ now) (limit : Int) (key : CompositeKey) :
    (s.deleteExpired at_ limit).2.get now key = s.get now key := by
  apply Option.ext
  intro c
  rw [get_eq_some_iff, get_eq_some_iff, kept?_iff_mem, kept?_iff_mem]
  constructor
  · rintro ⟨present, live⟩
    exact ⟨(dropExpired_sublist at_ limit.toNat s.entries).subset present, live⟩
  · rintro ⟨present, live⟩
    have liveThen : c.isLiveAt at_ = true :=
      (c.isLiveAt_iff at_).2 (lt_of_le_of_lt order live)
    exact ⟨mem_dropExpired_of_isLiveAt liveThen limit.toNat present, live⟩

theorem kept?_of_kept?_deleteExpired {at_ : Timestamp} {limit : Int}
    (kept : (s.deleteExpired at_ limit).2.kept? key = some c) : s.kept? key = some c := by
  rw [kept?_iff_mem] at kept ⊢
  exact (dropExpired_sublist at_ limit.toNat s.entries).subset kept

theorem kept?_of_perm {t : MemoryStore} (perm : t.entries.Perm s.entries) (key : CompositeKey) :
    t.kept? key = s.kept? key := by
  apply Option.ext
  intro c
  rw [kept?_iff_mem, kept?_iff_mem, perm.mem_iff]

theorem get_of_perm {t : MemoryStore} (perm : t.entries.Perm s.entries) (now : Timestamp)
    (key : CompositeKey) : t.get now key = s.get now key := by
  rw [get, get, kept?_of_perm perm]

end OncePerKey.MemoryStore
