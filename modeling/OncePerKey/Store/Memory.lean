import OncePerKey.Response.Basic
import OncePerKey.Key.Composite

set_option autoImplicit false

namespace OncePerKey

structure MemoryStore where
  entries : List (CompositeKey × Cached) := []
  distinct : (entries.map Prod.fst).Nodup := by exact List.nodup_nil

namespace MemoryStore

instance : Inhabited MemoryStore := ⟨{}⟩

def size (s : MemoryStore) : Nat :=
  s.entries.length

def kept? (s : MemoryStore) (key : CompositeKey) : Option Cached :=
  s.entries.lookup key

def get (s : MemoryStore) (now : Timestamp) (key : CompositeKey) : Option Cached :=
  (s.kept? key).filter (·.isLiveAt now)

def putEntry (key : CompositeKey) (response : Cached) :
    List (CompositeKey × Cached) → List (CompositeKey × Cached)
  | [] => [(key, response)]
  | (other, r) :: rest =>
      if key = other then (key, response) :: rest else (other, r) :: putEntry key response rest

theorem mem_keys_putEntry (key : CompositeKey) (response : Cached)
    (entries : List (CompositeKey × Cached)) (other : CompositeKey) :
    other ∈ (putEntry key response entries).map Prod.fst ↔
      other = key ∨ other ∈ entries.map Prod.fst := by
  induction entries with
  | nil => simp [putEntry]
  | cons entry rest ih =>
    obtain ⟨k, r⟩ := entry
    by_cases same : key = k
    · subst same
      simp [putEntry]
    · simp only [putEntry, if_neg same, List.map_cons, List.mem_cons, ih]
      exact or_left_comm

theorem nodup_keys_putEntry (key : CompositeKey) (response : Cached)
    {entries : List (CompositeKey × Cached)} (distinct : (entries.map Prod.fst).Nodup) :
    ((putEntry key response entries).map Prod.fst).Nodup := by
  induction entries with
  | nil => simp [putEntry]
  | cons entry rest ih =>
    obtain ⟨k, r⟩ := entry
    simp only [List.map_cons, List.nodup_cons] at distinct
    by_cases same : key = k
    · subst same
      simpa [putEntry] using distinct
    · simp only [putEntry, if_neg same, List.map_cons, List.nodup_cons, mem_keys_putEntry]
      exact ⟨fun present => present.elim (fun h => same h.symm) distinct.1, ih distinct.2⟩

def put (s : MemoryStore) (key : CompositeKey) (response : Cached) : MemoryStore :=
  ⟨putEntry key response s.entries, nodup_keys_putEntry key response s.distinct⟩

def set (s : MemoryStore) (now : Timestamp) (key : CompositeKey) (response : Cached) :
    WriteOutcome × MemoryStore :=
  match s.get now key with
  | some existing => (.alreadyExists existing, s)
  | none => (.written, s.put key response)

-- Takes away expired entries, at most `limit` of them.
def dropExpired (now : Timestamp) :
    (limit : Nat) → List (CompositeKey × Cached) → List (CompositeKey × Cached)
  | 0, entries => entries
  | _ + 1, [] => []
  | limit + 1, (key, r) :: rest =>
      if r.isLiveAt now then (key, r) :: dropExpired now (limit + 1) rest
      else dropExpired now limit rest

theorem dropExpired_sublist (now : Timestamp) (limit : Nat)
    (entries : List (CompositeKey × Cached)) :
    (dropExpired now limit entries).Sublist entries := by
  induction entries generalizing limit with
  | nil => cases limit <;> simp [dropExpired]
  | cons entry rest ih =>
    obtain ⟨key, r⟩ := entry
    cases limit with
    | zero => exact List.Sublist.refl _
    | succ limit =>
      by_cases live : r.isLiveAt now
      · simpa [dropExpired, live] using ih (limit + 1)
      · simpa [dropExpired, live] using (ih limit).cons (key, r)

def deleteExpired (s : MemoryStore) (now : Timestamp) (limit : Int) : Nat × MemoryStore :=
  let swept : MemoryStore :=
    ⟨dropExpired now limit.toNat s.entries,
      s.distinct.sublist ((dropExpired_sublist now limit.toNat s.entries).map Prod.fst)⟩
  (s.size - swept.size, swept)

@[simp] theorem lookup_putEntry_self (key : CompositeKey) (response : Cached)
    (entries : List (CompositeKey × Cached)) :
    (putEntry key response entries).lookup key = some response := by
  induction entries with
  | nil => simp [putEntry]
  | cons entry rest ih =>
    obtain ⟨k, r⟩ := entry
    by_cases h : key = k
    · simp [putEntry, h]
    · simp [putEntry, h, List.lookup_cons, beq_false_of_ne h, ih]

theorem lookup_putEntry_of_ne {key other : CompositeKey} (h : other ≠ key) (response : Cached)
    (entries : List (CompositeKey × Cached)) :
    (putEntry key response entries).lookup other = entries.lookup other := by
  induction entries with
  | nil => simp [putEntry, List.lookup_cons, beq_false_of_ne h]
  | cons entry rest ih =>
    obtain ⟨k, r⟩ := entry
    by_cases he : key = k
    · subst he
      simp [putEntry, List.lookup_cons, beq_false_of_ne h]
    · simp [putEntry, he, List.lookup_cons, ih]

@[simp] theorem kept?_put_self (s : MemoryStore) (key : CompositeKey) (response : Cached) :
    (s.put key response).kept? key = some response := by
  simp [put, kept?]

theorem kept?_put_of_ne {key other : CompositeKey} (h : other ≠ key) (s : MemoryStore)
    (response : Cached) : (s.put key response).kept? other = s.kept? other := by
  simp [put, kept?, lookup_putEntry_of_ne h]

theorem mem_dropExpired_of_isLiveAt {now : Timestamp} {entry : CompositeKey × Cached}
    (live : entry.2.isLiveAt now = true) (limit : Nat) {entries : List (CompositeKey × Cached)}
    (present : entry ∈ entries) : entry ∈ dropExpired now limit entries := by
  induction entries generalizing limit with
  | nil => simp at present
  | cons head rest ih =>
    obtain ⟨key, r⟩ := head
    cases limit with
    | zero => simpa [dropExpired] using present
    | succ limit =>
      rcases List.mem_cons.1 present with rfl | present
      · simp [dropExpired, live]
      · by_cases h : r.isLiveAt now <;> simp [dropExpired, h, ih _ present]

end MemoryStore

end OncePerKey
