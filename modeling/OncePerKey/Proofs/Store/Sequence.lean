import OncePerKey.Proofs.Store.Accepted
import OncePerKey.Proofs.Store.Memory

set_option autoImplicit false

namespace OncePerKey.MemoryStore

open Store

def Swept (now : Timestamp) (s s' : MemoryStore) : Prop :=
  ∃ (t : MemoryStore) (limit : Int64), t.entries.Perm s.entries ∧
    s' = (t.deleteExpired now limit.toInt).2

def serve (now : Timestamp) (c : Call) (s : MemoryStore) : Returned × MemoryStore :=
  match c with
  | .get key => (.got (.ok (s.get now key)), s)
  | .set key response => ((.set (.ok (s.set now key response).1)), (s.set now key response).2)

def responder : Responder Call Returned where
  State := MemoryStore
  start := {}
  serve := serve
  changes := Swept

variable {s s' : MemoryStore} {now later : Timestamp}

theorem get_of_swept (swept : Swept now s s') (order : now ≤ later) (key : CompositeKey) :
    s'.get later key = s.get later key := by
  obtain ⟨t, limit, perm, rfl⟩ := swept
  rw [get_deleteExpired order, get_of_perm perm]

theorem get_put (s : MemoryStore) (key : CompositeKey) (response : Cached) (now : Timestamp)
    (other : CompositeKey) : (s.put key response).get now other =
      if key = other then (if response.isLiveAt now then some response else none)
      else s.get now other := by
  by_cases same : key = other
  · subst same
    simp only [get, kept?_put_self, Option.filter_some, if_true]
  · simp [get, kept?_put_of_ne (Ne.symm same), same]

section

variable {key : CompositeKey} {response existing : Cached}

theorem serve_set_of_live (found : s.get now key = some existing) :
    serve now (.set key response) s = (.set (.ok (.alreadyExists existing)), s) := by
  simp [serve, set_of_get_eq_some found]

theorem serve_set_of_absent (absent : s.get now key = none) :
    serve now (.set key response) s = (.set (.ok .written), s.put key response) := by
  simp [serve, set_of_get_eq_none absent]

end

def view : View responder id .lifelong (fun _ => True) where
  Sound _ := True
  look := get
  start := ⟨trivial, fun _ _ => rfl⟩
  change _ _ swept := ⟨trivial, fun _ key order => get_of_swept swept order key⟩
  get _ _ _ := rfl
  refused _ _ _ refuses := nomatch refuses
  occupied _ _ _ _ found := ⟨_, serve_set_of_live found, trivial, fun _ _ _ => rfl⟩
  free _ _ _ _ absent := ⟨_, serve_set_of_absent absent, trivial,
    fun later other _ => get_put _ _ _ later other⟩

def Lives (past : Record Call Returned) (now : Timestamp) (key : CompositeKey) (response : Cached) :
    Prop :=
  (lastAccepted? id key past).map (·.response) = some response ∧ now < response.expiresAt

theorem standing_eq_some_iff_lives {past : Record Call Returned} {key : CompositeKey}
    {response : Cached} :
    standing id key .lifelong past now = some response ↔ Lives past now key response := by
  rw [standing_eq_some_iff, Lives, Option.map_eq_some_iff]
  constructor
  · rintro ⟨a, last, live, rfl⟩
    exact ⟨⟨a, last, rfl⟩, (Cached.isLiveAt_iff _ _).1 live⟩
  · rintro ⟨⟨a, last, rfl⟩, live⟩
    exact ⟨a, last, (Cached.isLiveAt_iff _ _).2 live, rfl⟩

theorem standing_eq_none_iff {past : Record Call Returned} {key : CompositeKey} :
    standing id key .lifelong past now = none ↔ ∀ response, ¬ Lives past now key response := by
  simp only [← standing_eq_some_iff_lives, Option.eq_none_iff_forall_ne_some, ne_eq]

theorem abides {record : Record Call Returned} (run : responder.Follows now record s) :
    record.Abides (ruling id .lifelong) :=
  view.abides run fun _ _ => trivial

-- Which sweeps there were, and what they took away, does not change a single answer.
theorem answers_by_last_accepted {record : Record Call Returned}
    (run : responder.Follows now record s) :
    (∀ e past, e :: past <:+ record →
      (∀ key, e.call = .get key → ∃ found, e.answer = .got (.ok found) ∧
        ∀ response, found = some response ↔ Lives past e.time key response) ∧
      ∀ key response, e.call = .set key response →
        (∀ existing, e.answer = .set (.ok (.alreadyExists existing)) ↔
          Lives past e.time key existing) ∧
        (e.answer = .set (.ok .written) ↔ ∀ existing, ¬ Lives past e.time key existing) ∧
        (e.answer = .set (.ok .written) →
          (lastAccepted? id key (e :: past)).map (·.response) = some response)) ∧
    ∀ {later : Timestamp} {other : Record Call Returned} {t : MemoryStore},
      responder.Follows later other t → other.asked = record.asked → other = record := by
  refine ⟨fun e past part => ?_, fun too same => Record.eq_of_abides (abides too) (abides run) same⟩
  have answer := (abides run).answer part
  refine ⟨fun key call => ?_, fun key response call => ?_⟩
  · rw [call] at answer
    exact ⟨_, answer, fun response => standing_eq_some_iff_lives⟩
  · rw [call, ruling] at answer
    refine ⟨fun existing => ?_, ?_, fun written => ?_⟩
    · rw [answer, Term.verdict_eq_alreadyExists_iff rfl]
      exact standing_eq_some_iff_lives
    · rw [answer, Term.verdict_eq_written_iff rfl]
      exact standing_eq_none_iff
    · simp [lastAccepted?, acceptedBy, call, written]

def dawn : Timestamp := ⟨1772323200, 0, by decide⟩

def noon : Timestamp := ⟨1772366400, 0, by decide⟩

def parcelKey : CompositeKey :=
  CompositeKey.build "POST" "/parcels" ⟨"k-1"⟩

def parcel (made gone : Timestamp) : Cached :=
  { status := 201, body := none, contentType := none, createdAt := made, expiresAt := gone
    fingerprint := none }

def morningParcel : Cached := parcel dawn noon

def laterParcel : Cached := parcel noon ⟨1772409600, 0, by decide⟩

def parcels : Record Call Returned :=
  [⟨noon, .get parcelKey, .got (.ok (some laterParcel))⟩,
    ⟨noon, .set parcelKey laterParcel, .set (.ok .written)⟩,
    ⟨dawn, .set parcelKey morningParcel, .set (.ok .written)⟩]

theorem parcel_replaced_at_noon :
    (∃ s, responder.Follows noon parcels s) ∧
      (∀ existing, ¬ Lives (parcels.drop 2) noon parcelKey existing) ∧
      Lives (parcels.drop 1) noon parcelKey laterParcel ∧
      ∀ (other : Record Call Returned) (t : MemoryStore), responder.Follows noon other t →
        other.asked = parcels.asked → other = parcels := by
  have order : dawn ≤ noon := not_lt.1 (by decide)
  have set := Responder.Follows.call (S := responder) (.start dawn trivial)
    (.set parcelKey morningParcel)
  have swept := (set.pass order trivial).change ⟨_, 10, .refl _, rfl⟩
  have run : responder.Follows noon parcels _ :=
    (swept.call (.set parcelKey laterParcel)).call (.get parcelKey)
  obtain ⟨answers, unswept⟩ := answers_by_last_accepted run
  obtain ⟨looked, -⟩ := answers _ (parcels.drop 1) (List.suffix_refl parcels)
  obtain ⟨-, wrote⟩ := answers _ (parcels.drop 2) (List.suffix_cons _ _)
  obtain ⟨found, answer, finds⟩ := looked parcelKey rfl
  cases answer
  obtain ⟨-, written, -⟩ := wrote parcelKey laterParcel rfl
  exact ⟨⟨_, run⟩, written.1 rfl, (finds laterParcel).1 rfl, fun other t => unswept⟩

end OncePerKey.MemoryStore
