import OncePerKey.Proofs.Lock.Grants

set_option autoImplicit false

namespace OncePerKey

def LockToken.grant (t : LockToken) : Lock.Grant :=
  ⟨t.key, t.acquiredAt, t.lifetime⟩

namespace Lock

structure Clerk where
  State : Type
  start : State
  acquire : Timestamp → CompositeKey → Nat → State → Option (Option LockToken) × State
  release : Timestamp → LockToken → State → Option Bool × State

namespace Clerk

def serve (c : Clerk) (now : Timestamp) : Request → c.State × List LockToken →
    Answer × (c.State × List LockToken)
  | .acquire key lifetime, (s, tokens) =>
      match c.acquire now key lifetime s with
      | (none, s') => (.failed, s', tokens)
      | (some none, s') => (.acquired false, s', tokens)
      | (some (some token), s') => (.acquired true, s', tokens ++ [token])
  | .release i, (s, tokens) =>
      match tokens[i]? with
      | none => (.unknown, s, tokens)
      | some token =>
          match c.release now token s with
          | (none, s') => (.failed, s', tokens)
          | (some held, s') => (.released held, s', tokens)

def desk (c : Clerk) : Responder Request Answer where
  State := c.State × List LockToken
  start := (c.start, [])
  serve := c.serve
  shows := Timestamp.IsPlain

end Clerk

structure Roster (ids : Nat → Uuid) (drawn : Nat) (record : Record Request Answer)
    (tokens : List LockToken) : Prop where
  grants : tokens.map LockToken.grant = grants record
  drawn : ∀ token ∈ tokens, ∃ j < drawn, token.holder = ids j
  apart : (tokens.map (·.holder)).Nodup

section

variable {ids : Nat → Uuid} {drawn more n : Nat} {record : Record Request Answer}
  {tokens : List LockToken} {token other : LockToken} {e : Answered Request Answer} {i j : Nat}

theorem Roster.grant? (roster : Roster ids drawn record tokens) (i : Nat) :
    (Lock.grants record)[i]? = tokens[i]?.map LockToken.grant := by
  rw [← roster.grants, List.getElem?_map]

theorem Roster.length_eq (roster : Roster ids drawn record tokens) :
    (Lock.grants record).length = tokens.length := by
  rw [← roster.grants, List.length_map]

theorem Roster.number_eq (roster : Roster ids drawn record tokens) (one : tokens[i]? = some token)
    (two : tokens[j]? = some other) (same : token.holder = other.holder) : i = j := by
  have number : i < (tokens.map (·.holder)).length := by
    rw [List.length_map]
    exact (List.getElem?_eq_some_iff.1 one).1
  refine (List.getElem?_inj number roster.apart).1 ?_
  rw [List.getElem?_map, List.getElem?_map, one, two, Option.map_some, Option.map_some, same]

theorem Roster.ungranted (roster : Roster ids drawn record tokens) (nothing : grantOf e = none)
    (order : drawn ≤ more) : Roster ids more (e :: record) tokens where
  grants := by rw [grants_cons_of_none nothing, roster.grants]
  drawn token present := by
    obtain ⟨j, early, same⟩ := roster.drawn token present
    exact ⟨j, by omega, same⟩
  apart := roster.apart

theorem Roster.granted (roster : Roster ids drawn record tokens) (distinct : Set.InjOn ids (Set.Iio n))
    (room : drawn < n) (granted : grantOf e = some token.grant) (named : token.holder = ids drawn) :
    Roster ids (drawn + 1) (e :: record) (tokens ++ [token]) where
  grants := by rw [grants_cons_of_some granted, List.map_append, roster.grants, List.map_singleton]
  drawn other present := by
    rcases List.mem_append.1 present with old | new
    · obtain ⟨j, early, same⟩ := roster.drawn other old
      exact ⟨j, by omega, same⟩
    · rw [List.mem_singleton.1 new]
      exact ⟨drawn, Nat.lt_succ_self drawn, named⟩
  apart := by
    rw [List.map_append, List.map_singleton, List.nodup_append]
    refine ⟨roster.apart, by simp, ?_⟩
    rintro holder old _ new rfl
    obtain ⟨other, present, rfl⟩ := List.mem_map.1 old
    obtain ⟨j, early, same⟩ := roster.drawn other present
    rw [List.mem_singleton, same, named] at new
    have number : j = drawn := distinct (Set.mem_Iio.2 (early.trans room)) (Set.mem_Iio.2 room) new
    omega

end

-- The mark of the holder, and whether the token still lasts; one that does not may be forgotten.
def seated {μ : Type} (mark : Uuid → μ) (lenient : Bool) (now : Timestamp) (token : LockToken) :
    Option (μ × Bool) :=
  if token.grant.lasts now then some (mark token.holder, true)
  else if lenient then some (mark token.holder, false)
  else none

theorem seated_eq_some_iff {μ : Type} {mark : Uuid → μ} {lenient lasting : Bool} {now : Timestamp}
    {token : LockToken} {m : μ} : seated mark lenient now token = some (m, lasting) ↔
      mark token.holder = m ∧ token.grant.lasts now = lasting ∧ (lenient || lasting) = true := by
  unfold seated
  cases token.grant.lasts now <;> cases lenient <;> cases lasting <;> simp

theorem seated_eq_none {μ : Type} {mark : Uuid → μ} {now later : Timestamp} {token : LockToken}
    (plain : now.IsPlain) (plainLater : later.IsPlain) (order : now ≤ later)
    (ended : token.grant.lasts now = false) : seated mark false later token = none := by
  have endedLater : token.grant.lasts later = false := by
    by_contra still
    have lasted := Grant.lasts_of_le plain plainLater order (Bool.eq_true_of_not_eq_false still)
    rw [ended] at lasted
    cases lasted
  simp [seated, endedLater]

structure View {ν μ : Type} [DecidableEq ν] (c : Clerk) (ids : Nat → Uuid) (name : CompositeKey → ν)
    (mark : Uuid → μ) (lenient : Bool) where
  marks : Function.Injective mark
  Sound : c.State → Prop
  drawn : c.State → Nat
  seat : c.State → Timestamp → ν → Option (μ × Bool)
  start : Sound c.start ∧ drawn c.start = 0 ∧ ∀ now n, seat c.start now n = none
  refuse : ∀ {now s key lifetime m}, Sound s → now.IsPlain → Dated now (.acquire key lifetime) →
    seat s now (name key) = some (m, true) →
    ∃ s', c.acquire now key lifetime s = (some none, s') ∧ Sound s' ∧ drawn s' = drawn s + 1 ∧
      ∀ later n, now ≤ later → later.IsPlain → seat s' later n = seat s later n
  grant : ∀ {now s key lifetime}, Sound s → now.IsPlain → Dated now (.acquire key lifetime) →
    (∀ m, seat s now (name key) ≠ some (m, true)) →
    ∃ s', c.acquire now key lifetime s = (some (some ⟨key, ids (drawn s), now, lifetime⟩), s') ∧
      Sound s' ∧ drawn s' = drawn s + 1 ∧ ∀ later n, now ≤ later → later.IsPlain → seat s' later n =
        if name key = n then seated mark lenient later ⟨key, ids (drawn s), now, lifetime⟩
        else seat s later n
  clear : ∀ {now s token lasting}, Sound s → now.IsPlain →
    seat s now (name token.key) = some (mark token.holder, lasting) →
    ∃ s', c.release now token s = (some true, s') ∧ Sound s' ∧ drawn s' = drawn s ∧
      ∀ later n, now ≤ later → later.IsPlain → seat s' later n =
        if name token.key = n then none else seat s later n
  spare : ∀ {now s token}, Sound s → now.IsPlain →
    (∀ lasting, seat s now (name token.key) ≠ some (mark token.holder, lasting)) →
    ∃ s', c.release now token s = (some false, s') ∧ Sound s' ∧ drawn s' = drawn s ∧
      ∀ later n, now ≤ later → later.IsPlain → seat s' later n = seat s later n

namespace View

variable {ν μ : Type} [DecidableEq ν] {c : Clerk} {ids : Nat → Uuid} {name : CompositeKey → ν}
  {mark : Uuid → μ} {lenient : Bool} (v : View c ids name mark lenient) {now : Timestamp}
  {record : Record Request Answer} {s : c.State} {tokens : List LockToken}

structure Shows (now : Timestamp) (record : Record Request Answer) (desk : c.State × List LockToken) :
    Prop where
  sound : v.Sound desk.1
  drawn : v.drawn desk.1 ≤ record.length
  roster : Roster ids (v.drawn desk.1) record desk.2
  seat : ∀ later n, now ≤ later → later.IsPlain → v.seat desk.1 later n =
    (owner? name n record).bind fun i => desk.2[i]?.bind (seated mark lenient later)

variable {v}

section

variable {n : ν} {i : Nat} {token : LockToken} {e : Answered Request Answer}

theorem Shows.seat_eq_some_iff (shows : v.Shows now record (s, tokens)) (plain : now.IsPlain)
    {m : μ} {lasting : Bool} : v.seat s now n = some (m, lasting) ↔
      ∃ i token, owner? name n record = some i ∧ tokens[i]? = some token ∧ mark token.holder = m ∧
        token.grant.lasts now = lasting ∧ (lenient || lasting) = true := by
  rw [shows.seat now n (le_refl now) plain]
  simp only [Option.bind_eq_some_iff, seated_eq_some_iff]
  constructor
  · rintro ⟨i, owns, token, number, seated⟩
    exact ⟨i, token, owns, number, seated⟩
  · rintro ⟨i, token, owns, number, seated⟩
    exact ⟨i, owns, token, number, seated⟩

theorem Shows.exists_tenant_iff (shows : v.Shows now record (s, tokens)) (plain : now.IsPlain) :
    (∃ m, v.seat s now n = some (m, true)) ↔ (tenant? name n record now).isSome = true := by
  simp only [shows.seat_eq_some_iff plain, Option.isSome_iff_exists, tenant?_eq_some_iff,
    shows.roster.grant?, Option.map_eq_some_iff]
  constructor
  · rintro ⟨m, i, token, owns, number, -, lasts, -⟩
    exact ⟨i, owns, token.grant, ⟨token, number, rfl⟩, lasts⟩
  · rintro ⟨i, owns, _, ⟨token, number, rfl⟩, lasts⟩
    exact ⟨mark token.holder, i, token, owns, number, rfl, lasts, by simp⟩

theorem Shows.exists_seat_iff (shows : v.Shows now record (s, tokens)) (plain : now.IsPlain)
    (number : tokens[i]? = some token) :
    (∃ lasting, v.seat s now n = some (mark token.holder, lasting)) ↔
      owner? name n record = some i ∧ (lenient || token.grant.lasts now) = true := by
  simp only [shows.seat_eq_some_iff plain]
  constructor
  · rintro ⟨lasting, j, other, owns, numberToo, same, rfl, kept⟩
    obtain rfl := shows.roster.number_eq number numberToo (v.marks same.symm)
    cases number.symm.trans numberToo
    exact ⟨owns, kept⟩
  · rintro ⟨owns, kept⟩
    exact ⟨token.grant.lasts now, i, token, owns, number, rfl, rfl, kept⟩

theorem Shows.name_eq (shows : v.Shows now record (s, tokens)) (number : tokens[i]? = some token)
    (owns : owner? name n record = some i) : name token.key = n := by
  obtain ⟨g, granted, named⟩ := exists_grant_of_owner? owns
  rw [shows.roster.grant?, number] at granted
  cases granted
  exact named

theorem Shows.unchanged {s' : c.State} (shows : v.Shows now record (s, tokens)) (sound : v.Sound s')
    (drawn : v.drawn s' = v.drawn s + 1) (nothing : grantOf e = none)
    (owners : ∀ n, owner? name n (e :: record) = owner? name n record)
    (alike : ∀ later n, now ≤ later → later.IsPlain → v.seat s' later n = v.seat s later n) :
    v.Shows now (e :: record) (s', tokens) where
  sound := sound
  drawn := by
    have before : v.drawn s ≤ record.length := shows.drawn
    change v.drawn s' ≤ _
    rw [List.length_cons]
    omega
  roster := shows.roster.ungranted nothing (by change v.drawn s ≤ v.drawn s'; omega)
  seat later n after plain := by
    rw [alike later n after plain, shows.seat later n after plain, owners n]

theorem Shows.granted {s' : c.State} {room lifetime : Nat} {key : CompositeKey}
    (shows : v.Shows now record (s, tokens)) (distinct : Set.InjOn ids (Set.Iio room))
    (fits : record.length < room) (sound : v.Sound s') (drawn : v.drawn s' = v.drawn s + 1)
    (put : ∀ later n, now ≤ later → later.IsPlain → v.seat s' later n =
      if name key = n then seated mark lenient later ⟨key, ids (v.drawn s), now, lifetime⟩
      else v.seat s later n) :
    v.Shows now (⟨now, .acquire key lifetime, .acquired true⟩ :: record)
      (s', tokens ++ [⟨key, ids (v.drawn s), now, lifetime⟩]) := by
  have before : v.drawn s ≤ record.length := shows.drawn
  refine ⟨sound, ?_, ?_, fun later n after plain => ?_⟩
  · change v.drawn s' ≤ _
    rw [List.length_cons]
    omega
  · rw [drawn]
    exact shows.roster.granted distinct (before.trans_lt fits) rfl rfl
  · rw [put later n after plain, owner?_cons_of_some rfl]
    by_cases named : name key = n
    · simp [named, shows.roster.length_eq]
    · rw [if_neg named, shows.seat later n after plain]
      simp only [named, if_false]
      refine Option.bind_congr fun i owns => ?_
      obtain ⟨g, number, -⟩ := exists_grant_of_owner? owns
      have early := (List.getElem?_eq_some_iff.1 number).1
      rw [shows.roster.length_eq] at early
      rw [List.getElem?_append_left early]

theorem Shows.released {s' : c.State} (shows : v.Shows now record (s, tokens)) (sound : v.Sound s')
    (drawn : v.drawn s' = v.drawn s) (call : e.call = .release i)
    (seats : ∀ later n, now ≤ later → later.IsPlain → v.seat s' later n =
      if owner? name n record = some i then none else v.seat s later n) :
    v.Shows now (e :: record) (s', tokens) where
  sound := sound
  drawn := by
    have before : v.drawn s ≤ record.length := shows.drawn
    change v.drawn s' ≤ _
    rw [List.length_cons]
    omega
  roster := shows.roster.ungranted (by simp [grantOf, call]) (le_of_eq drawn.symm)
  seat later n after plain := by
    rw [seats later n after plain, owner?_cons_of_release call]
    split
    · rfl
    · exact shows.seat later n after plain

end

variable (v)

theorem serve_acquire {room : Nat} (distinct : Set.InjOn ids (Set.Iio room)) {key : CompositeKey}
    {lifetime : Nat} (fits : record.length < room) (plain : now.IsPlain)
    (dated : Dated now (.acquire key lifetime)) (shows : v.Shows now record (s, tokens)) :
    ∃ desk, c.serve now (.acquire key lifetime) (s, tokens) =
        (ruling name lenient record now (.acquire key lifetime), desk) ∧
      v.Shows now (⟨now, .acquire key lifetime,
        ruling name lenient record now (.acquire key lifetime)⟩ :: record) desk := by
  have tenanted := shows.exists_tenant_iff plain (n := name key)
  rw [ruling]
  cases tenant : tenant? name (name key) record now with
  | some i =>
    obtain ⟨m, seat⟩ := tenanted.2 (by rw [tenant]; rfl)
    obtain ⟨s', served, sound, drawn, alike⟩ := v.refuse shows.sound plain dated seat
    exact ⟨(s', tokens), by simp only [Clerk.serve, served, Option.isNone_some],
      shows.unchanged sound drawn rfl (fun n => rfl) alike⟩
  | none =>
    have free : ∀ m, v.seat s now (name key) ≠ some (m, true) := by
      intro m seat
      have taken := tenanted.1 ⟨m, seat⟩
      rw [tenant] at taken
      cases taken
    have before : v.Sound s := shows.sound
    obtain ⟨s', served, sound, drawn, put⟩ := v.grant before plain dated free
    rw [Option.isNone_none]
    refine ⟨(s', tokens ++ [⟨key, ids (v.drawn s), now, lifetime⟩]), ?_,
      shows.granted distinct fits sound drawn put⟩
    simp only [Clerk.serve, served]

theorem serve_release {i : Nat} (plain : now.IsPlain) (shows : v.Shows now record (s, tokens)) :
    ∃ desk, c.serve now (.release i) (s, tokens) = (ruling name lenient record now (.release i), desk) ∧
      v.Shows now (⟨now, .release i, ruling name lenient record now (.release i)⟩ :: record) desk := by
  simp only [ruling, shows.roster.grant?]
  cases number : tokens[i]? with
  | none =>
    refine ⟨(s, tokens), by simp [Clerk.serve, number],
      shows.released shows.sound rfl rfl fun later n _ _ => ?_⟩
    have unowned : owner? name n record ≠ some i := by
      intro owns
      obtain ⟨g, granted, -⟩ := exists_grant_of_owner? owns
      rw [shows.roster.grant?, number] at granted
      cases granted
    rw [if_neg unowned]
  | some token =>
    have placed := shows.exists_seat_iff plain (n := name token.key) number
    have owned (n : ν) (owns : owner? name n record = some i) : name token.key = n :=
      shows.name_eq number owns
    by_cases kept : owner? name (name token.key) record = some i ∧
        (lenient || token.grant.lasts now) = true
    · obtain ⟨lasting, seat⟩ := placed.2 kept
      obtain ⟨s', served, sound, drawn, cleared⟩ := v.clear shows.sound plain seat
      refine ⟨(s', tokens), ?_, shows.released sound drawn rfl fun later n after plainLater => ?_⟩
      · simp only [Clerk.serve, number, served, Option.map_some, LockToken.grant] at kept ⊢
        simp [kept]
      · rw [cleared later n after plainLater]
        by_cases named : name token.key = n
        · rw [if_pos named, if_pos (named ▸ kept.1)]
        · rw [if_neg named, if_neg (mt (owned n) named)]
    · have unseated : ∀ lasting, v.seat s now (name token.key) ≠ some (mark token.holder, lasting) :=
        fun lasting seat => kept (placed.1 ⟨lasting, seat⟩)
      obtain ⟨s', served, sound, drawn, alike⟩ := v.spare shows.sound plain unseated
      refine ⟨(s', tokens), ?_, shows.released sound drawn rfl fun later n after plainLater => ?_⟩
      · simp only [Clerk.serve, number, served, Option.map_some, LockToken.grant] at kept ⊢
        simpa using kept
      · rw [alike later n after plainLater]
        split
        · -- The token owns the lock, so it is over, and nothing of it is left.
          rename_i owns
          obtain rfl := owned n owns
          have ended : lenient = false ∧ token.grant.lasts now = false := by simpa [owns] using kept
          rw [shows.seat later _ after plainLater, owns, Option.bind_some, number, Option.bind_some,
            ended.1]
          exact seated_eq_none plain plainLater after ended.2
        · rfl

theorem keeps {room : Nat} (distinct : Set.InjOn ids (Set.Iio room)) :
    c.desk.Keeps (ruling name lenient) (fun past now request => past.length < room ∧ Dated now request)
      v.Shows where
  start _ :=
    { sound := v.start.1
      drawn := le_of_eq v.start.2.1
      roster := ⟨rfl, by simp [Clerk.desk], by simp [Clerk.desk]⟩
      seat := fun later n _ _ => v.start.2.2 later n }
  pass order _ shows := { shows with
    seat := fun later n after plain => shows.seat later n (le_trans order after) plain }
  change _ changes _ := changes.elim
  call := by
    intro now record desk request plain fits shows
    obtain ⟨s, tokens⟩ := desk
    have step : ∃ desk, c.serve now request (s, tokens) =
          (ruling name lenient record now request, desk) ∧
        v.Shows now (⟨now, request, ruling name lenient record now request⟩ :: record) desk := by
      cases request with
      | acquire key lifetime => exact v.serve_acquire distinct fits.1 plain fits.2 shows
      | release i => exact v.serve_release plain shows
    obtain ⟨desk, served, after⟩ := step
    change (c.serve now request (s, tokens)).1 = _ ∧ v.Shows now (⟨now, request,
      (c.serve now request (s, tokens)).1⟩ :: record) (c.serve now request (s, tokens)).2
    rw [served]
    exact ⟨rfl, after⟩

include v in
theorem abides (distinct : Set.InjOn ids (Set.Iio record.length)) {desk : c.State × List LockToken}
    (run : c.desk.Follows now record desk) (dated : ∀ e ∈ record, Dated e.time e.call) :
    record.Abides (ruling name lenient) := by
  refine ((v.keeps distinct).abides run fun e past part => ⟨?_, ?_⟩).1
  · exact Nat.lt_of_succ_le (part.length_le)
  · exact dated e (part.subset List.mem_cons_self)

end View

end Lock

end OncePerKey
