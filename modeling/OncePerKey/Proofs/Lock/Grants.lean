import Mathlib.Algebra.Group.Nat.Defs
import OncePerKey.Proofs.Responder

set_option autoImplicit false

namespace OncePerKey

theorem Timestamp.toNanos_bounds (t : Timestamp) :
    -9000000000000 * 1000000000 ≤ t.toNanos ∧ t.toNanos ≤ 9000000000000 * 1000000000 := by
  obtain ⟨seconds, nanos, first, last, range⟩ := t
  have low : -9000000000000 ≤ firstSecond := by decide +kernel
  have high : lastSecond + 2 ≤ 9000000000000 := by decide +kernel
  simp only [toNanos, nanosPerSecond]
  omega

namespace Lock

inductive Request where
  | acquire (key : CompositeKey) (lifetime : Nat)
  | release (number : Nat)
  deriving DecidableEq

inductive Answer where
  | acquired (granted : Bool)
  | released (held : Bool)
  | failed
  -- No token of this number was granted.
  | unknown
  deriving DecidableEq

structure Grant where
  key : CompositeKey
  time : Timestamp
  lifetime : Nat

-- Up to the end of the lifetime, which is no longer part of it.
def Grant.lasts (g : Grant) (now : Timestamp) : Bool :=
  now.toNanos < g.time.toNanos + g.lifetime

def grantOf (e : Answered Request Answer) : Option Grant :=
  match e.call, e.answer with
  | .acquire key lifetime, .acquired true => some ⟨key, e.time, lifetime⟩
  | _, _ => none

-- What was granted, the first one first.
def grants : Record Request Answer → List Grant
  | [] => []
  | e :: past => grants past ++ (grantOf e).toList

section

variable {ν : Type} [DecidableEq ν] (name : CompositeKey → ν) (n : ν)

def owner? : Record Request Answer → Option Nat
  | [] => none
  | e :: past =>
      match grantOf e, e.call with
      | some g, _ => if name g.key = n then some (grants past).length else owner? past
      | none, .release i => if owner? past = some i then none else owner? past
      | none, .acquire _ _ => owner? past

def tenant? (record : Record Request Answer) (now : Timestamp) : Option Nat :=
  (owner? name n record).filter fun i => (grants record)[i]?.any (·.lasts now)

end

-- A token is given back where it owns the lock. Whether it also has to last still is up to the keeper.
def ruling {ν : Type} [DecidableEq ν] (name : CompositeKey → ν) (lenient : Bool) :
    Rule Request Answer
  | past, now, .acquire key _ => .acquired (tenant? name (name key) past now).isNone
  | past, now, .release i =>
      match (grants past)[i]? with
      | none => .unknown
      | some g => .released
          (decide (owner? name (name g.key) past = some i) && (lenient || g.lasts now))

section

variable {ν : Type} [DecidableEq ν] {name : CompositeKey → ν} {n : ν}
  {record past : Record Request Answer} {e : Answered Request Answer} {now later : Timestamp} {i : Nat}
  {g : Grant}

theorem grants_cons_of_some (granted : grantOf e = some g) : grants (e :: past) = grants past ++ [g] := by
  simp [grants, granted]

theorem grants_cons_of_none (nothing : grantOf e = none) : grants (e :: past) = grants past := by
  simp [grants, nothing]

theorem owner?_cons_of_some (granted : grantOf e = some g) : owner? name n (e :: past) =
    if name g.key = n then some (grants past).length else owner? name n past := by
  simp [owner?, granted]

theorem owner?_cons_of_release (call : e.call = .release i) : owner? name n (e :: past) =
    if owner? name n past = some i then none else owner? name n past := by
  simp [owner?, grantOf, call]

theorem owner?_cons_of_none {key : CompositeKey} {lifetime : Nat} (nothing : grantOf e = none)
    (call : e.call = .acquire key lifetime) : owner? name n (e :: past) = owner? name n past := by
  simp [owner?, nothing, call]

theorem exists_grant_of_owner? (owns : owner? name n record = some i) :
    ∃ g, (grants record)[i]? = some g ∧ name g.key = n := by
  induction record with
  | nil => cases owns
  | cons e past ih =>
    have stays (owned : owner? name n past = some i) : ∃ g, (grants (e :: past))[i]? = some g ∧
        name g.key = n := by
      obtain ⟨g, number, named⟩ := ih owned
      exact ⟨g, List.getElem?_append_left (List.getElem?_eq_some_iff.1 number).1 ▸ number, named⟩
    cases granted : grantOf e with
    | some g =>
      rw [owner?_cons_of_some granted] at owns
      split at owns
      · rename_i named
        cases owns
        exact ⟨g, by simp [grants_cons_of_some granted], named⟩
      · exact stays owns
    | none =>
      cases call : e.call with
      | acquire =>
        rw [owner?_cons_of_none granted call] at owns
        exact stays owns
      | release j =>
        rw [owner?_cons_of_release call] at owns
        split at owns
        · cases owns
        · exact stays owns

theorem tenant?_eq_some_iff : tenant? name n record now = some i ↔
    owner? name n record = some i ∧ ∃ g, (grants record)[i]? = some g ∧ g.lasts now = true := by
  simp [tenant?, Option.filter_eq_some_iff, Option.any_eq_true]

end

def Request.key? : Request → Option CompositeKey
  | .acquire key _ => some key
  | .release _ => none

def KeysApart (record : Record Request Answer) : Prop :=
  ∀ e ∈ record, ∀ e' ∈ record, ∀ key key', e.call.key? = some key → e'.call.key? = some key' →
    key.storageKey = key'.storageKey → key = key'

def Owns (record : Record Request Answer) (i : Nat) : Prop :=
  ∃ g, (grants record)[i]? = some g ∧ owner? id g.key record = some i

def Lasts (record : Record Request Answer) (now : Timestamp) (i : Nat) : Prop :=
  ∃ g, (grants record)[i]? = some g ∧ g.lasts now = true

def SameGrant (e e' : Answered Request Answer) : Prop :=
  e.time = e'.time ∧ e.call = e'.call ∧ (e.call.key?.isSome = true → e.answer = e'.answer)

section

variable {ν : Type} [DecidableEq ν] {name : CompositeKey → ν} {record past other : Record Request Answer}
  {e e' : Answered Request Answer} {now : Timestamp} {g : Grant} {key : CompositeKey}
  {lenient lenient' : Bool}

theorem KeysApart.of_subset (apart : KeysApart record) (within : other ⊆ record) : KeysApart other :=
  fun e present e' presentToo => apart e (within present) e' (within presentToo)

theorem KeysApart.of_asked (apart : KeysApart record) (same : record.asked = other.asked) :
    KeysApart other := by
  have half : ∀ e ∈ record, ∀ e' ∈ other, ∀ key key', e.call.key? = some key →
      e'.call.key? = some key' → key.storageKey = key'.storageKey → key = key' := fun e present =>
    Record.forall_of_asked (p := fun _ c => ∀ key key', e.call.key? = some key → c.key? = some key' →
      key.storageKey = key'.storageKey → key = key') same (apart e present)
  exact Record.forall_of_asked (p := fun _ c => ∀ e' ∈ other, ∀ key key', c.key? = some key →
    e'.call.key? = some key' → key.storageKey = key'.storageKey → key = key') same half

theorem key?_of_grantOf (granted : grantOf e = some g) : e.call.key? = some g.key := by
  unfold grantOf at granted
  split at granted
  · rename_i call _
    cases granted
    rw [call]
    rfl
  · cases granted

theorem exists_request (granted : g ∈ grants record) : ∃ e ∈ record, e.call.key? = some g.key := by
  induction record with
  | nil => simp [grants] at granted
  | cons e past ih =>
    rcases List.mem_append.1 granted with old | new
    · obtain ⟨x, present, asked⟩ := ih old
      exact ⟨x, List.mem_cons_of_mem e present, asked⟩
    · exact ⟨e, List.mem_cons_self, key?_of_grantOf (Option.mem_toList.1 new)⟩

theorem owner?_name (apart : ∀ g ∈ grants record, name g.key = name key → g.key = key) :
    owner? name (name key) record = owner? id key record := by
  induction record with
  | nil => rfl
  | cons e past ih =>
    have before := ih fun g granted => apart g (List.mem_append_left _ granted)
    cases granted : grantOf e with
    | some g =>
      have named : name g.key = name key ↔ id g.key = key :=
        ⟨apart g (by simp [grants, granted]), congrArg name⟩
      rw [owner?_cons_of_some granted, owner?_cons_of_some granted, before]
      simp only [named]
    | none =>
      cases call : e.call with
      | acquire =>
        rw [owner?_cons_of_none granted call, owner?_cons_of_none granted call, before]
      | release i => rw [owner?_cons_of_release call, owner?_cons_of_release call, before]

theorem ruling_name (names : ∀ key key', name key = name key' → key.storageKey = key'.storageKey)
    (apart : KeysApart (e :: past)) :
    ruling name lenient past e.time e.call = ruling id lenient past e.time e.call := by
  have owners {key : CompositeKey} (asked : ∃ x ∈ e :: past, x.call.key? = some key) :
      owner? name (name key) past = owner? id key past := by
    obtain ⟨x, present, called⟩ := asked
    refine owner?_name fun g granted same => ?_
    obtain ⟨y, presentToo, calledToo⟩ := exists_request granted
    exact apart y (List.mem_cons_of_mem e presentToo) x present _ _ calledToo called (names _ _ same)
  cases call : e.call with
  | acquire key lifetime =>
    have same := owners ⟨e, List.mem_cons_self, by rw [call]; rfl⟩
    simp only [ruling, tenant?, same, id_eq]
  | release i =>
    simp only [ruling]
    cases granted : (grants past)[i]? with
    | none => rfl
    | some g =>
      obtain ⟨x, present, asked⟩ := exists_request (List.mem_of_getElem? granted)
      simp only [owners ⟨x, List.mem_cons_of_mem e present, asked⟩, id_eq]

theorem SameGrant.eq_or_release (same : SameGrant e e') :
    e = e' ∨ ∃ i, e.call = .release i ∧ e'.call = .release i := by
  obtain ⟨time, call, answer⟩ := e
  obtain ⟨time', call', answer'⟩ := e'
  obtain ⟨rfl, rfl, answers⟩ := same
  cases call with
  | acquire key lifetime =>
    obtain rfl := answers rfl
    exact .inl rfl
  | release i => exact .inr ⟨i, rfl, rfl⟩

theorem grants_congr (same : List.Forall₂ SameGrant record other) : grants record = grants other := by
  induction same with
  | nil => rfl
  | cons head _ ih =>
    rcases head.eq_or_release with rfl | ⟨i, call, call'⟩
    · simp only [grants, ih]
    · rw [grants_cons_of_none (by simp [grantOf, call]), grants_cons_of_none (by simp [grantOf, call']), ih]

theorem owner?_congr (same : List.Forall₂ SameGrant record other) (n : ν) :
    owner? name n record = owner? name n other := by
  induction same with
  | nil => rfl
  | cons head rest ih =>
    rcases head.eq_or_release with rfl | ⟨i, call, call'⟩
    · simp only [owner?, ih, grants_congr rest]
    · rw [owner?_cons_of_release call, owner?_cons_of_release call', ih]

theorem sameGrant_of_abides (abides : record.Abides (ruling id lenient))
    (too : other.Abides (ruling id lenient')) (same : record.asked = other.asked) :
    List.Forall₂ SameGrant record other := by
  induction record generalizing other with
  | nil => rw [List.map_eq_nil_iff.1 same.symm]; exact .nil
  | cons e past ih =>
    cases other with
    | nil => cases same
    | cons e' past' =>
      obtain ⟨head, rest⟩ := List.cons.inj same
      obtain ⟨time, call⟩ := Prod.mk.inj head
      have before := ih abides.2 too.2 rest
      refine .cons ⟨time, call, fun acquires => ?_⟩ before
      obtain ⟨key, asked⟩ := Option.isSome_iff_exists.1 acquires
      rw [abides.1, too.1, ← time, ← call]
      cases request : e.call with
      | acquire key lifetime => simp only [ruling, tenant?, owner?_congr before, grants_congr before]
      | release i => rw [request] at asked; cases asked

theorem ruling_eq_iff (request : Request) :
    ruling id true past now request = ruling id false past now request ↔
      ∀ i, request = .release i → Owns past i → Lasts past now i := by
  cases request with
  | acquire => simp [ruling]
  | release i =>
    simp only [Request.release.injEq, forall_eq', Owns, Lasts, ruling]
    cases granted : (grants past)[i]? with
    | none => simp
    | some g =>
      by_cases owns : owner? id g.key past = some i <;> cases still : g.lasts now <;> simp [owns, still]

end

def Dated (now : Timestamp) : Request → Prop
  | .acquire _ lifetime =>
      (∃ ms, 0 < ms ∧ lifetime = ms * 1000000) ∧ (now.plus? lifetime).isSome = true
  | .release _ => True

section

variable {now later : Timestamp} {key : CompositeKey} {lifetime : Nat} {g : Grant}

theorem Grant.lasts_of_le (plain : now.IsPlain) (plainLater : later.IsPlain) (order : now ≤ later)
    (still : g.lasts later = true) : g.lasts now = true := by
  have nanos := (Timestamp.toNanos_le_iff plain plainLater).2 order
  simp only [lasts, decide_eq_true_eq] at still ⊢
  omega

theorem Dated.exists_millis (dated : Dated now (.acquire key lifetime)) :
    ∃ ms, 0 < ms ∧ ms < 2 ^ 63 ∧ lifetime = ms * 1000000 := by
  obtain ⟨⟨ms, positive, rfl⟩, ends⟩ := dated
  obtain ⟨end_, ends⟩ := Option.isSome_iff_exists.1 ends
  have nanos := (Timestamp.toNanos_plus?_bounds ends).1
  have first := Timestamp.toNanos_bounds now
  have last := Timestamp.toNanos_bounds end_
  simp only [nanosPerSecond] at nanos
  exact ⟨ms, positive, by omega, rfl⟩

theorem Dated.isExpiredAt? (dated : Dated now (.acquire key lifetime)) (plain : now.IsPlain)
    (plainLater : later.IsPlain) (holder : Uuid) : (LockToken.mk key holder now lifetime).isExpiredAt? later =
      some (!(Grant.mk key now lifetime).lasts later) := by
  obtain ⟨ms, -, small, rfl⟩ := dated.exists_millis
  obtain ⟨end_, ends⟩ := Option.isSome_iff_exists.1 dated.2
  have word : (Int64.ofNat ms).toInt = (ms : Int).bmod (2 ^ 64) := Int64.toInt_ofNat'
  have whole : (LockToken.mk key holder now (ms * 1000000)).lifetimeMs * 1000000 =
      (ms * 1000000 : Nat) := by
    rw [LockToken.lifetimeMs, Nat.mul_div_cancel ms (by decide), word, Int.bmod_eq_of_le] <;> omega
  obtain ⟨nanos, plainEnd⟩ := Timestamp.toNanos_plus? plain ends
  have order : later.before end_ = (Grant.mk key now (ms * 1000000)).lasts later := by
    rw [Bool.eq_iff_iff, Timestamp.before_iff, ← Timestamp.toNanos_lt_iff plainLater plainEnd, nanos]
    simp [Grant.lasts]
  rw [LockToken.isExpiredAt?, LockToken.expiresAt?, whole, ends, Option.map_some, order]

end

end Lock

end OncePerKey
