import OncePerKey.Proofs.Lock.Sequence
import OncePerKey.Proofs.Redis.Lock
import OncePerKey.Proofs.Redis.Session

set_option autoImplicit false

namespace OncePerKey.Redis

open Lock (Dated)

namespace Server

variable {s : Server} {now : Timestamp} {token : LockToken}

-- The server has been told the script.
def scripted (s : Server) : Server :=
  { s with knowsScript := true }

theorem scripted_of_knows (knows : s.knowsScript = true) : s.scripted = s := by
  cases s
  cases knows
  rfl

def mark (holder : Uuid) : Bytes :=
  Utf8.encode (Uuid.render holder)

theorem mark_injective : Function.Injective mark :=
  fun _ _ same => Uuid.render_injective (Utf8.encode_injective same)

theorem run_unlocking_of_held (space : String) (knows : s.knowsScript = true)
    (held : s.value? now (lockName space token.key) = some (mark token.holder)) :
    s.run now (unlocking space token) = (.int 1, s.erase (lockName space token.key)) := by
  rw [mark] at held
  simp [run, unlocking, knows, held, delete]

theorem run_unlocking_of_unheld (space : String) (knows : s.knowsScript = true)
    (unheld : s.value? now (lockName space token.key) ≠ some (mark token.holder)) :
    s.run now (unlocking space token) = (.int 0, s) := by
  rw [mark] at unheld
  simp [run, unlocking, knows, unheld]

end Server

variable {ids : Nat → Uuid} {space : String} {now : Timestamp} {s : Session} {key : CompositeKey}
  {lifetime : Nat} {token : LockToken}

variable (ids) in
theorem run_callScript {n : Int} {s' : Server}
    (unlocks : s.server.scripted.run now (unlocking space token) = (.int n, s')) :
    (callScript (unlocking space token)).run (Session.answer ids now) s =
      (.ok n, { s with server := s' }) := by
  unfold callScript
  refine (run_send_bind _ _).trans ?_
  cases knows : s.server.knowsScript with
  | true =>
    rw [Server.scripted_of_knows knows] at unlocks
    rw [unlocks]
    rfl
  | false =>
    rw [Server.run_unlocking_of_unknown knows]
    refine (run_send_bind _ _).trans ?_
    refine (run_send_bind _ _).trans ?_
    rw [show (s.server.run now .loadScript).2 = s.server.scripted from rfl, unlocks]
    rfl

theorem run_release {n : Int} {s' : Server}
    (unlocks : s.server.scripted.run now (unlocking space token) = (.int n, s')) :
    (release space token).run (Session.answer ids now) s =
      (.ok (decide (0 < n)), { s with server := s' }) := by
  have called := run_callScript ids unlocks
  rw [unlocking] at called
  unfold release
  refine (run_connect_bind _).trans ?_
  rw [Program.bind_eq, Program.run_bind, called]
  rfl

theorem run_acquire_of_taken {bytes : Bytes}
    (taken : s.server.value? now (lockName space key) = some bytes) :
    (acquire space key lifetime).run (Session.answer ids now) s =
      (.ok none, { s with drawn := s.drawn + 1 }) := by
  unfold acquire
  refine (run_connect_bind _).trans ((run_newHolder_bind _).trans ((run_now_bind _).trans
    ((run_send_bind _ _).trans ?_)))
  simp only [Server.run, taken]
  rfl

theorem run_acquire_of_free (free : s.server.value? now (lockName space key) = none) :
    (acquire space key lifetime).run (Session.answer ids now) s =
      (.ok (some ⟨key, ids s.drawn, now, lifetime⟩),
        { server := s.server.put now (lockName space key) (Server.mark (ids s.drawn))
            (some (lockMillis lifetime))
          drawn := s.drawn + 1 }) := by
  unfold acquire
  refine (run_connect_bind _).trans ((run_newHolder_bind _).trans ((run_now_bind _).trans
    ((run_send_bind _ _).trans ?_)))
  simp only [Server.run, free]
  rfl

def Session.acquire (ids : Nat → Uuid) (space : String) (now : Timestamp) (key : CompositeKey)
    (lifetime : Nat) (s : Session) : Option (Option LockToken) × Session :=
  let r := (Redis.acquire space key lifetime).run (Session.answer ids now) s
  (r.1.toOption, r.2)

def Session.release (ids : Nat → Uuid) (space : String) (now : Timestamp) (token : LockToken)
    (s : Session) : Option Bool × Session :=
  let r := (Redis.release space token).run (Session.answer ids now) s
  (r.1.toOption, r.2)

def clerk (ids : Nat → Uuid) (space : String) : Lock.Clerk where
  State := Session
  start := {}
  acquire := Session.acquire ids space
  release := Session.release ids space

namespace Server

-- What is in place lasts.
def seat (s : Server) (now : Timestamp) (name : String) : Option (Bytes × Bool) :=
  (s.value? now name).map fun bytes => (bytes, true)

theorem seat_eq_some_iff {s : Server} {name : String} {bytes : Bytes} {lasting : Bool} :
    s.seat now name = some (bytes, lasting) ↔ s.value? now name = some bytes ∧ lasting = true := by
  cases lasting <;> simp [seat]

theorem seat_erase (s : Server) (name : String) (now : Timestamp) (other : String) :
    (s.erase name).seat now other = if name = other then none else s.seat now other := by
  by_cases same : name = other
  · subst same
    rw [seat, value?_erase_self, if_pos rfl]
    rfl
  · rw [seat, value?_erase_of_ne (Ne.symm same), if_neg same]
    rfl

theorem seat_put {later : Timestamp} {name : String} (dated : Dated now (.acquire key lifetime))
    (s : Server) (holder : Uuid) (other : String) :
    (s.put now name (mark holder) (some (lockMillis lifetime))).seat later other =
      if name = other then Lock.seated mark false later ⟨key, holder, now, lifetime⟩
      else s.seat later other := by
  by_cases same : name = other
  · subst same
    obtain ⟨ms, positive, small, rfl⟩ := dated.exists_millis
    have millis : lockMillis (ms * 1000000) = ms := by
      have size : UInt64.size = 2 ^ 64 := rfl
      rw [lockMillis, size]
      omega
    have lasts : (Lock.Grant.mk key now (ms * 1000000)).lasts later =
        decide (later.toNanos < now.toNanos + ms * 1000000) := by
      simp [Lock.Grant.lasts]
    rw [seat, value?_put_self, millis, if_pos rfl, Lock.seated, LockToken.grant, lasts]
    simp only [decide_eq_true_eq, Bool.false_eq_true, if_false]
    split <;> rfl
  · rw [seat, value?_put_of_ne (Ne.symm same), if_neg same]
    rfl

end Server

namespace Session

theorem acquire_of_taken {bytes : Bytes}
    (taken : s.server.seat now (lockName space key) = some (bytes, true)) :
    acquire ids space now key lifetime s = (some none, { s with drawn := s.drawn + 1 }) := by
  simp only [acquire, run_acquire_of_taken (Server.seat_eq_some_iff.1 taken).1, Except.toOption]

theorem acquire_of_free
    (free : ∀ bytes, s.server.seat now (lockName space key) ≠ some (bytes, true)) :
    acquire ids space now key lifetime s = (some (some ⟨key, ids s.drawn, now, lifetime⟩),
      { server := s.server.put now (lockName space key) (Server.mark (ids s.drawn))
          (some (lockMillis lifetime))
        drawn := s.drawn + 1 }) := by
  have nothing : s.server.value? now (lockName space key) = none :=
    Option.eq_none_iff_forall_ne_some.2 fun bytes there =>
      free bytes (Server.seat_eq_some_iff.2 ⟨there, rfl⟩)
  simp only [acquire, run_acquire_of_free nothing, Except.toOption]

theorem release_of_seat {lasting : Bool}
    (placed : s.server.seat now (lockName space token.key) =
      some (Server.mark token.holder, lasting)) :
    release ids space now token s =
      (some true, { s with server := s.server.scripted.erase (lockName space token.key) }) := by
  have held := (Server.seat_eq_some_iff.1 placed).1
  have unlocks := Server.run_unlocking_of_held space (s := s.server.scripted) rfl held
  simp only [release, run_release unlocks, Except.toOption]
  rfl

theorem release_of_unseated
    (unseated : ∀ lasting, s.server.seat now (lockName space token.key) ≠
      some (Server.mark token.holder, lasting)) :
    release ids space now token s = (some false, { s with server := s.server.scripted }) := by
  have unheld : s.server.scripted.value? now (lockName space token.key) ≠
      some (Server.mark token.holder) := fun held =>
    unseated true (Server.seat_eq_some_iff.2 ⟨held, rfl⟩)
  have unlocks := Server.run_unlocking_of_unheld space rfl unheld
  simp only [release, run_release unlocks, Except.toOption]
  rfl

end Session

def lockView (ids : Nat → Uuid) (space : String) :
    Lock.View (clerk ids space) ids (lockName space) Server.mark false where
  marks := Server.mark_injective
  Sound _ := True
  drawn := Session.drawn
  seat s := s.server.seat
  start := ⟨trivial, rfl, fun _ _ => rfl⟩
  refuse _ _ _ taken :=
    ⟨_, Session.acquire_of_taken taken, trivial, rfl, fun _ _ _ _ => rfl⟩
  grant _ _ dated free :=
    ⟨_, Session.acquire_of_free free, trivial, rfl,
      fun _ name _ _ => Server.seat_put dated _ _ name⟩
  clear {_ s _ _} _ _ placed :=
    ⟨_, Session.release_of_seat placed, trivial, rfl,
      fun later name _ _ => Server.seat_erase s.server.scripted _ later name⟩
  spare _ _ unseated :=
    ⟨_, Session.release_of_unseated unseated, trivial, rfl, fun _ _ _ _ => rfl⟩

theorem storageKey_of_lockName {key other : CompositeKey}
    (same : lockName space key = lockName space other) : key.storageKey = other.storageKey :=
  (String.append_right_inj _).1 same

-- The answers part where a token that is over is given back before another was granted.
theorem coordinators_agree_iff {ids' : Nat → Uuid} {later : Timestamp}
    {record other : Record Lock.Request Lock.Answer} {desk : MemoryLocks.Session × List LockToken}
    {desk' : Session × List LockToken} (distinct : Set.InjOn ids (Set.Iio record.length))
    (distinctToo : Set.InjOn ids' (Set.Iio record.length))
    (memory : (MemoryLocks.clerk ids).desk.Follows now record desk)
    (redis : (clerk ids' space).desk.Follows later other desk') (same : record.asked = other.asked)
    (dated : ∀ e ∈ record, Dated e.time e.call) (apart : Lock.KeysApart record) :
    record.Abides (Lock.ruling id true) ∧ other.Abides (Lock.ruling id false) ∧
      List.Forall₂ Lock.SameGrant record other ∧
      (record = other ↔ ∀ e past i, e :: past <:+ record → e.call = .release i →
        Lock.Owns past i → Lock.Lasts past e.time i) := by
  have length_eq : record.length = other.length := by
    simpa [Record.asked] using congrArg List.length same
  have datedToo := Record.forall_of_asked same dated
  have lenient := (MemoryLocks.view ids).abides distinct memory dated
  have strict : other.Abides (Lock.ruling id false) := by
    have named := (lockView ids' space).abides (length_eq ▸ distinctToo) redis datedToo
    refine named.congr fun e past part => ?_
    exact Lock.ruling_name (fun _ _ => storageKey_of_lockName)
      ((apart.of_asked same).of_subset part.subset)
  refine ⟨lenient, strict, Lock.sameGrant_of_abides lenient strict same, ?_⟩
  rw [Record.eq_iff_of_abides lenient strict same]
  simp only [Lock.ruling_eq_iff]
  constructor
  · intro agree e past i part
    exact agree e past part i
  · intro agree e past part i
    exact agree e past i part

def seatKey : CompositeKey :=
  CompositeKey.build "POST" "/orders" ⟨"k-1"⟩

def noon : Timestamp := ⟨1798804800, 0, by decide⟩

def secondLater : Timestamp := ⟨1798804801, 0, by decide⟩

-- A token is granted and given back when it is over; in memory it still owned the lock.
def overdue (held : Bool) : Record Lock.Request Lock.Answer :=
  [⟨secondLater, .release 0, .released held⟩,
    ⟨noon, .acquire seatKey 1000000000, .acquired true⟩]

theorem ofSeed_injOn : Set.InjOn Uuid.ofSeed (Set.Iio 2) := by
  intro i early j earlyToo same
  have small : ∀ i < 2, ∀ j < 2, Uuid.ofSeed i = Uuid.ofSeed j → i = j := by decide
  exact small i early j earlyToo same

theorem overdue_held_in_memory :
    ∃ (other : Record Lock.Request Lock.Answer) (desk : MemoryLocks.Session × List LockToken)
      (desk' : Session × List LockToken),
      (MemoryLocks.clerk Uuid.ofSeed).desk.Follows secondLater (overdue true) desk ∧
      (clerk Uuid.ofSeed "idem").desk.Follows secondLater other desk' ∧
      (overdue true).asked = other.asked ∧ overdue true ≠ other := by
  have order : noon ≤ secondLater := not_lt.1 (by decide)
  have plain : noon.IsPlain := by decide
  have plainLater : secondLater.IsPlain := by decide
  have held := Responder.Follows.call (S := (MemoryLocks.clerk Uuid.ofSeed).desk)
    (.start noon plain) (.acquire seatKey 1000000000)
  have memory : (MemoryLocks.clerk Uuid.ofSeed).desk.Follows secondLater (overdue true) _ :=
    (held.pass order plainLater).call (.release 0)
  have kept := Responder.Follows.call (S := (clerk Uuid.ofSeed "idem").desk)
    (.start noon plain) (.acquire seatKey 1000000000)
  have redis := (kept.pass order plainLater).call (.release 0)
  refine ⟨_, _, _, memory, redis, rfl, fun same => ?_⟩
  have dated : ∀ e ∈ overdue true, Dated e.time e.call := by
    simp only [overdue, List.forall_mem_cons]
    exact ⟨trivial, ⟨⟨1000, by decide, rfl⟩, by decide +kernel⟩, by simp⟩
  have apart : Lock.KeysApart (overdue true) := by
    simp [Lock.KeysApart, overdue, Lock.Request.key?]
  obtain ⟨-, -, -, agree⟩ :=
    coordinators_agree_iff ofSeed_injOn ofSeed_injOn memory redis rfl dated apart
  obtain ⟨g, granted, lasts⟩ := agree.1 same _ _ 0 (List.suffix_refl _) rfl ⟨_, rfl, rfl⟩
  cases granted
  exact absurd lasts (by decide)

end OncePerKey.Redis
