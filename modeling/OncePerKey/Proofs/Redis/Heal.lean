import OncePerKey.Proofs.Redis.Sequence

set_option autoImplicit false

namespace OncePerKey.Redis

structure Errand where
  session : Session
  asked : Nat := 0
  sent : List Command := []

namespace Errand

def server (e : Errand) : Server :=
  e.session.server

def after (e : Errand) (server : Server) (asked : Nat) (commands : List Command) : Errand :=
  ⟨{ e.session with server }, e.asked + asked, commands ++ e.sent⟩

@[simp] theorem server_after (e : Errand) (server : Server) (asked : Nat) (commands : List Command) :
    (e.after server asked commands).server = server := rfl

@[simp] theorem asked_after (e : Errand) (server : Server) (asked : Nat) (commands : List Command) :
    (e.after server asked commands).asked = e.asked + asked := rfl

@[simp] theorem after_after (e : Errand) (s t : Server) (m n : Nat) (first next : List Command) :
    (e.after s m first).after t n next = e.after t (m + n) (next ++ first) := by
  simp [after, Nat.add_assoc]

def noted (e : Errand) : Ask → List Command
  | .send c => c :: e.sent
  | _ => e.sent

-- The server works, and answers each question at a moment of its own.
def answer (ids : Nat → Uuid) (clock : Nat → Timestamp) (q : Ask) (e : Errand) : q.Answer × Errand :=
  let r := Session.answer ids (clock e.asked) q e.session
  (r.1, ⟨r.2, e.asked + 1, e.noted q⟩)

variable {ids : Nat → Uuid} {clock : Nat → Timestamp} {e : Errand} {α : Type}

theorem run_now (next : Timestamp → Talking α) :
    ((Talking.ask .now).bind next).run (answer ids clock) e =
      (next (clock e.asked)).run (answer ids clock) (e.after e.server 1 []) := rfl

theorem run_connect (next : Except Fault Unit → Talking α) :
    ((Talking.ask .connect).bind next).run (answer ids clock) e =
      (next (.ok ())).run (answer ids clock) (e.after e.server 1 []) := rfl

theorem run_report (note : Note) (next : Unit → Talking α) :
    ((Talking.ask (.report note)).bind next).run (answer ids clock) e =
      (next ()).run (answer ids clock) (e.after e.server 1 []) := rfl

theorem run_send (c : Command) (next : Reply → Talking α) :
    ((Talking.ask (.send c)).bind next).run (answer ids clock) e =
      (next (e.server.run (clock e.asked) c).1).run (answer ids clock)
        (e.after (e.server.run (clock e.asked) c).2 1 [c]) := rfl

theorem run_observed {operation : String} {t : Talking (Except Failure α)} {r : Except Failure α}
    {e' : Errand} (ended : t.run (answer ids clock) e = (r, e')) :
    (observed operation t).run (answer ids clock) e = (r, e'.after e'.server 1 []) := by
  unfold observed
  rw [Program.bind_eq, Program.run_bind, ended]
  rfl

variable {space name text : String} {bytes : Bytes} {key : CompositeKey} {response : Cached}
  {fault : Utf8.Fault}

section

variable (there : e.server.value? (clock e.asked) name = some bytes)
include there

theorem run_read_of_notText (garbled : Utf8.decode bytes = .error fault) :
    (read name).run (answer ids clock) e = (.error .notText, e.after e.server 1 [.get name]) := by
  unfold read
  refine (run_send _ _).trans ?_
  simp [Server.run, there, Reply.text?, garbled]

theorem run_read_of_unreadable (unreadable : Unreadable bytes) :
    (read name).run (answer ids clock) e =
      (.ok none, e.after (e.server.erase name) 3 [.del name, .get name]) := by
  obtain ⟨text, fault, decoded, parsed⟩ := unreadable
  unfold read
  refine (run_send _ _).trans ?_
  simp only [Server.run, there, Reply.text?, decoded, parsed]
  refine (run_report _ _).trans ((run_send _ _).trans ?_)
  simp [Server.run, Server.delete, Reply.number?]

theorem run_read_of_spells (spells : Spells bytes response) :
    (read name).run (answer ids clock) e = (.ok (some response), e.after e.server 1 [.get name]) := by
  obtain ⟨text, decoded, parsed⟩ := spells
  unfold read
  refine (run_send _ _).trans ?_
  simp [Server.run, there, Reply.text?, decoded, parsed]

end

variable {e' : Errand} {r : Except Fault (Option Cached)}

def looked (clock : Nat → Timestamp) (e : Errand) :
    Except Fault (Option Cached) → Except Failure (Option Cached) × Errand
  | .error fault => (.error fault.toFailure, e)
  | .ok none => (.ok none, e)
  | .ok (some response) =>
      (.ok (if response.isLiveAt (clock e.asked) then some response else none), e.after e.server 1 [])

theorem run_lookup
    (reads : (read (responseName space key)).run (answer ids clock) (e.after e.server 1 []) = (r, e')) :
    (lookup space key).run (answer ids clock) e = e'.looked clock r := by
  unfold lookup
  refine (run_connect _).trans ?_
  rw [Program.bind_eq, Program.run_bind, reads]
  rcases r with fault | _ | response
  · rfl
  · rfl
  · exact run_now _

section

variable {px left attempt : Nat}

theorem run_writeAttempts_of_absent (absent : e.server.value? (clock e.asked) name = none) :
    (writeAttempts name key text px (left + 1) attempt).run (answer ids clock) e =
      (.ok .written, e.after (e.server.put (clock e.asked) name (Utf8.encode text) (some px)) 1
        [.setAbsent name text px]) := by
  rw [writeAttempts]
  refine (run_send _ _).trans ?_
  simp [Server.run, absent, Reply.text?]

def refused (again : Errand → Except Failure WriteOutcome × Errand) (e : Errand) :
    Except Fault (Option Cached) → Except Failure WriteOutcome × Errand
  | .error fault => (.error fault.toFailure, e)
  | .ok (some existing) => (.ok (.alreadyExists existing), e)
  | .ok none => again (e.after e.server 1 [])

theorem run_writeAttempts_of_occupied (there : e.server.value? (clock e.asked) name = some bytes)
    (reads : (read name).run (answer ids clock) (e.after e.server 1 [.setAbsent name text px]) = (r, e')) :
    (writeAttempts name key text px (left + 1) attempt).run (answer ids clock) e =
      e'.refused ((writeAttempts name key text px left (attempt + 1)).run (answer ids clock)) r := by
  rw [writeAttempts]
  refine (run_send _ _).trans ?_
  simp only [Server.run, there, Reply.text?]
  rw [Program.bind_eq, Program.run_bind, reads]
  rcases r with fault | _ | existing
  · rfl
  · exact run_report _ _
  · rfl

end

theorem run_write (left : 0 < millis response (clock e.asked)) :
    (write space key response).run (answer ids clock) e =
      (writeAttempts (responseName space key) key (Cached.codec.render response)
        (millis response (clock e.asked)).toNat maxWriteAttempts 1).run (answer ids clock)
          (e.after e.server 2 []) := by
  unfold write
  refine (run_now _).trans ?_
  have early : ¬ response.remaining (clock e.asked) / 1000000 ≤ 0 := not_le.2 left
  simp only [early, if_false]
  exact (run_connect _).trans (by simp [millis])

theorem run_get
    (reads : (read (responseName space key)).run (answer ids clock) (e.after e.server 1 []) = (r, e')) :
    (get space key).run (answer ids clock) e =
      ((e'.looked clock r).1, (e'.looked clock r).2.after (e'.looked clock r).2.server 1 []) :=
  run_observed (run_lookup reads)

def writing (clock : Nat → Timestamp) (n : Nat) (space : String) (key : CompositeKey) (response : Cached) :
    Command :=
  .setAbsent (responseName space key) (Cached.codec.render response) (millis response (clock n)).toNat

def again (ids : Nat → Uuid) (clock : Nat → Timestamp) (n : Nat) (space : String) (key : CompositeKey)
    (response : Cached) : Errand → Except Failure WriteOutcome × Errand :=
  (writeAttempts (responseName space key) key (Cached.codec.render response)
    (millis response (clock n)).toNat 2 2).run (answer ids clock)

theorem again_of_absent {n : Nat}
    (absent : e.server.value? (clock e.asked) (responseName space key) = none) :
    again ids clock n space key response e = (.ok .written,
      e.after (e.server.put (clock e.asked) (responseName space key)
          (Utf8.encode (Cached.codec.render response)) (some (millis response (clock n)).toNat)) 1
        [writing clock n space key response]) :=
  run_writeAttempts_of_absent absent

theorem run_set (left : 0 < millis response (clock e.asked))
    (there : e.server.value? (clock (e.asked + 2)) (responseName space key) = some bytes)
    (reads : (read (responseName space key)).run (answer ids clock)
      (e.after e.server 3 [writing clock e.asked space key response]) = (r, e')) :
    (set space key response).run (answer ids clock) e =
      ((e'.refused (again ids clock e.asked space key response) r).1,
        (e'.refused (again ids clock e.asked space key response) r).2.after
          (e'.refused (again ids clock e.asked space key response) r).2.server 1 []) := by
  refine run_observed ((run_write left).trans ?_)
  refine run_writeAttempts_of_occupied there ?_
  rw [after_after]
  exact reads

section

variable (there : ∀ n, e.server.value? (clock n) (responseName space key) = some bytes)
include there

theorem run_get_of_notText (garbled : Utf8.decode bytes = .error fault) :
    (get space key).run (answer ids clock) e =
      (.error Fault.notText.toFailure, e.after e.server 3 [.get (responseName space key)]) := by
  have reads : (read (responseName space key)).run (answer ids clock) (e.after e.server 1 []) = _ :=
    run_read_of_notText (there _) garbled
  simpa [looked] using run_get reads

theorem run_get_of_unreadable (unreadable : Unreadable bytes) :
    (get space key).run (answer ids clock) e = (.ok none,
      e.after (e.server.erase (responseName space key)) 5
        [.del (responseName space key), .get (responseName space key)]) := by
  have reads : (read (responseName space key)).run (answer ids clock) (e.after e.server 1 []) = _ :=
    run_read_of_unreadable (there _) unreadable
  simpa [looked] using run_get reads

theorem run_get_of_spells {existing : Cached} (spells : Spells bytes existing) :
    (get space key).run (answer ids clock) e =
      (.ok (if existing.isLiveAt (clock (e.asked + 2)) then some existing else none),
        e.after e.server 4 [.get (responseName space key)]) := by
  have reads : (read (responseName space key)).run (answer ids clock) (e.after e.server 1 []) = _ :=
    run_read_of_spells (there _) spells
  simpa [looked, Nat.add_assoc] using run_get reads

variable (left : 0 < millis response (clock e.asked))
include left

theorem run_set_of_notText (garbled : Utf8.decode bytes = .error fault) :
    (set space key response).run (answer ids clock) e = (.error Fault.notText.toFailure,
      e.after e.server 5 [.get (responseName space key), writing clock e.asked space key response]) := by
  have reads : (read (responseName space key)).run (answer ids clock)
      (e.after e.server 3 [writing clock e.asked space key response]) = _ :=
    run_read_of_notText (there _) garbled
  simpa [refused] using run_set left (there _) reads

theorem run_set_of_spells {existing : Cached} (spells : Spells bytes existing) :
    (set space key response).run (answer ids clock) e = (.ok (.alreadyExists existing),
      e.after e.server 5 [.get (responseName space key), writing clock e.asked space key response]) := by
  have reads : (read (responseName space key)).run (answer ids clock)
      (e.after e.server 3 [writing clock e.asked space key response]) = _ :=
    run_read_of_spells (there _) spells
  simpa [refused] using run_set left (there _) reads

theorem run_set_of_unreadable (unreadable : Unreadable bytes) :
    (set space key response).run (answer ids clock) e = (.ok .written,
      e.after ((e.server.erase (responseName space key)).put (clock (e.asked + 7)) (responseName space key)
          (Utf8.encode (Cached.codec.render response)) (some (millis response (clock e.asked)).toNat)) 9
        [writing clock e.asked space key response, .del (responseName space key),
          .get (responseName space key), writing clock e.asked space key response]) := by
  have reads : (read (responseName space key)).run (answer ids clock)
      (e.after e.server 3 [writing clock e.asked space key response]) = _ :=
    run_read_of_unreadable (there _) unreadable
  have absent := Server.value?_erase_self e.server (clock (e.asked + 7)) (responseName space key)
  have wrote : again ids clock e.asked space key response
      (e.after (e.server.erase (responseName space key)) 7 [.del (responseName space key),
        .get (responseName space key), writing clock e.asked space key response]) = _ :=
    again_of_absent absent
  simpa [refused, wrote] using run_set left (there _) reads

theorem run_ok_iff :
    (∃ found, ((get space key).run (answer ids clock) e).1 = .ok found) ∧
        (∃ outcome, ((set space key response).run (answer ids clock) e).1 = .ok outcome) ↔
      ∃ text, Utf8.decode bytes = .ok text := by
  cases decoded : Utf8.decode bytes with
  | error fault => simp [run_get_of_notText there decoded]
  | ok content =>
    refine iff_of_true ?_ ⟨content, rfl⟩
    cases parsed : Cached.codec.parse content with
    | error fault =>
      have unreadable : Unreadable bytes := ⟨content, fault, decoded, parsed⟩
      rw [run_get_of_unreadable there unreadable, run_set_of_unreadable there left unreadable]
      exact ⟨⟨_, rfl⟩, _, rfl⟩
    | ok existing =>
      have spells : Spells bytes existing := ⟨content, decoded, parsed⟩
      rw [run_get_of_spells there spells, run_set_of_spells there left spells]
      exact ⟨⟨_, rfl⟩, _, rfl⟩

end

end Errand

open Errand

variable {space : String} {key : CompositeKey} {s : Session} {bytes : Bytes} {response : Cached}

-- Bytes that are no text give an error and stay. Text that is no response is deleted, and a response stays.
theorem healed_iff_text (ids : Nat → Uuid) (clock : Nat → Timestamp)
    (there : ∀ n, s.server.value? (clock n) (responseName space key) = some bytes)
    (left : 0 < millis response (clock 0)) :
    let name := responseName space key
    let text := Cached.codec.render response
    let px := (millis response (clock 0)).toNat
    let got := (get space key).run (answer ids clock) ⟨s, 0, []⟩
    let wrote := (set space key response).run (answer ids clock) ⟨s, 0, []⟩
    ((∃ found, got.1 = .ok found) ∧ (∃ outcome, wrote.1 = .ok outcome) ↔
      ∃ text, Utf8.decode bytes = .ok text) ∧
    (∀ fault, Utf8.decode bytes = .error fault →
      got.1 = .error Fault.notText.toFailure ∧ got.2.server = s.server ∧
      wrote.1 = .error Fault.notText.toFailure ∧ wrote.2.server = s.server) ∧
    (Unreadable bytes →
      got.1 = .ok none ∧ (∀ later, got.2.server.value? later name = none) ∧
      wrote.1 = .ok .written ∧
      wrote.2.sent = [.setAbsent name text px, .del name, .get name, .setAbsent name text px] ∧
      ∃ n, ∀ later, wrote.2.server.value? later name =
        if later.toNanos < (clock n).toNanos + px * 1000000 then some (Utf8.encode text) else none) ∧
    ∀ existing, Spells bytes existing →
      (∃ n, got.1 = .ok (if existing.isLiveAt (clock n) then some existing else none)) ∧
      got.2.server = s.server ∧ wrote.1 = .ok (.alreadyExists existing) ∧ wrote.2.server = s.server := by
  intro name text px got wrote
  refine ⟨run_ok_iff (e := ⟨s, 0, []⟩) there left, fun fault decoded => ?_, fun unreadable => ?_,
    fun existing spells => ?_⟩
  · have looks : got = _ := run_get_of_notText (e := ⟨s, 0, []⟩) there decoded
    have writes : wrote = _ := run_set_of_notText (e := ⟨s, 0, []⟩) there left decoded
    rw [looks, writes]
    exact ⟨rfl, rfl, rfl, rfl⟩
  · have looks : got = _ := run_get_of_unreadable (e := ⟨s, 0, []⟩) there unreadable
    have writes : wrote = _ := run_set_of_unreadable (e := ⟨s, 0, []⟩) there left unreadable
    rw [looks, writes]
    exact ⟨rfl, fun later => Server.value?_erase_self _ later _, rfl, rfl, 7,
      fun later => Server.value?_put_self _ _ later _ _ _⟩
  · have looks : got = _ := run_get_of_spells (e := ⟨s, 0, []⟩) there spells
    have writes : wrote = _ := run_set_of_spells (e := ⟨s, 0, []⟩) there left spells
    rw [looks, writes]
    exact ⟨⟨2, rfl⟩, rfl, rfl, rfl⟩

def garbledInvoice : Session where
  server := { entries := [(responseName "idem" invoiceKey, ⟨[0xFF], none⟩)] }

theorem garbledInvoice_stays :
    (∀ now, garbledInvoice.server.value? now (responseName "idem" invoiceKey) = some [0xFF]) ∧
      0 < millis invoice invoice.createdAt ∧
      ((get "idem" invoiceKey).run (answer .ofSeed fun _ => invoice.createdAt) ⟨garbledInvoice, 0, []⟩).1 =
        .error Fault.notText.toFailure ∧
      ((set "idem" invoiceKey invoice).run (answer .ofSeed fun _ => invoice.createdAt)
        ⟨garbledInvoice, 0, []⟩).1 = .error Fault.notText.toFailure := by
  have there (now : Timestamp) :
      garbledInvoice.server.value? now (responseName "idem" invoiceKey) = some [0xFF] := by
    simp [garbledInvoice, Server.value?, Server.Entry.isLiveAt, Option.filter]
  have left : 0 < millis invoice invoice.createdAt := by decide
  obtain ⟨-, garbled, -⟩ := healed_iff_text .ofSeed (fun _ => invoice.createdAt)
    (fun _ => there invoice.createdAt) left
  obtain ⟨looked, -, written, -⟩ := garbled (.malformed 1 0) (by decide)
  exact ⟨there, left, looked, written⟩

end OncePerKey.Redis
