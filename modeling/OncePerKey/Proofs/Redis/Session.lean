import OncePerKey.Redis.Client

set_option autoImplicit false

namespace OncePerKey.Redis

structure Session where
  server : Server := {}
  drawn : Nat := 0

def Session.answer (ids : Nat → Uuid) (now : Timestamp) :
    (q : Ask) → Session → q.Answer × Session
  | .now, s => (now, s)
  | .newHolder, s => (ids s.drawn, { s with drawn := s.drawn + 1 })
  | .connect, s => (.ok (), s)
  | .send c, s => ((s.server.run now c).1, { s with server := (s.server.run now c).2 })
  | .report _, s => ((), s)

section

variable {ids : Nat → Uuid} {now : Timestamp} {s : Session} {α : Type}

theorem run_now_bind (next : Timestamp → Talking α) :
    ((Talking.ask .now).bind next).run (Session.answer ids now) s =
      (next now).run (Session.answer ids now) s := rfl

theorem run_newHolder_bind (next : Uuid → Talking α) :
    ((Talking.ask .newHolder).bind next).run (Session.answer ids now) s =
      (next (ids s.drawn)).run (Session.answer ids now) { s with drawn := s.drawn + 1 } := rfl

theorem run_connect_bind (next : Except Fault Unit → Talking α) :
    ((Talking.ask .connect).bind next).run (Session.answer ids now) s =
      (next (.ok ())).run (Session.answer ids now) s := rfl

theorem run_send_bind (c : Command) (next : Reply → Talking α) :
    ((Talking.ask (.send c)).bind next).run (Session.answer ids now) s =
      (next (s.server.run now c).1).run (Session.answer ids now)
        { s with server := (s.server.run now c).2 } := rfl

theorem run_observed (operation : String) (t : Talking (Except Failure α)) :
    (observed operation t).run (Session.answer ids now) s = t.run (Session.answer ids now) s := by
  unfold observed
  rw [Program.bind_eq, Program.run_bind]
  rfl

end

end OncePerKey.Redis
