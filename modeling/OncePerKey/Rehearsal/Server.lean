import OncePerKey.Health
import OncePerKey.Postgres.Client
import OncePerKey.Redis.Client
import OncePerKey.Rehearsal.StandIn

set_option autoImplicit false

namespace OncePerKey.Rehearsal

def noSocket : String := "No such file or directory (os error 2)"

structure Hosted (S C R : Type) where
  server : S
  isReachable : Bool := true
  faults : List (Option R) := []
  asked : List (C × S) := []
  tokens : List LockToken := []

variable {S C R : Type}

def Hosted.serve (run : Timestamp → C → S → R × S) (c : C) : Task (Scene (Hosted S C R)) R := do
  let now ← now
  updateProps fun h =>
    let (r, server) :=
      match h.faults with
      | some r :: _ => (r, h.server)
      | _ => run now c h.server
    (r, { h with server, faults := h.faults.tail, asked := (c, h.server) :: h.asked })

abbrev RedisHost := Hosted Redis.Server Redis.Command Redis.Reply

abbrev PostgresHost := Hosted Postgres.Table Postgres.Statement Postgres.Reply

def askRedis (task : Nat) : (q : Redis.Ask) → Task (Scene RedisHost) q.Answer
  | .now => now
  | .newHolder => freshUuid
  | .connect => do
      if (← props).isReachable then return .ok ()
      else return .error (.unconnected noSocket)
  | .send c => Hosted.serve Redis.Server.run c
  | .report n => report task n

def askPostgres (task : Nat) : (q : Postgres.Ask) → Task (Scene PostgresHost) q.Answer
  | .now => now
  | .newId => freshUuid
  | .execute s => Hosted.serve (fun _ => Postgres.Table.carry) s
  | .report n => report task n

def redisBackend (space : String) : Backend RedisHost where
  lookup task key := (Redis.get space key).interpret (askRedis task)
  write task key response := (Redis.set space key response).interpret (askRedis task)
  acquire task key lifetime := (Redis.acquire space key lifetime).interpret (askRedis task)
  release task token := (Redis.release space token).interpret (askRedis task)
  pause _ := pure ()

def postgresBackend : Backend PostgresHost where
  lookup task key := (Postgres.get key).interpret (askPostgres task)
  write task key response := (Postgres.set key response).interpret (askPostgres task)
  acquire _ _ _ := pure (.ok none)
  release _ _ := pure (.ok false)
  pause _ := pure ()

def redisProbe : Task (Scene RedisHost) ProbeResult := do
  match ← Redis.ping.interpret (askRedis 0) with
  | .ok () => return .answered 0.0
  | .error fault => return .failed fault.message

def postgresProbe : Task (Scene PostgresHost) ProbeResult := do
  match ← Postgres.ping.interpret (askPostgres 0) with
  | .ok () => return .answered 0.0
  | .error detail => return .failed detail

def playOver {β : Type} (b : Backend β) (c : Request.Context) (r : Request) (op : Operation) :
    Task (Scene β) (Finished (Except Failure Outcome)) :=
  let operate := op.run 0 (fun _ => pure ()) (fun _ => pure ()) (pure ())
  finishing 0 (b.handle 0 operate (Request.execute c r))

def healthWith {β : Type} (d : Dependency) (probe : Task (Scene β) ProbeResult) :
    Task (Scene β) Health :=
  (checkHealth [d] 0).interpret fun _ => probe

def deleteInPostgres (now : Timestamp) (limit : Int64) :
    Task (Scene PostgresHost) (Except Failure UInt64) :=
  (Postgres.deleteExpired now limit).interpret (askPostgres 0)

end OncePerKey.Rehearsal
