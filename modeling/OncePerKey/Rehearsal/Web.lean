import OncePerKey.Http.Service
import OncePerKey.Rehearsal.Server
import OncePerKey.Rehearsal.StandIn

set_option autoImplicit false

namespace OncePerKey.Rehearsal

variable {E : Type}

structure Reply where
  response : Http.Response := { status := 200 }
  delayMs : Nat := 0
  deriving Inhabited

structure ScriptedEndpoint where
  name : String
  replies : List Reply

def ScriptedEndpoint.reply (e : ScriptedEndpoint) (earlier : Nat) : Reply :=
  (e.replies[earlier]?.orElse fun _ => e.replies.getLast?).getD {}

def ScriptedEndpoint.answer (e : ScriptedEndpoint) (r : Http.Request) : Playing Http.Response := do
  let stage ← look
  let visit : Visit :=
    { atMs := stage.clock.atMs, endpoint := e.name, method := r.method, uri := r.uri.text
      body := r.body.bytes?.getD [] }
  let earlier := stage.scene.props.visits.countP (·.endpoint = e.name)
  changeProps fun p => { p with visits := visit :: p.visits }
  let reply := e.reply earlier
  if reply.delayMs > 0 then sleep reply.delayMs
  return reply.response

def scriptedSite (routes : List (ScriptedEndpoint × Option (List String)))
    (fallback : Option ScriptedEndpoint) (guardsFallback : Bool) : Http.Site ScriptedEndpoint where
  routes := routes.map fun (endpoint, methods) =>
    { pattern := .ofText endpoint.name, methods, guarded := true, endpoint }
  fallback := fallback
  guardsFallback := guardsFallback

inductive Ailment where
  | down
  | hangs
  deriving DecidableEq, Repr

def Ailment.probe : Ailment → Dependency → Playing ProbeResult
  | .down, .redis => return .failed noSocket
  | .down, .postgres => return .failed ("error communicating with database: " ++ noSocket)
  | .hangs, _ => do
      sleep Dependency.probeTimeoutMs
      return .timedOut

abbrev Ailments := List (Dependency × Ailment)

def serviceAnswer (ailments : Ailments) (hasMetrics : Bool) (task : Nat) (e : Http.Endpoint)
    (r : Http.Request) : Playing Http.Response :=
  let parts : Http.ServiceParts := { dependencies := ailments.map (·.1), hasMetrics }
  let answer : (q : Http.ServiceAsk) → Playing q.Answer
    | .now => now
    | .newId => freshUuid
    | .uptimeSeconds => .done (0 : UInt64)
    | .probe d =>
        match ailments.lookup d with
        | some ailment => ailment.probe d
        | none => .done (.answered 0.0)
    | .tally => do return (← look).scene.tally
    | .counters => do return (← look).scene.counters
    | .report n => report task n
  (Http.answer parts e r).interpret answer

def visitSite (c : Request.Context) (site : Http.Site E)
    (forward : Nat → E → Http.Request → Playing Http.Response) (task : Nat) (r : Http.Request) :
    Playing (Finished Http.Response) :=
  let answer : (q : Http.Ask E) → Playing q.Answer
    | .engine q => StandIns.backend.answer task crash q
    | .forward endpoint r => forward task endpoint r
  finishing task ((site.serve c r).interpret answer)

end OncePerKey.Rehearsal
