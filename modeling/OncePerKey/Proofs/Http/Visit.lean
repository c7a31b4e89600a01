import OncePerKey.Proofs.Http.Message
import OncePerKey.Proofs.Request.Course

set_option autoImplicit false

namespace OncePerKey.Http

variable {E α : Type}

def reporting (notes : List Note) (p : Serving E α) : Serving E α :=
  notes.foldr (fun note rest => Program.ask (.engine (.report note)) fun _ => rest) p

@[simp] theorem reporting_cons (note : Note) (notes : List Note) (p : Serving E α) :
    reporting (note :: notes) p =
      Program.ask (.engine (.report note)) fun _ => reporting notes p := rfl

def Ends (p : Serving E Response) (response : Response) : Prop :=
  ∃ notes, p = reporting notes (.done response)

@[simp] theorem ends_done {r response : Response} : Ends (E := E) (.done r) response ↔ r = response := by
  constructor
  · rintro ⟨notes, same⟩
    cases notes <;> cases same
    rfl
  · rintro rfl
    exact ⟨[], rfl⟩

@[simp] theorem ends_report {note : Note} {next : Unit → Serving E Response} {response : Response} :
    Ends (Program.ask (.engine (.report note)) next) response ↔ Ends (next ()) response := by
  constructor
  · rintro ⟨notes, same⟩
    cases notes with
    | nil => cases same
    | cons first rest =>
      cases same
      exact ⟨rest, rfl⟩
  · rintro ⟨notes, same⟩
    refine ⟨note :: notes, ?_⟩
    rw [reporting_cons, ← same]
    rfl

def closing (kept : Option Response) : Except Failure Outcome → Serving E Response
  | .ok outcome => outcomeResponse kept outcome
  | .error failure => failureResponse failure

theorem exists_ends (kept : Option Response) (result : Except Failure Outcome) :
    ∃ response, Ends (closing (E := E) kept result) response := by
  cases result with
  | error failure => cases failure <;> exact ⟨_, ends_report.2 (ends_done.2 rfl)⟩
  | ok outcome =>
    cases outcome with
    | executedUncached => exact ⟨_, ends_report.2 (ends_done.2 rfl)⟩
    | _ => exact ⟨_, ends_done.2 rfl⟩

def forwarding (endpoint : E) (r : Request) : Serving E Response :=
  Serving.ask (.forward endpoint r)

def operated (response : Response) : Except Failure Captured :=
  response.capture.mapError fun fault => .downstream fault.message

-- The response that the gate keeps for its headers, of those that the endpoint gave, the last one first.
def kept : List Response → Option Response
  | [] => none
  | response :: _ => response.capture.toOption.map fun _ => response

theorem operate_operate (next : Serving E Response) (before : Option Response)
    (answered : List Response) : operate next .operate before =
      next.bind fun response => Program.done (operated response, kept (response :: answered)) := by
  refine congrArg next.bind (funext fun response => ?_)
  simp only [operated, kept]
  cases response.capture <;> rfl

theorem exists_ends_bodyRefusal (c : Request.Context) (fault : BodyFault) :
    ∃ response, Ends (bodyRefusal (E := E) c fault) response := by
  unfold bodyRefusal
  split <;> exact ⟨_, ends_report.2 (ends_done.2 rfl)⟩

structure Visit (E : Type) where
  context : Request.Context
  route : String
  endpoint : E
  request : Request

namespace Visit

variable (v : Visit E)

def program : Serving E Response :=
  gate v.context v.route (forwarding v.endpoint) v.request

def key? : Option Bytes :=
  v.request.headers.get? v.context.policy.headerName

def passes : Bool :=
  isSafe v.request.method || (v.key?.isNone && !v.context.policy.requireKey)

def room : Nat :=
  v.context.policy.maxBodyBytes.toNat

def read? : Option Bytes :=
  if v.passes then none else (v.request.body.collect v.room).toOption

def engineRequest (bytes : Bytes) : OncePerKey.Request where
  method := v.request.method
  route := v.route
  rawKey := v.key?.map Utf8.decodeLossy
  fingerprint := some (fingerprint bytes)

def whole (bytes : Bytes) : Request :=
  { v.request with body := .whole bytes }

def rest (bytes : Bytes) (p : Handling (Except Failure Outcome)) (kept : Option Response) :
    Serving E Response :=
  (p.interpretWith (operate (forwarding v.endpoint (v.whole bytes))) kept).bind fun r =>
    closing r.2 r.1

variable {v} {bytes : Bytes}

theorem program_eq (v : Visit E) : v.program =
    if v.passes then forwarding v.endpoint v.request
    else match v.request.body.collect v.room with
      | .error fault => bodyRefusal v.context fault
      | .ok bytes => v.rest bytes (Request.execute v.context (v.engineRequest bytes)) none := by
  have keyless : (rawKey v.context v.request).isNone = v.key?.isNone := Option.isNone_map
  simp only [program, gate, passes, keyless]
  rfl

theorem program_of_passes (passes : v.passes = true) :
    v.program = forwarding v.endpoint v.request := by
  rw [program_eq, if_pos passes]

theorem program_of_fault {fault : BodyFault} (stopped : v.passes = false)
    (faulty : v.request.body.collect v.room = .error fault) :
    v.program = bodyRefusal v.context fault := by
  rw [program_eq, if_neg (by simp [stopped]), faulty]

theorem read?_eq_some_iff : v.read? = some bytes ↔
    v.passes = false ∧ v.request.body.collect v.room = .ok bytes := by
  unfold read?
  cases v.passes with
  | true => simp
  | false => cases v.request.body.collect v.room <;> simp [Except.toOption]

theorem program_of_read (read : v.read? = some bytes) :
    v.program = v.rest bytes (Request.execute v.context (v.engineRequest bytes)) none := by
  obtain ⟨stopped, collected⟩ := read?_eq_some_iff.1 read
  rw [program_eq, if_neg (by simp [stopped]), collected]

theorem rest_done (result : Except Failure Outcome) (kept : Option Response) :
    v.rest bytes (.done result) kept = closing kept result := rfl

theorem rest_ask {q : OncePerKey.Ask} (other : q ≠ .operate)
    (next : q.Answer → Handling (Except Failure Outcome)) (before : Option Response) :
    v.rest bytes (Program.ask q next) before =
      Program.ask (Ask.engine q) fun r => v.rest bytes (next r) before := by
  cases q with
  | operate => exact absurd rfl other
  | _ => rfl

theorem rest_operate (next : OncePerKey.Ask.operate.Answer → Handling (Except Failure Outcome))
    (before : Option Response) (answered : List Response) :
    v.rest bytes (Program.ask .operate next) before =
      Program.ask (Ask.forward v.endpoint (v.whole bytes)) fun response =>
        v.rest bytes (next (operated response)) (kept (response :: answered)) := by
  rw [rest, Program.interpretWith_ask, operate_operate _ _ answered]
  rfl

-- What the engine works on for this visit, if it works on anything.
def handed (v : Visit E) : OncePerKey.Request :=
  v.engineRequest (v.read?.getD [])

theorem handed_eq (read : v.read? = some bytes) : v.handed = v.engineRequest bytes := by
  rw [handed, read, Option.getD_some]

end Visit

end OncePerKey.Http
