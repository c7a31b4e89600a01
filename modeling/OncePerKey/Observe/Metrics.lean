set_option autoImplicit false

namespace OncePerKey

inductive Measurement where
  | outcome (label : String)
  | storeOperation (backend operation : String) (success : Bool)
  | lockAcquisition (acquired : Bool)
  | sweep (deleted : UInt64)
  | httpRequest (method path : String) (status : Nat)
  deriving DecidableEq, Repr

structure Series where
  name : String
  labels : List (String × String)
  deriving DecidableEq, Repr

-- The series that a measurement adds to, with what it adds. Of a duration only the number of
-- observations is kept.
def Measurement.increments : Measurement → List (Series × UInt64)
  | .outcome label => [(⟨"idempotency_requests_total", [("outcome", label)]⟩, 1)]
  | .storeOperation backend operation success =>
      let labels := [("backend", backend), ("operation", operation)]
      [(⟨"idempotency_store_operations_total", labels ++ [("success", toString success)]⟩, 1),
       (⟨"idempotency_store_operation_duration_ms_count", labels⟩, 1)]
  | .lockAcquisition acquired =>
      [(⟨"idempotency_lock_acquisitions_total", [("acquired", toString acquired)]⟩, 1)]
  | .sweep deleted =>
      [(⟨"idempotency_sweep_deleted_total", []⟩, deleted),
       (⟨"idempotency_sweep_duration_ms_count", []⟩, 1)]
  | .httpRequest method path status =>
      let labels := [("method", method), ("path", path)]
      [(⟨"http_requests_total", labels ++ [("status", toString status)]⟩, 1),
       (⟨"http_request_duration_ms_count", labels⟩, 1)]

abbrev Counters := List (Series × UInt64)

namespace Counters

def add (series : Series) (n : UInt64) : Counters → Counters
  | [] => [(series, n)]
  | (s, value) :: rest =>
      if s = series then (s, value + n) :: rest else (s, value) :: add series n rest

def record (c : Counters) (m : Measurement) : Counters :=
  m.increments.foldl (fun c (series, n) => add series n c) c

def valueOf (c : Counters) (series : Series) : UInt64 :=
  (c.lookup series).getD 0

@[simp] theorem valueOf_add_self (series : Series) (n : UInt64) (c : Counters) :
    valueOf (add series n c) series = valueOf c series + n := by
  induction c with
  | nil => simp [add, valueOf]
  | cons entry rest ih =>
    obtain ⟨s, value⟩ := entry
    by_cases h : s = series
    · simp [add, valueOf, h]
    · simpa [add, valueOf, h, List.lookup_cons, beq_false_of_ne (Ne.symm h)] using ih

theorem valueOf_add_of_ne {series other : Series} (h : other ≠ series) (n : UInt64)
    (c : Counters) : valueOf (add series n c) other = valueOf c other := by
  induction c with
  | nil => simp [add, valueOf, List.lookup_cons, beq_false_of_ne h]
  | cons entry rest ih =>
    obtain ⟨s, value⟩ := entry
    by_cases hs : s = series
    · subst hs
      simp [add, valueOf, List.lookup_cons, beq_false_of_ne h]
    · by_cases ho : other = s
      · subst ho
        simp [add, valueOf, hs]
      · simpa [add, valueOf, hs, List.lookup_cons, beq_false_of_ne ho] using ih

-- A backslash is escaped once, whether or not it already stands before a character that needs it. `held`
-- says that one was read and not written.
def escapeLabel (held : Bool) : List Char → List Char
  | [] => if held then ['\\', '\\'] else []
  | '\n' :: rest => '\\' :: 'n' :: escapeLabel held rest
  | '"' :: rest => '\\' :: '"' :: escapeLabel false rest
  | '\\' :: rest =>
      if held then '\\' :: '\\' :: escapeLabel false rest else escapeLabel true rest
  | c :: rest =>
      if held then '\\' :: '\\' :: c :: escapeLabel false rest else c :: escapeLabel false rest

def labelText (label : String × String) : String :=
  label.1 ++ "=\"" ++ String.ofList (escapeLabel false label.2.toList) ++ "\""

def line (entry : Series × UInt64) : String :=
  let labels := entry.1.labels.map labelText
  let shown := if labels.isEmpty then "" else "\x7b" ++ ",".intercalate labels ++ "\x7d"
  entry.1.name ++ shown ++ " " ++ toString entry.2.toNat

def lines (c : Counters) : List String :=
  (c.map line).mergeSort fun a b => decide (a ≤ b)

end Counters

inductive SeriesKind where
  | counter
  | histogram
  deriving DecidableEq, Repr

structure Description where
  kind : SeriesKind
  name : String
  unit : String
  text : String
  deriving DecidableEq, Repr

def descriptions : List Description :=
  [⟨.histogram, "http_request_duration_ms", "milliseconds", "HTTP request latency in milliseconds"⟩,
   ⟨.counter, "http_requests_total", "count", "Total HTTP requests"⟩,
   ⟨.counter, "idempotency_lock_acquisitions_total", "count", "Lock acquisition attempts"⟩,
   ⟨.counter, "idempotency_requests_total", "count", "Idempotent requests by terminal outcome"⟩,
   ⟨.histogram, "idempotency_store_operation_duration_ms", "milliseconds",
    "Response store operation latency in milliseconds"⟩,
   ⟨.counter, "idempotency_store_operations_total", "count", "Response store operations"⟩,
   ⟨.counter, "idempotency_sweep_deleted_total", "count", "Expired entries removed by the sweeper"⟩,
   ⟨.histogram, "idempotency_sweep_duration_ms", "milliseconds", "Sweep latency in milliseconds"⟩]

end OncePerKey
