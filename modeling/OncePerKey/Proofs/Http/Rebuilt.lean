import OncePerKey.Proofs.Http.Visit
import OncePerKey.Proofs.Response.Snapshot

set_option autoImplicit false

namespace OncePerKey.Http

variable {E : Type}

def marks (origin : String) (expiry : Option Timestamp) : Headers :=
  (statusHeader, Utf8.encode origin) ::
    (expiry.map fun at_ => (expiresHeader, Utf8.encode (Rfc3339.renderOffset at_))).toList

def Headers.Unmarked (h : Headers) : Prop :=
  ∀ p ∈ h, p.1 ≠ statusHeader ∧ p.1 ≠ expiresHeader

-- The first content type, if all of its bytes can be shown.
def Headers.shownType (h : Headers) : Headers :=
  (((h.get? "content-type").filter (·.all isShownByte)).map fun v => ("content-type", v)).toList

structure Received (D : Response) (bytes : Bytes) (expiry : Option Timestamp) (R : Response) : Prop where
  status : R.status = D.status
  headers : R.headers = D.headers ++ marks "created" expiry
  body : R.body.bytes? = some bytes

structure Replayed (D : Response) (bytes : Bytes) (expiry : Timestamp) (R : Response) : Prop where
  status : R.status = D.status
  headers : R.headers = D.headers.shownType ++ marks "cached" (some expiry)
  body : R.body.bytes? = some bytes

def Response.captureWith (D : Response) (bytes : Bytes) : Captured :=
  { status := D.status, contentType := D.headers.text? "content-type", body := bytes }

theorem marks_some (origin : String) (expiry : Timestamp) : marks origin (some expiry) =
    [(statusHeader, Utf8.encode origin), (expiresHeader, Utf8.encode (Rfc3339.renderOffset expiry))] :=
  rfl

section

variable {D R : Response} {bytes : Bytes}

theorem capture_of_bytes? (whole : D.body.bytes? = some bytes) :
    D.capture = .ok (D.captureWith bytes) := by
  rw [Response.capture, Body.read_eq_ok_iff.2 whole]
  rfl

theorem headers_marked {r : Response} (unmarked : r.headers.Unmarked) (origin : String) :
    (r.marked origin).headers = r.headers ++ marks origin none :=
  Headers.set_of_absent fun p present => (unmarked p present).1

theorem headers_expiring {r : Response} (unmarked : r.headers.Unmarked) (origin : String)
    (expiry : Timestamp) :
    ((r.marked origin).expiring expiry).headers = r.headers ++ marks origin (some expiry) := by
  have other : statusHeader ≠ expiresHeader := by decide
  have absent : ∀ p ∈ (r.marked origin).headers, p.1 ≠ expiresHeader := by
    rw [headers_marked unmarked]
    intro p present
    rcases List.mem_append.1 present with own | mark
    · exact (unmarked p own).2
    · rw [List.mem_singleton.1 mark]
      exact other
  rw [Response.expiring, Response.setHeader, Headers.set_of_absent absent, headers_marked unmarked,
    List.append_assoc, marks_some]
  rfl

theorem received_of_cached (unmarked : D.headers.Unmarked) {expiry : Timestamp}
    (ends : Ends (E := E)
      (closing (some D) (.ok (.executedCached (D.captureWith bytes) expiry))) R) :
    Received D bytes (some expiry) R := by
  obtain rfl := ends_done.1 ends
  exact ⟨rfl, headers_expiring (r := { D with body := .whole bytes }) unmarked "created" expiry,
    Body.bytes?_whole bytes⟩

theorem received_of_uncached (unmarked : D.headers.Unmarked) {reason : UncachedReason}
    (ends : Ends (E := E)
      (closing (some D) (.ok (.executedUncached (D.captureWith bytes) reason))) R) :
    Received D bytes none R := by
  obtain rfl := ends_done.1 (ends_report.1 ends)
  exact ⟨rfl, headers_marked (r := { D with body := .whole bytes }) unmarked "created",
    Body.bytes?_whole bytes⟩

theorem headers_ofCaptured (D : Response) (bytes : Bytes) :
    (Response.ofCaptured (D.captureWith bytes)).headers = D.headers.shownType := by
  have kept (value : Bytes) (shown : value.all isShownByte = true) : value.all isValueByte = true :=
    List.all_eq_true.2 fun b inside =>
      (Headers.toNat_of_isShownByte (List.all_eq_true.1 shown b inside)).2
  simp only [Response.ofCaptured, Response.captureWith, Headers.encode_text?, Headers.shownType]
  cases D.headers.get? "content-type" with
  | none => rfl
  | some value =>
    by_cases shown : value.all isShownByte = true
    · rw [Option.filter_some, if_pos shown, Option.filter_some, if_pos (kept value shown)]
    · rw [Option.filter_some, if_neg shown]
      rfl

theorem unmarked_shownType (h : Headers) : h.shownType.Unmarked := by
  have other : "content-type" ≠ statusHeader ∧ "content-type" ≠ expiresHeader := by decide
  intro p present
  obtain ⟨value, -, rfl⟩ := Option.map_eq_some_iff.1 (Option.mem_toList.1 present)
  exact other

theorem knownStatus_of_isCacheable {p : Policy} {status : UInt16}
    (eligible : p.isCacheable status = true) : knownStatus status = status := by
  have inside : 100 ≤ status ∧ status ≤ 999 := by
    simp only [Policy.isCacheable, Bool.and_eq_true, decide_eq_true_eq, UInt16.le_iff_toNat_le,
      UInt16.reduceToNat] at eligible ⊢
    split at eligible
    · omega
    · split at eligible
      · omega
      · cases eligible
  simp [knownStatus, inside]

theorem replayed_of_stored {cached : Cached} (known : knownStatus D.status = D.status)
    (same : cached.toCaptured = D.captureWith bytes) :
    Replayed D bytes cached.expiresAt (replayResponse cached) := by
  have rebuilt := headers_ofCaptured D bytes
  have unmarked : (Response.ofCaptured (D.captureWith bytes)).headers.Unmarked := by
    rw [rebuilt]
    exact unmarked_shownType D.headers
  rw [replayResponse, same]
  refine ⟨known, ?_, Body.bytes?_whole bytes⟩
  rw [headers_expiring unmarked, rebuilt]

end

end OncePerKey.Http
