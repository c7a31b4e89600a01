import Mathlib.Order.Basic
import OncePerKey.Proofs.Responder

set_option autoImplicit false

namespace OncePerKey.Store

inductive Call where
  | get (key : CompositeKey)
  | set (key : CompositeKey) (response : Cached)
  deriving DecidableEq

inductive Returned where
  | got (r : Except Failure (Option Cached))
  | set (r : Except Failure WriteOutcome)

def Call.key : Call → CompositeKey
  | .get key | .set key _ => key

structure Acceptance where
  time : Timestamp
  response : Cached

structure Term where
  lasts : Acceptance → Timestamp → Bool
  refuses? : Timestamp → Cached → Option Failure := fun _ _ => none

-- Every response is accepted, and stands as long as it lives.
def Term.lifelong : Term where
  lasts a now := a.response.isLiveAt now

variable {ν : Type} [DecidableEq ν] {name : CompositeKey → ν} {n : ν} {term : Term}

section

variable (name n)

def acceptedBy (e : Answered Call Returned) : Option Acceptance :=
  match e.call, e.answer with
  | .set key response, .set (.ok .written) => if name key = n then some ⟨e.time, response⟩ else none
  | _, _ => none

def lastAccepted? (record : Record Call Returned) : Option Acceptance :=
  record.findSome? (acceptedBy name n)

def standing (term : Term) (record : Record Call Returned) (now : Timestamp) : Option Cached :=
  ((lastAccepted? name n record).filter (term.lasts · now)).map (·.response)

end

def Term.verdict (term : Term) (now : Timestamp) (found : Option Cached) : Call → Returned
  | .get _ => .got (.ok found)
  | .set _ response => .set <|
      match term.refuses? now response, found with
      | some failure, _ => .error failure
      | none, some existing => .ok (.alreadyExists existing)
      | none, none => .ok .written

section

variable {now : Timestamp} {found : Option Cached} {key : CompositeKey} {response existing : Cached}

theorem Term.verdict_eq_alreadyExists_iff (accepts : term.refuses? now response = none) :
    term.verdict now found (.set key response) = .set (.ok (.alreadyExists existing)) ↔
      found = some existing := by
  cases found <;> simp [verdict, accepts]

theorem Term.verdict_eq_written_iff (accepts : term.refuses? now response = none) :
    term.verdict now found (.set key response) = .set (.ok .written) ↔ found = none := by
  cases found <;> simp [verdict, accepts]

theorem Term.verdict_of_refuses {failure : Failure} (refuses : term.refuses? now response = some failure) :
    term.verdict now found (.set key response) = .set (.error failure) := by
  simp [verdict, refuses]

-- Where a response is accepted or found, the answer tells what was found.
theorem Term.verdict_eq_iff {term' : Term} {found' : Option Cached} {c : Call}
    (accepts : ∀ key response, c = .set key response →
      term.refuses? now response = none ∧ term'.refuses? now response = none) :
    term.verdict now found c = term'.verdict now found' c ↔ found = found' := by
  cases c with
  | get key => simp [verdict]
  | set key response =>
    obtain ⟨accepted, acceptedToo⟩ := accepts key response rfl
    cases found <;> cases found' <;> simp [verdict, accepted, acceptedToo]

theorem Term.verdict_succeeds (accepts : ∀ now response, term.refuses? now response = none) (c : Call)
    (failure : Failure) : term.verdict now found c ≠ .got (.error failure) ∧
      term.verdict now found c ≠ .set (.error failure) := by
  cases c with
  | get key => simp [verdict]
  | set key response => cases found <;> simp [verdict, accepts]

end

def ruling (name : CompositeKey → ν) (term : Term) : Rule Call Returned :=
  fun past now c => term.verdict now (standing name (name c.key) term past now) c

section

variable {record : Record Call Returned} {e : Answered Call Returned} {now : Timestamp}
  {key : CompositeKey} {response : Cached}

theorem standing_eq_some_iff : standing name n term record now = some response ↔
    ∃ a, lastAccepted? name n record = some a ∧ term.lasts a now = true ∧ a.response = response := by
  simp [standing, Option.filter_eq_some_iff, and_assoc]

theorem standing_cons_of_none (unaccepted : acceptedBy name n e = none) :
    standing name n term (e :: record) now = standing name n term record now := by
  simp [standing, lastAccepted?, unaccepted]

theorem standing_cons_of_some {a : Acceptance} (accepted : acceptedBy name n e = some a) :
    standing name n term (e :: record) now =
      if term.lasts a now then some a.response else none := by
  simp only [standing, lastAccepted?, List.findSome?_cons, accepted, Option.filter_some]
  split <;> rfl

theorem mem_of_lastAccepted? {a : Acceptance} (last : lastAccepted? name n record = some a) :
    ∃ e ∈ record, ∃ key, e.call = .set key a.response ∧ e.time = a.time := by
  obtain ⟨e, present, accepted⟩ := List.exists_of_findSome?_eq_some last
  unfold acceptedBy at accepted
  split at accepted
  · rename_i key response call _
    split at accepted
    · cases accepted
      exact ⟨e, present, key, call, rfl⟩
    · cases accepted
  · cases accepted

theorem standing_eq_iff {term' : Term} (within : ∀ a, lastAccepted? name n record = some a →
      term'.lasts a now = true → term.lasts a now = true) :
    standing name n term record now = standing name n term' record now ↔
      ∀ a, lastAccepted? name n record = some a → term.lasts a now = true →
        term'.lasts a now = true := by
  unfold standing
  cases last : lastAccepted? name n record with
  | none => simp
  | some a =>
    have shorter := within a last
    simp only [Option.filter_some, Option.some.injEq, forall_eq']
    cases long : term.lasts a now <;> cases short : term'.lasts a now <;> simp_all

theorem lastAccepted?_name (apart : ∀ e ∈ record, name e.call.key = name key → e.call.key = key) :
    lastAccepted? name (name key) record = lastAccepted? id key record := by
  induction record with
  | nil => rfl
  | cons e past ih =>
    have head : acceptedBy name (name key) e = acceptedBy id key e := by
      have named : name e.call.key = name key ↔ e.call.key = key :=
        ⟨apart e List.mem_cons_self, congrArg name⟩
      unfold acceptedBy
      split
      · rename_i other response call _
        rw [call, Call.key] at named
        simp only [named, id_eq]
      · rfl
    simp only [lastAccepted?, List.findSome?_cons, head] at ih ⊢
    rw [ih fun x before => apart x (List.mem_cons_of_mem _ before)]

theorem acceptedBy_written : acceptedBy name n ⟨now, .set key response, .set (.ok .written)⟩ =
    if name key = n then some ⟨now, response⟩ else none := rfl

end

structure View (S : Responder Call Returned) (name : CompositeKey → ν) (term : Term)
    (fits : Call → Prop) where
  Sound : S.State → Prop
  look : S.State → Timestamp → ν → Option Cached
  start : Sound S.start ∧ ∀ now n, look S.start now n = none
  change : ∀ {now s s'}, Sound s → S.shows now → S.changes now s s' →
    Sound s' ∧ ∀ later n, now ≤ later → look s' later n = look s later n
  get : ∀ {now s key}, Sound s → S.shows now → fits (.get key) →
    S.serve now (.get key) s = (.got (.ok (look s now (name key))), s)
  refused : ∀ {now s key response failure}, Sound s → S.shows now → fits (.set key response) →
    term.refuses? now response = some failure →
    S.serve now (.set key response) s = (.set (.error failure), s)
  occupied : ∀ {now s key response existing}, Sound s → S.shows now → fits (.set key response) →
    term.refuses? now response = none → look s now (name key) = some existing →
    ∃ s', S.serve now (.set key response) s = (.set (.ok (.alreadyExists existing)), s') ∧ Sound s' ∧
      ∀ later n, now ≤ later → look s' later n = look s later n
  free : ∀ {now s key response}, Sound s → S.shows now → fits (.set key response) →
    term.refuses? now response = none → look s now (name key) = none →
    ∃ s', S.serve now (.set key response) s = (.set (.ok .written), s') ∧ Sound s' ∧
      ∀ later n, now ≤ later → look s' later n =
        if name key = n then (if term.lasts ⟨now, response⟩ later then some response else none)
        else look s later n

namespace View

variable {S : Responder Call Returned} {fits : Call → Prop} (v : View S name term fits)
  {now : Timestamp} {record : Record Call Returned} {s : S.State}

def Shows (now : Timestamp) (record : Record Call Returned) (s : S.State) : Prop :=
  v.Sound s ∧ ∀ later n, now ≤ later → v.look s later n = standing name n term record later

variable {v}

theorem Shows.unaccepted {s' : S.State} {e : Answered Call Returned} (shows : v.Shows now record s)
    (nothing : ∀ n, acceptedBy name n e = none) (sound : v.Sound s')
    (alike : ∀ later n, now ≤ later → v.look s' later n = v.look s later n) :
    v.Shows now (e :: record) s' := by
  refine ⟨sound, fun later n order => ?_⟩
  rw [alike later n order, shows.2 later n order, standing_cons_of_none (nothing n)]

theorem Shows.accepted {s' : S.State} {key : CompositeKey} {response : Cached}
    (shows : v.Shows now record s) (sound : v.Sound s')
    (put : ∀ later n, now ≤ later → v.look s' later n =
      if name key = n then (if term.lasts ⟨now, response⟩ later then some response else none)
      else v.look s later n) :
    v.Shows now (⟨now, .set key response, .set (.ok .written)⟩ :: record) s' := by
  refine ⟨sound, fun later n order => ?_⟩
  rw [put later n order]
  by_cases named : name key = n
  · rw [if_pos named, standing_cons_of_some (by rw [acceptedBy_written, if_pos named])]
  · rw [if_neg named, standing_cons_of_none (by rw [acceptedBy_written, if_neg named]),
      shows.2 later n order]

variable (v)

theorem keeps : S.Keeps (ruling name term) (fun _ _ => fits) v.Shows where
  start _ := ⟨v.start.1, fun later n _ => v.start.2 later n⟩
  pass order _ shows := ⟨shows.1, fun later n after => shows.2 later n (le_trans order after)⟩
  change shown changes shows := by
    obtain ⟨sound, alike⟩ := v.change shows.1 shown changes
    refine ⟨sound, fun later n order => ?_⟩
    rw [alike later n order, shows.2 later n order]
  call := by
    intro now record s c shown fitting shows
    rw [ruling, ← shows.2 now (name c.key) (le_refl now)]
    cases c with
    | get key =>
      rw [v.get shows.1 shown fitting]
      exact ⟨rfl, shows.unaccepted (fun n => rfl) shows.1 fun _ _ _ => rfl⟩
    | set key response =>
      simp only [Term.verdict]
      cases refuses : term.refuses? now response with
      | some failure =>
        rw [v.refused shows.1 shown fitting refuses]
        exact ⟨rfl, shows.unaccepted (fun n => rfl) shows.1 fun _ _ _ => rfl⟩
      | none =>
        cases found : v.look s now (name (Call.set key response).key) with
        | some existing =>
          obtain ⟨s', served, sound, alike⟩ := v.occupied shows.1 shown fitting refuses found
          rw [served]
          exact ⟨rfl, shows.unaccepted (fun n => rfl) sound alike⟩
        | none =>
          obtain ⟨s', served, sound, put⟩ := v.free shows.1 shown fitting refuses found
          rw [served]
          exact ⟨rfl, shows.accepted sound put⟩

include v in
theorem abides (run : S.Follows now record s) (fitting : ∀ e ∈ record, fits e.call) :
    record.Abides (ruling name term) :=
  (v.keeps.abides run fun e _ part => fitting e (part.subset List.mem_cons_self)).1

end View

end OncePerKey.Store
