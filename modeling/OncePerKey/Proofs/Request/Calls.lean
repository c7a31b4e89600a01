import OncePerKey.Proofs.Request.Course
import OncePerKey.Proofs.Text.Utf8

set_option autoImplicit false

namespace OncePerKey.Request

inductive Call where
  | lookup (r : Except Failure (Option Cached))
  | acquire (r : Except Failure (Option LockToken))
  | operate (r : Except Failure Captured)
  | write (response : Cached) (r : Except Failure WriteOutcome)
  | release (token : LockToken) (r : Except Failure Bool)

inductive Call.Kind where
  | lookup
  | acquire
  | operate
  | write
  | release
  deriving DecidableEq

def Call.kind : Call → Call.Kind
  | .lookup _ => .lookup
  | .acquire _ => .acquire
  | .operate _ => .operate
  | .write _ _ => .write
  | .release _ _ => .release

abbrev Call.missed : Call := .lookup (.ok none)

abbrev Call.contended : Call := .acquire (.ok none)

def Call.times (kind : Call.Kind) (calls : List Call) : Nat :=
  calls.countP (·.kind = kind)

open Call (times)

section

variable {kind : Call.Kind} {call : Call} {calls earlier : List Call}

@[simp] theorem times_nil : times kind [] = 0 := rfl

@[simp] theorem times_cons :
    times kind (call :: calls) = times kind calls + if call.kind = kind then 1 else 0 := by
  simp [times, List.countP_cons]

theorem times_lookups (looks : List (Except Failure (Option Cached))) :
    times kind (looks.map .lookup ++ calls) =
      times kind calls + if kind = .lookup then looks.length else 0 := by
  induction looks with
  | nil => simp
  | cons r looks ih =>
    simp only [List.map_cons, List.cons_append, times_cons, ih, Call.kind, List.length_cons]
    by_cases look : kind = .lookup
    · simp only [look, if_true]
      omega
    · simp [look, Ne.symm look]

theorem times_pos_of_mem (present : call ∈ calls) : 0 < times call.kind calls :=
  List.countP_pos_iff.2 ⟨call, present, by simp⟩

theorem notMem_of_times_eq_zero (none : times call.kind calls = 0) : call ∉ calls := by
  intro present
  have absent := List.countP_eq_zero.1 none call present
  simp at absent

theorem eq_of_times_le_one {other : Call} (once : times kind calls ≤ 1) (present : call ∈ calls)
    (isKind : call.kind = kind) (there : other ∈ calls) (alike : other.kind = kind) : other = call := by
  induction calls with
  | nil => exact nomatch present
  | cons head rest ih =>
    rw [times_cons] at once
    rcases List.mem_cons.1 present with rfl | inside <;> rcases List.mem_cons.1 there with rfl | within
    · rfl
    · rw [if_pos isKind] at once
      exact absurd within (notMem_of_times_eq_zero (by rw [alike]; omega))
    · rw [if_pos alike] at once
      exact absurd inside (notMem_of_times_eq_zero (by rw [isKind]; omega))
    · exact ih (by omega) inside within

theorem not_suffix_of_times_eq_zero (none : times call.kind calls = 0) :
    ¬ call :: earlier <:+ calls := by
  intro inside
  exact notMem_of_times_eq_zero none (inside.subset List.mem_cons_self)

theorem suffix_cons_of_kind_ne {other : Call} (differ : call.kind ≠ other.kind)
    (inside : call :: earlier <:+ other :: calls) : call :: earlier <:+ calls := by
  rcases List.suffix_cons_iff.1 inside with same | inside
  · exact absurd (congrArg Call.kind (List.cons.inj same).1) differ
  · exact inside

theorem eq_of_suffix_cons (none : times call.kind calls = 0) {other : Call}
    (inside : call :: earlier <:+ other :: calls) : call = other ∧ earlier = calls := by
  rcases List.suffix_cons_iff.1 inside with same | inside
  · exact List.cons.inj same
  · exact absurd inside (not_suffix_of_times_eq_zero none)

end

inductive Opening (c : Context) : Option LockToken → (reachable : Bool) → List Call → Prop where
  | locked (token : LockToken) :
      Opening c (some token) true [.missed, .acquire (.ok (some token)), .missed]
  | lockedUnread (token : LockToken) (failure : Failure) (opens : c.policy.failOpen = true) :
      Opening c (some token) false
        [.lookup (.error failure), .acquire (.ok (some token)), .missed]
  | withoutLocks (locking : c.usesLock = false) : Opening c none true [.missed]
  | lockFailed (failure : Failure) : Opening c none true [.acquire (.error failure), .missed]
  | unread (failure : Failure) (opens : c.policy.failOpen = true) :
      Opening c none false [.lookup (.error failure)]

def Context.Stores (c : Context) (captured : Captured) : Prop :=
  c.policy.isCacheable captured.status = true ∧ ∃ text, Utf8.decode captured.body = .ok text

inductive Part (c : Context) : Option LockToken → List Call → Prop where
  | nothing : Part c none []
  | looked (r : Except Failure (Option Cached)) : Part c none [.lookup r]
  | granted (token : LockToken) : Part c (some token) [.acquire (.ok (some token)), .missed]
  | lockFailed (failure : Failure) : Part c none [.acquire (.error failure), .missed]
  | lookedAgain (token : LockToken) (r : Except Failure (Option Cached)) :
      Part c (some token) [.lookup r, .acquire (.ok (some token)), .missed]
  | polled (looks : List (Except Failure (Option Cached))) (bound : looks.length ≤ c.polls) :
      Part c none (looks.map .lookup ++ [.contended, .missed])
  | operated {guard : Option LockToken} {reachable : Bool} {calls : List Call}
      (opening : Opening c guard reachable calls) (r : Except Failure Captured) :
      Part c guard (.operate r :: calls)
  | wrote {guard : Option LockToken} {calls : List Call} (opening : Opening c guard true calls)
      {captured : Captured} (stores : c.Stores captured) (response : Cached)
      (r : Except Failure WriteOutcome) :
      Part c guard (.write response r :: .operate (.ok captured) :: calls)

inductive Made (c : Context) : Stage → List Call → Prop where
  | looking : Made c .looking []
  | missed : Made c .missed [.missed]
  | holding (token : LockToken) :
      Made c (.holding token) [.acquire (.ok (some token)), .missed]
  | waiting (left : Nat) (looks : List (Except Failure (Option Cached)))
      (bound : looks.length + left < c.polls) :
      Made c (.waiting left) (looks.map .lookup ++ [.contended, .missed])
  | polling (left : Nat) (looks : List (Except Failure (Option Cached)))
      (bound : looks.length + left < c.polls) :
      Made c (.polling left) (looks.map .lookup ++ [.contended, .missed])
  | ready {guard : Option LockToken} {reachable : Bool} {calls : List Call}
      (opening : Opening c guard reachable calls) : Made c (.ready guard reachable) calls
  | ran {guard : Option LockToken} {calls : List Call} (opening : Opening c guard true calls)
      (captured : Captured) (lifetime : Int)
      (eligible : c.policy.isCacheable captured.status = true)
      (lives : c.policy.lifetime? = some lifetime) :
      Made c (.ran guard captured lifetime) (.operate (.ok captured) :: calls)
  | writing {guard : Option LockToken} {calls : List Call} (opening : Opening c guard true calls)
      {captured : Captured} (stores : c.Stores captured) (cached : Cached) :
      Made c (.writing guard captured cached) (.operate (.ok captured) :: calls)
  | stuck {guard : Option LockToken} {calls : List Call} (part : Part c guard calls) :
      Made c (.stuck guard) calls
  | leaving {token : LockToken} {calls : List Call} (part : Part c (some token) calls)
      (result : Except Failure Outcome) : Made c (.leaving token result) calls
  | finished {calls : List Call} (part : Part c none calls) (result : Except Failure Outcome) :
      Made c (.finished result) calls
  | released {token : LockToken} {calls : List Call} (part : Part c (some token) calls)
      (r : Except Failure Bool) (result : Except Failure Outcome) :
      Made c (.finished result) (.release token r :: calls)

section

variable {c : Context} {fingerprint : Option String} {key : CompositeKey} {s s' : Stage}
  {guard : Option LockToken} {reachable : Bool} {calls : List Call}

theorem Made.lifetime?_eq {captured : Captured} {lifetime : Int}
    (made : Made c (.ran guard captured lifetime) calls) : c.policy.lifetime? = some lifetime := by
  cases made
  assumption

theorem Made.leave (part : Part c guard calls) (result : Except Failure Outcome) :
    Made c (.leave guard result) calls := by
  cases guard with
  | none => exact .finished part result
  | some token => exact .leaving part result

theorem Made.await {left : Nat} (looks : List (Except Failure (Option Cached)))
    (bound : looks.length + left ≤ c.polls) :
    Made c (.await c left) (looks.map .lookup ++ [.contended, .missed]) := by
  cases left with
  | zero => exact .finished (.polled looks bound) _
  | succ left => exact .waiting left looks bound

theorem Made.polled {left : Nat} (made : Made c (.polling left) calls)
    (r : Except Failure (Option Cached)) :
    ∃ looks : List (Except Failure (Option Cached)),
      .lookup r :: calls = looks.map .lookup ++ [.contended, .missed] ∧
      looks.length + left ≤ c.polls := by
  cases made with
  | polling _ looks bound =>
    refine ⟨r :: looks, rfl, ?_⟩
    simp only [List.length_cons]
    omega

theorem Made.awaits {left fewer : Nat} (made : Made c (.polling left) calls)
    (r : Except Failure (Option Cached)) (within : fewer ≤ left) :
    Made c (.await c fewer) (.lookup r :: calls) := by
  obtain ⟨looks, all, bound⟩ := made.polled r
  rw [all]
  exact .await looks (by omega)

theorem Made.answered (made : Made c s calls) (asked : s.question c key = some (.lookup key))
    (r : Except Failure (Option Cached)) (result : Except Failure Outcome) :
    Made c (.leave s.guard result) (.lookup r :: calls) := by
  cases s with
  | looking =>
    cases made
    exact .finished (.looked r) result
  | holding token =>
    cases made
    exact .leaving (.lookedAgain token r) result
  | polling left =>
    obtain ⟨looks, all, bound⟩ := made.polled r
    rw [all]
    exact .finished (.polled looks (by omega)) result
  | _ => exact nomatch asked

theorem Context.stores_of_snapshot {captured : Captured} {now : Timestamp} {lifetime : Int}
    {cached : Cached} (eligible : c.policy.isCacheable captured.status = true)
    (snapshot : Cached.ofCaptured now captured lifetime fingerprint = .ok cached) :
    c.Stores captured := by
  refine ⟨eligible, ?_⟩
  unfold Cached.ofCaptured at snapshot
  split at snapshot
  · exact nomatch snapshot
  · cases decoded : Utf8.decode captured.body with
    | ok text => exact ⟨text, rfl⟩
    | error fault => simp [decoded] at snapshot

def callOf {ι : Type} : Exchange ι Ask Ask.Answer → Option Call
  | ⟨_, _, .lookup _, r⟩ => some (.lookup r)
  | ⟨_, _, .acquire _ _, r⟩ => some (.acquire r)
  | ⟨_, _, .operate, r⟩ => some (.operate r)
  | ⟨_, _, .write _ response, r⟩ => some (.write response r)
  | ⟨_, _, .release token, r⟩ => some (.release token r)
  | _ => none

theorem Made.move {ι : Type} {q : Ask} {r : q.Answer} (i : ι) (time : Timestamp)
    (made : Made c s calls) (move : Move c fingerprint key s q r s') :
    Made c s' ((callOf ⟨i, time, q, r⟩).toList ++ calls) := by
  cases move with
  | noted => exact made
  | slept =>
    cases made with
    | waiting _ looks bound => exact .polling _ looks bound
  | found s cached looks => exact made.answered looks _ _
  | refused s failure looks => exact made.answered looks _ _
  | missed =>
    cases made
    exact .missed
  | missedWithoutLocks locking =>
    cases made
    exact .ready (.withoutLocks locking)
  | missedAgain token =>
    cases made
    exact .ready (.locked token)
  | polled => exact made.awaits _ le_rfl
  | passedOver failure opens =>
    cases made
    exact .ready (.unread failure opens)
  | passedOverAgain token failure opens =>
    cases made
    exact .ready (.lockedUnread token failure opens)
  | gaveUp => exact made.awaits _ (Nat.zero_le _)
  | granted token =>
    cases made
    exact .holding token
  | contended left lifetime allowed =>
    cases made
    exact .await [] (by simp [allowed])
  | lockFailed failure =>
    cases made
    exact .ready (.lockFailed failure)
  | failed | unreachable | notEligible =>
    cases made with
    | ready opening => exact .leave (.operated opening _) _
  | tooLong =>
    cases made with
    | ready opening => exact .stuck (.operated opening _)
  | ran guard captured lifetime eligible lives =>
    cases made with
    | ready opening => exact .ran opening captured lifetime eligible lives
  | stored guard captured lifetime now cached snapshot =>
    cases made with
    | ran opening _ _ eligible =>
      exact .writing opening (Context.stores_of_snapshot eligible snapshot) cached
  | unstorable =>
    cases made with
    | ran opening => exact .leave (.operated opening _) _
  | beyondCalendar =>
    cases made with
    | ran opening => exact .stuck (.operated opening _)
  | written | lost | writeFailed =>
    cases made with
    | writing opening stores => exact .leave (.wrote opening stores _ _) _
  | released token result r =>
    cases made with
    | leaving part => exact .released part r result

end

section

variable {S : Surroundings Ask Ask.Answer} {ι : Type} [DecidableEq ι]
  {programs : ι → Handling (Except Failure Outcome)} {w₀ w : World S ι (Except Failure Outcome)}

abbrev calls (i : ι) (history : List (Exchange ι Ask Ask.Answer)) : List Call :=
  shownBy callOf i history

section

variable {i : ι} {history : List (Exchange ι Ask Ask.Answer)} {call : Call}

theorem mem_calls {time : Timestamp} {q : Ask} {r : q.Answer} (present : ⟨i, time, q, r⟩ ∈ history)
    (shown : callOf (⟨i, time, q, r⟩ : Exchange ι Ask Ask.Answer) = some call) :
    call ∈ calls i history :=
  mem_shownBy.2 ⟨_, present, rfl, shown⟩

theorem exists_of_mem_calls (present : call ∈ calls i history) :
    ∃ time q r, ⟨i, time, q, r⟩ ∈ history ∧ callOf (ι := ι) ⟨i, time, q, r⟩ = some call := by
  obtain ⟨⟨_, time, q, r⟩, inside, rfl, shown⟩ := mem_shownBy.1 present
  exact ⟨time, q, r, inside, shown⟩

end

theorem made_of_start (c : Context) (r : Request) : Made c (.start c r) [] := by
  unfold Stage.start
  split
  · exact .looking
  · exact .finished .nothing _

theorem made_of_reaches (starts : w₀.Starts programs) {i : ι} {c : Context} {r : Request}
    (own : programs i = execute c r) (run : World.Reaches w₀ w) :
    Made c (stageOf c r i w.history) (calls i w.history) := by
  refine stageOf_induction (P := fun w s => Made c s (calls i w.history)) starts own ?_ ?_ ?_ run
  · rw [starts.2]
    exact made_of_start _ _
  · intro u v s _ same made
    rwa [calls, shownBy_congr same]
  · intro v q next r s s' _ _ _ move made
    rw [World.answered_history, calls, shownBy_cons_self]
    exact made.move i v.now move

end

end OncePerKey.Request
