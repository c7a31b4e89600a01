import OncePerKey.Proofs.Key.Mask
import OncePerKey.Proofs.Request.Shared
import OncePerKey.Proofs.Told

set_option autoImplicit false

namespace OncePerKey

def Note.keys : Note → List FieldValue
  | .event e => (e.fields.filter (·.1 = "key")).map (·.2)
  | .enter span => [.shown span.key]
  | .leave | .tick _ | .measure _ => []

namespace Request

abbrev Tale := List ((q : Ask) × q.Answer)

def keysOf : Ask → List FieldValue
  | .report note => note.keys
  | _ => []

def keysReported (tale : Tale) : List FieldValue :=
  tale.flatMap fun e => keysOf e.1

def GivesBack (tale : Tale) : Prop :=
  ∃ token r, ⟨.release token, r⟩ ∈ tale

inductive Sign where
  | shown (value : FieldValue)
  | granted (key : CompositeKey) (token : LockToken)
  | givenBack (token : LockToken)

def signsOf : (q : Ask) → q.Answer → List Sign
  | .report note, _ => note.keys.map .shown
  | .acquire key _, .ok (some token) => [.granted key token]
  | .release token, _ => [.givenBack token]
  | _, _ => []

def signs (tale : Tale) : List Sign :=
  tale.flatMap fun e => signsOf e.1 e.2

-- The stage of a request is all of its signs, the first one first.
def disclosure : Discipline Ask Ask.Answer (List Sign) where
  may _ _ := True
  after s q r := s ++ signsOf q r

theorem foldl_disclosure (tale : Tale) (s : List Sign) :
    tale.foldl (fun s e => disclosure.after s e.1 e.2) s = s ++ signs tale := by
  induction tale generalizing s with
  | nil => simp [signs]
  | cons e rest ih =>
    rw [List.foldl_cons, ih, signs, signs, List.flatMap_cons, ← List.append_assoc]
    rfl

def Quiet {α : Type} (p : Handling α) : Prop :=
  ∀ s, p.Obeys disclosure (fun s' _ => s' = s) s

namespace Quiet

variable {α β : Type} {p : Handling α} {f : α → Handling β} {s : List Sign}

theorem obeys_bind (quiet : Quiet p) {ends : List Sign → β → Prop}
    (rest : ∀ a, (f a).Obeys disclosure ends s) : (p.bind f).Obeys disclosure ends s := by
  rw [Program.obeys_bind]
  refine (quiet s).mono fun s' a same => ?_
  rw [same]
  exact rest a

theorem bind (quiet : Quiet p) (rest : ∀ a, Quiet (f a)) : Quiet (p.bind f) :=
  fun s => quiet.obeys_bind fun a => rest a s

theorem done (a : α) : Quiet (.done a) := fun _ => rfl

theorem ask {q : Ask} (unsigned : ∀ r, signsOf q r = []) : Quiet (Handling.ask q) := by
  intro s
  refine ⟨trivial, fun r => ?_⟩
  change s ++ signsOf q r = s
  rw [unsigned, List.append_nil]

theorem report {note : Note} (keyless : note.keys = []) : Quiet (report note) :=
  ask fun _ => by rw [signsOf, keyless, List.map_nil]

theorem tick (t : Tick) : Quiet (tick t) := report rfl

theorem log {level : Level} {message : String} {fields : List (String × FieldValue)}
    (keyless : ∀ f ∈ fields, f.1 ≠ "key") : Quiet (log level message fields) := by
  refine report ?_
  have none : fields.filter (·.1 = "key") = [] := by simpa using keyless
  simp only [Note.log, Note.keys, none, List.map_nil]

end Quiet

theorem report_bind_signs {β : Type} {note : Note} {next : Unit → Handling β} {ends : List Sign → β → Prop}
    {s : List Sign} (rest : (next ()).Obeys disclosure ends (s ++ note.keys.map .shown)) :
    ((report note).bind next).Obeys disclosure ends s :=
  ⟨trivial, fun _ => rest⟩

section

variable {c : Context} {fingerprint : Option String} {key : CompositeKey}

theorem replay_quiet (cached : Cached) : Quiet (replay c fingerprint cached) := by
  rcases replay_eq c fingerprint cached with same | same <;> rw [same]
  · exact .done _
  · exact (Quiet.log (by simp)).bind fun _ => .done _

theorem lookupFailed_quiet (failure : Failure) : Quiet (lookupFailed c failure) := by
  unfold lookupFailed
  refine (Quiet.tick _).bind fun _ => ?_
  split
  · exact (Quiet.log (by simp [Context.backendField])).bind fun _ => .done _
  · exact (Quiet.log (by simp [Context.backendField])).bind fun _ => .done _

theorem conflict_quiet : Quiet (conflict c) :=
  (Quiet.tick _).bind fun _ => .done _

theorem poll_quiet (left attempt : Nat) : Quiet (poll c key fingerprint left attempt) := by
  induction left generalizing attempt with
  | zero => exact conflict_quiet
  | succ left ih =>
    unfold poll
    refine (Quiet.ask fun _ => rfl).bind fun _ => (Quiet.ask fun _ => rfl).bind fun r => ?_
    cases r with
    | error failure =>
      refine (lookupFailed_quiet failure).bind fun passed => ?_
      cases passed with
      | some failure => exact .done _
      | none => exact conflict_quiet
    | ok found =>
      cases found with
      | none => exact ih (attempt + 1)
      | some cached =>
        exact (Quiet.log (by simp)).bind fun _ => (replay_quiet cached).bind fun _ => .done _

theorem resolveContention_quiet : Quiet (resolveContention c key fingerprint) := by
  unfold resolveContention
  cases c.policy.conflictPolicy with
  | waitAndPoll => exact poll_quiet _ _
  | returnConflict => exact conflict_quiet

theorem store_quiet (captured : Captured) : Quiet (store c key captured fingerprint) := by
  unfold store
  split
  · exact .done _
  split
  · exact (Quiet.ask fun _ => rfl).bind nofun
  refine (Quiet.ask fun _ => rfl).bind fun now => ?_
  split
  · exact (Quiet.ask fun _ => rfl).bind nofun
  · exact (Quiet.log (by simp)).bind fun _ => .done _
  · refine (Quiet.ask fun _ => rfl).bind fun r => ?_
    match r with
    | .ok .written => exact (Quiet.tick _).bind fun _ => .done _
    | .ok (.alreadyExists existing) =>
      exact (Quiet.tick _).bind fun _ => (Quiet.log (by simp)).bind fun _ => replay_quiet existing
    | .error failure =>
      exact (Quiet.tick _).bind fun _ =>
        (Quiet.log (by simp [Context.backendField])).bind fun _ => .done _

theorem finish_quiet (outcome : Outcome) : Quiet (finish outcome) := by
  have ended : Quiet ((report (.measure (.outcome outcome.label))).bind fun _ => .done outcome) :=
    (Quiet.report rfl).bind fun _ => .done _
  unfold finish
  split
  · exact (Quiet.tick _).bind fun _ => ended
  · exact ended

def guardSigns (guard : Option LockToken) : List Sign :=
  match guard with
  | some token => [.givenBack token, .shown (.shown token.key.shown)]
  | none => []

theorem release_signs (guard : Option LockToken) (s : List Sign) :
    (release guard).Obeys disclosure (fun s' _ => s' = s ++ guardSigns guard) s := by
  cases guard with
  | none => exact (List.append_nil s).symm
  | some token =>
    refine ⟨trivial, fun r => ?_⟩
    -- However the release went, the event that tells of it has the key of the token.
    match r with
    | .ok true | .ok false | .error failure => exact ⟨trivial, fun _ => List.append_assoc _ _ _⟩

theorem release_bind_signs (guard : Option LockToken) (s : List Sign) (result : Except Failure Outcome) :
    ((release guard).bind fun _ => .done result).Obeys disclosure
      (fun s' _ => s' = s ++ guardSigns guard) s := by
  rw [Program.obeys_bind]
  exact release_signs guard s

theorem operate_signs (guard : Option LockToken) (reachable : Bool) (s : List Sign) :
    (operate c key fingerprint guard reachable).Obeys disclosure
      (fun s' _ => s' = s ++ guardSigns guard) s := by
  refine (Quiet.tick _).obeys_bind fun _ => (Quiet.ask fun _ => rfl).obeys_bind fun r => ?_
  match r with
  | .error failure => exact release_bind_signs guard s _
  | .ok captured =>
    cases reachable with
    | true => exact (store_quiet captured).obeys_bind fun _ => release_bind_signs guard s _
    | false => exact release_bind_signs guard s _

theorem underLock_signs (token : LockToken) (s : List Sign) :
    (underLock c key fingerprint token).Obeys disclosure
      (fun s' _ => s' = s ++ guardSigns (some token)) s := by
  refine (Quiet.ask fun _ => rfl).obeys_bind fun r => ?_
  match r with
  | .ok (some cached) =>
    refine (Program.obeys_bind _ _ _).2 ((release_signs (some token) s).mono fun s' _ same => ?_)
    rw [same]
    exact (replay_quiet cached).obeys_bind fun _ => rfl
  | .ok none => exact operate_signs (some token) true s
  | .error failure =>
    refine (lookupFailed_quiet failure).obeys_bind fun passed => ?_
    cases passed with
    | some failure => exact release_bind_signs (some token) s _
    | none => exact operate_signs (some token) false s

def LockAttempt.signs (key : CompositeKey) : LockAttempt → List Sign
  | .acquired token => [.granted key token]
  | .contended | .skipped => []

theorem acquire_signs (s : List Sign) :
    (acquire c key).Obeys disclosure (fun s' attempt => s' = s ++ attempt.signs key) s := by
  unfold acquire
  by_cases locking : c.usesLock
  · rw [if_pos locking]
    refine ⟨trivial, fun r => ?_⟩
    match r with
    | .ok (some token) => exact (Quiet.report rfl).obeys_bind fun _ => rfl
    | .ok none => exact (Quiet.report rfl).obeys_bind fun _ => rfl
    | .error failure => exact (Quiet.log (by simp)).obeys_bind fun _ => rfl
  · rw [if_neg locking]
    exact (List.append_nil s).symm

-- What a request leaves that was granted a lock, or none.
def lockSigns (key : CompositeKey) (guard : Option LockToken) : List Sign :=
  (guard.map (Sign.granted key)).toList ++ guardSigns guard

theorem course_signs (s : List Sign) :
    (course c key fingerprint).Obeys disclosure
      (fun s' _ => ∃ guard, s' = s ++ lockSigns key guard) s := by
  have unlocked : ∃ guard, s = s ++ lockSigns key guard := ⟨none, (List.append_nil s).symm⟩
  have bare (s' : List Sign) (same : s' = s ++ guardSigns none) : ∃ guard, s' = s ++ lockSigns key guard :=
    ⟨none, same⟩
  refine (Quiet.ask fun _ => rfl).obeys_bind fun r => ?_
  match r with
  | .ok (some cached) => exact (replay_quiet cached).obeys_bind fun _ => unlocked
  | .ok none =>
    refine (Program.obeys_bind _ _ _).2 ((acquire_signs s).mono fun s' attempt same => ?_)
    rw [same]
    cases attempt with
    | acquired token =>
      refine (underLock_signs token _).mono fun s' _ same => ⟨some token, ?_⟩
      rw [same, List.append_assoc]
      rfl
    | contended =>
      refine (resolveContention_quiet _).mono fun s' _ same => ?_
      rw [same, LockAttempt.signs, List.append_nil]
      exact unlocked
    | skipped =>
      rw [LockAttempt.signs, List.append_nil]
      exact (operate_signs none true s).mono fun s' _ => bare s'
  | .error failure =>
    refine (lookupFailed_quiet failure).obeys_bind fun passed => ?_
    cases passed with
    | some failure => exact unlocked
    | none => exact (operate_signs none false s).mono fun s' _ => bare s'

theorem execute_signs {c : Context} {r : Request} {key : Key} (accepted : parseKey c r = .ok key) :
    (execute c r).Obeys disclosure
      (fun s _ => ∃ guard, s = .shown (.shown (maskKey key.text)) ::
        lockSigns (CompositeKey.build r.method r.route key) guard) [] := by
  unfold execute
  simp only [accepted]
  refine (Quiet.tick _).obeys_bind fun _ => report_bind_signs ?_
  refine (Program.obeys_bind _ _ _).2 ((course_signs _).mono fun s result signed => ?_)
  refine (Quiet.report rfl).obeys_bind fun _ => ?_
  cases result with
  | ok outcome => exact (finish_quiet outcome).obeys_bind fun _ => signed
  | error failure => exact signed

end

def Sign.value? : Sign → Option FieldValue
  | .shown value => some value
  | .granted _ _ | .givenBack _ => none

section

variable {tale : Tale} {key : CompositeKey} {token : LockToken}

theorem keysReported_eq (tale : Tale) : keysReported tale = (signs tale).filterMap Sign.value? := by
  have one (q : Ask) (r : q.Answer) : (signsOf q r).filterMap Sign.value? = keysOf q := by
    match q, r with
    | .report note, _ =>
      rw [signsOf, List.filterMap_map]
      exact List.filterMap_some
    | .acquire _ _, .ok (some _) | .acquire _ _, .ok none | .acquire _ _, .error _ | .release _, _
    | .now, _ | .sleep _, _ | .lookup _, _ | .write _ _, _ | .operate, _ => rfl
  rw [keysReported, signs, List.filterMap_flatMap]
  exact congrArg (tale.flatMap ·) (funext fun e => (one e.1 e.2).symm)

theorem givenBack_mem_signsOf {q : Ask} {r : q.Answer} :
    .givenBack token ∈ signsOf q r ↔ q = .release token := by
  cases q with
  | release other => simp [signsOf, eq_comm]
  | acquire key lifetime => rcases r with failure | (_ | other) <;> simp [signsOf]
  | _ => simp [signsOf]

theorem givesBack_iff : GivesBack tale ↔ ∃ token, .givenBack token ∈ signs tale := by
  constructor
  · rintro ⟨token, r, present⟩
    exact ⟨token, List.mem_flatMap.2 ⟨_, present, givenBack_mem_signsOf.2 rfl⟩⟩
  · rintro ⟨token, present⟩
    obtain ⟨⟨q, r⟩, asked, signed⟩ := List.mem_flatMap.1 present
    obtain rfl := givenBack_mem_signsOf.1 signed
    exact ⟨token, r, asked⟩

theorem exists_grant (present : .granted key token ∈ signs tale) :
    ∃ lifetime, (⟨.acquire key lifetime, .ok (some token)⟩ : (q : Ask) × q.Answer) ∈ tale := by
  obtain ⟨⟨q, r⟩, asked, signed⟩ := List.mem_flatMap.1 present
  cases q with
  | acquire other lifetime =>
    rcases r with failure | (_ | granted)
    · simp [signsOf] at signed
    · simp [signsOf] at signed
    · obtain ⟨rfl, rfl⟩ : key = other ∧ token = granted := by simpa [signsOf] using signed
      exact ⟨lifetime, asked⟩
  | _ => simp [signsOf] at signed

end

-- A lock is granted only with a token of the key that was asked for.
structure Served (c : Context) (r : Request) (key : Key) (tale : Tale) : Prop where
  accepted : parseKey c r = .ok key
  told : ∃ result, (execute c r).Told tale result
  keyed : ∀ k lifetime token,
    (⟨.acquire k lifetime, .ok (some token)⟩ : (q : Ask) × q.Answer) ∈ tale → token.key = k

section

variable {c : Context} {r r' : Request} {key key' : Key} {tale tale' : Tale}

theorem Served.keysReported_cases (served : Served c r key tale) :
    ¬ GivesBack tale ∧ keysReported tale = [.shown (maskKey key.text)] ∨
    GivesBack tale ∧ keysReported tale =
      [.shown (maskKey key.text), .shown (CompositeKey.build r.method r.route key).shown] := by
  obtain ⟨result, told⟩ := served.told
  obtain ⟨guard, signed⟩ := told.ends_of_obeys (execute_signs served.accepted)
  rw [foldl_disclosure, List.nil_append] at signed
  rw [keysReported_eq, givesBack_iff]
  cases guard with
  | none =>
    refine .inl ⟨?_, by rw [signed]; rfl⟩
    rintro ⟨token, present⟩
    simp [signed, lockSigns, guardSigns] at present
  | some token =>
    have granted : .granted (CompositeKey.build r.method r.route key) token ∈ signs tale := by
      simp [signed, lockSigns]
    obtain ⟨lifetime, asked⟩ := exists_grant granted
    refine .inr ⟨⟨token, by simp [signed, lockSigns, guardSigns]⟩, ?_⟩
    rw [← served.keyed _ _ _ asked, signed]
    rfl

theorem shown_build_inj {method route : String} :
    (CompositeKey.build method route key).shown = (CompositeKey.build method route key').shown ↔
      key = key' := by
  constructor
  · intro same
    obtain ⟨text⟩ := key
    obtain ⟨text'⟩ := key'
    have spelled := congrArg String.toList same
    simp only [CompositeKey.shown, CompositeKey.build, String.toList_append, List.append_assoc,
      List.append_cancel_left_eq, List.append_cancel_right_eq, String.toList_inj] at spelled
    rw [spelled]
  · rintro rfl
    rfl

theorem Served.keysReported_eq_iff (served : Served c r key tale) (served' : Served c r' key' tale')
    (method : r'.method = r.method) (route : r'.route = r.route)
    (masked : maskKey key'.text = maskKey key.text) :
    keysReported tale' = keysReported tale ↔
      (GivesBack tale' ↔ GivesBack tale) ∧ (GivesBack tale → key' = key) := by
  rcases served.keysReported_cases with ⟨kept, shown⟩ | ⟨gave, shown⟩ <;>
    rcases served'.keysReported_cases with ⟨kept', shown'⟩ | ⟨gave', shown'⟩ <;>
    rw [shown, shown', masked]
  · simp [kept, kept']
  · simp [kept, gave']
  · simp [gave, kept']
  · simp [gave, gave', method, route, shown_build_inj]

end

def failedTale (c : Context) (r : Request) (key : Key) (token : LockToken) : Tale :=
  let k := CompositeKey.build r.method r.route key
  [⟨.report (.tick .request), ()⟩, ⟨.report (.enter ⟨k.method, k.route, maskKey key.text⟩), ()⟩,
    ⟨.lookup k, .ok none⟩,
    ⟨.acquire k (c.policy.lockTimeoutSecs.toNat * nanosPerSecond), .ok (some token)⟩,
    ⟨.report (.measure (.lockAcquisition true)), ()⟩, ⟨.lookup k, .ok none⟩,
    ⟨.report (.tick .execution), ()⟩, ⟨.operate, .error (.internal "")⟩, ⟨.release token, .ok true⟩,
    ⟨.report (.log .debug .lock "Released idempotency lock" [("key", .shown token.key.shown)]), ()⟩,
    ⟨.report .leave, ()⟩]

theorem served_failedTale {c : Context} {r : Request} {key : Key} {token : LockToken}
    (locking : c.usesLock = true) (accepted : parseKey c r = .ok key)
    (own : token.key = CompositeKey.build r.method r.route key) :
    Served c r key (failedTale c r key token) where
  accepted := accepted
  told := by
    refine ⟨.error (.internal ""), ?_⟩
    unfold execute
    simp only [accepted, course, acquire, locking, if_true]
    iterate 11 refine .ask _ _ _ ?_
    exact .done _
  keyed k lifetime other present := by
    have signed : .granted k other ∈ signs (failedTale c r key token) :=
      List.mem_flatMap.2 ⟨_, present, List.mem_singleton_self _⟩
    have listed : signs (failedTale c r key token) = .shown (.shown (maskKey key.text)) ::
        lockSigns (CompositeKey.build r.method r.route key) (some token) := rfl
    obtain ⟨rfl, rfl⟩ : k = CompositeKey.build r.method r.route key ∧ other = token := by
      simpa [listed, lockSigns, guardSigns] using signed
    exact own

theorem exists_givesBack {c : Context} {r : Request} {key : Key} (locking : c.usesLock = true)
    (accepted : parseKey c r = .ok key) : ∃ tale, Served c r key tale ∧ GivesBack tale := by
  let token : LockToken :=
    { key := CompositeKey.build r.method r.route key, holder := default, acquiredAt := .epoch, lifetime := 0 }
  refine ⟨failedTale c r key token, served_failedTale locking accepted rfl, token, .ok true, ?_⟩
  simp [failedTale]

-- Of two requests whose keys differ under one mask, what they report themselves is the same exactly if
-- neither gives a lock back.
theorem reports_hide_key_iff (value : String) (visible : Nat) (c : Context) (r r' : Request) (key key' : Key) :
    IsMasked visible value.toList (mask value visible).toList ∧
    (maskKey key'.text = maskKey key.text ↔
      key'.text.toList.length = key.text.toList.length ∧ (key'.text.toList.length ≤ 8 ∨
        key'.text.toList.take 4 = key.text.toList.take 4 ∧
          key'.text.toList.drop (key'.text.toList.length - 4) =
            key.text.toList.drop (key.text.toList.length - 4))) ∧
    (∀ tale, Served c r key tale →
      ¬ GivesBack tale ∧ keysReported tale = [.shown (maskKey key.text)] ∨
      GivesBack tale ∧ keysReported tale =
        [.shown (maskKey key.text), .shown (CompositeKey.build r.method r.route key).shown]) ∧
    (c.usesLock = true → parseKey c r = .ok key → ∃ tale, Served c r key tale ∧ GivesBack tale) ∧
    ∀ tale tale', Served c r key tale → Served c r' key' tale' →
      r'.method = r.method → r'.route = r.route → maskKey key'.text = maskKey key.text →
      (keysReported tale' = keysReported tale ↔
        (GivesBack tale' ↔ GivesBack tale) ∧ (GivesBack tale → key' = key)) := by
  refine ⟨?_, maskKey_eq_iff, ?_, exists_givesBack, ?_⟩
  · rw [mask, String.toList_ofList]
    exact isMasked_maskChars visible value.toList
  · exact fun tale served => served.keysReported_cases
  · exact fun tale tale' served => served.keysReported_eq_iff

def orderOf (key : String) : Request :=
  { method := "POST", route := "/orders", rawKey := some key, fingerprint := none }

theorem orders_told_apart :
    maskKey "order-2026-abcdef" = "orde*********cdef" ∧ maskKey "order-1999-abcdef" = "orde*********cdef" ∧
      ∃ tale tale', Served locking (orderOf "order-2026-abcdef") ⟨"order-2026-abcdef"⟩ tale ∧
        Served locking (orderOf "order-1999-abcdef") ⟨"order-1999-abcdef"⟩ tale' ∧
        keysReported tale = [.shown "orde*********cdef", .shown "POST /orders [order-2026-abcdef]"] ∧
        keysReported tale' ≠ keysReported tale := by
  have mask2026 : maskKey "order-2026-abcdef" = "orde*********cdef" := by decide
  have mask1999 : maskKey "order-1999-abcdef" = "orde*********cdef" := by decide
  obtain ⟨-, -, shown, discloses, hidden⟩ := reports_hide_key_iff "order-2026-abcdef" 4 locking
    (orderOf "order-2026-abcdef") (orderOf "order-1999-abcdef") ⟨"order-2026-abcdef"⟩ ⟨"order-1999-abcdef"⟩
  obtain ⟨tale, served, gave⟩ := discloses (by decide) (by decide)
  have accepted : parseKey locking (orderOf "order-1999-abcdef") = .ok ⟨"order-1999-abcdef"⟩ := by decide
  obtain ⟨tale', served', -⟩ := exists_givesBack (by decide) accepted
  refine ⟨mask2026, mask1999, tale, tale', served, served', ?_, fun same => ?_⟩
  · rcases shown _ served with ⟨kept, -⟩ | ⟨-, listed⟩
    · exact absurd gave kept
    · rw [listed, mask2026]
      decide
  · have equal := ((hidden _ _ served served' rfl rfl (mask1999.trans mask2026.symm)).1 same).2 gave
    exact absurd equal (by decide)

end Request

end OncePerKey
