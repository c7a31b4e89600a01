import OncePerKey.Proofs.Redis.Course
import OncePerKey.Proofs.Redis.Server
import OncePerKey.Proofs.Response.Snapshot

set_option autoImplicit false

namespace OncePerKey.Redis

-- A command that is refused has no effect. What the clocks of the clients show does not matter.
def answers (now : Timestamp) (s : Server) : (q : Ask) → q.Answer → Server → Prop
  | .send c, r, s' => (r = (s.run now c).1 ∧ s' = (s.run now c).2) ∨ ∃ line, r = .error line ∧ s' = s
  | .now, _, s' | .newHolder, _, s' | .connect, _, s' | .report _, _, s' => s' = s

def overServer : Surroundings Ask Ask.Answer where
  State := Server
  answers := answers
  shows := Timestamp.IsPlain

def Unreadable (bytes : Bytes) : Prop :=
  ∃ text fault, Utf8.decode bytes = .ok text ∧ Cached.codec.parse text = .error fault

variable {ι : Type} [DecidableEq ι] {space : String} {calls : ι → Call}
  {w₀ v w : World overServer ι Returned} {name : String}

def Misread (w₀ w : World overServer ι Returned) (i : ι) (name : String) : Prop :=
  ∃ u u' bytes, World.Happened w₀ w ⟨i, u.now, .send (.get name), Reply.data bytes⟩ u u' ∧
    Unreadable bytes

def Deleted (w₀ w : World overServer ι Returned) (i : ι) (name : String) : Prop :=
  ∃ u u' n, World.Happened w₀ w ⟨i, u.now, .send (.del name), Reply.int n⟩ u u'

theorem Misread.mono {u : World overServer ι Returned} {i : ι} (misread : Misread w₀ w i name)
    (run : World.Reaches w u) : Misread w₀ u i name := by
  obtain ⟨x, x', bytes, happened, unreadable⟩ := misread
  exact ⟨x, x', bytes, happened.mono run, unreadable⟩

def courseOf (space : String) (c : Call) (i : ι) (history : List (Exchange ι Ask Ask.Answer)) :
    Course :=
  (c.discipline space).stage {} i history

theorem may_of_ask (starts : w₀.Starts fun i => (calls i).program space)
    (run : World.Reaches w₀ w) {i : ι} {q : Ask} {next : q.Answer → Talking Returned}
    (asks : w.tasks i = .ask q next) :
    (calls i).may space (courseOf space (calls i) i w.history) q :=
  World.may_of_ask starts (program_obeys space (calls i)) run asks

theorem ends_of_done (starts : w₀.Starts fun i => (calls i).program space)
    (run : World.Reaches w₀ w) {i : ι} {r : Returned} (ended : w.tasks i = .done r) :
    (calls i).ends space (courseOf space (calls i) i w.history) r :=
  World.ends_of_done starts (program_obeys space (calls i)) run ended

theorem cause_of_course (starts : w₀.Starts fun i => (calls i).program space) {i : ι}
    {p : Course → Prop} {P : World overServer ι Returned → Prop} (first : ¬ p {})
    (lasts : ∀ u v, World.Step u v → P u → P v)
    (answer : ∀ v q next r s, World.Reaches w₀ v → v.tasks i = .ask q next →
      overServer.answers v.now v.state q r s →
      (calls i).may space (courseOf space (calls i) i v.history) q →
      p ((courseOf space (calls i) i v.history).after q r) →
      p (courseOf space (calls i) i v.history) ∨ P (v.answered i q r (next r) s))
    (run : World.Reaches w₀ w) (holds : p (courseOf space (calls i) i w.history)) : P w :=
  World.cause_of_stage starts (program_obeys space (calls i)) first lasts answer run holds

theorem unreadable_of_condemnedBy {now : Timestamp} {s s' : Server} {r : Reply} {other : String}
    (answers : answers now s (.send (.get other)) r s') (condemned : condemnedBy other r = some name) :
    other = name ∧ ∃ bytes, r = .data bytes ∧ s.value? now other = some bytes ∧ Unreadable bytes := by
  rcases answers with ⟨answer, -⟩ | ⟨line, rfl, -⟩
  · rw [Server.run_get] at answer
    subst answer
    cases found : s.value? now other with
    | none => simp [condemnedBy, found, Reply.text?] at condemned
    | some bytes =>
      rw [found, Option.map_some, Option.getD_some] at condemned
      cases decoded : Utf8.decode bytes with
      | error fault => simp [condemnedBy, Reply.text?, decoded] at condemned
      | ok text =>
        cases parsed : Cached.codec.parse text with
        | ok response => simp [condemnedBy, Reply.text?, decoded, parsed] at condemned
        | error fault =>
          have same : other = name := by
            simpa [condemnedBy, Reply.text?, decoded, parsed] using condemned
          exact ⟨same, bytes, rfl, rfl, text, fault, decoded, parsed⟩
  · cases condemned

theorem misread_of_condemned (starts : w₀.Starts fun i => (calls i).program space)
    (run : World.Reaches w₀ w) {i : ι}
    (condemned : (courseOf space (calls i) i w.history).condemned = some name) :
    Misread w₀ w i name := by
  refine cause_of_course (p := fun s => s.condemned = some name)
    (P := fun w => Misread w₀ w i name) starts nofun ?_ ?_ run condemned
  · intro u v step misread
    exact misread.mono (.single step)
  · intro v q next r s run asks answers may condemned
    cases q with
    | now | newHolder | connect | report => exact .inl condemned
    | send c =>
      cases c with
      | get other =>
        have happened := World.happened_of_answer run asks answers
        obtain ⟨rfl, bytes, rfl, -, unreadable⟩ := unreadable_of_condemnedBy answers condemned
        exact .inr ⟨v, _, bytes, happened, unreadable⟩
      | setAbsent | ping | deleteIf | loadScript => exact .inl condemned
      | del => exact nomatch condemned

theorem condemned_before
    (readable : ∀ bytes, v.state.value? v.now name = some bytes → ¬ Unreadable bytes)
    (step : World.Step v w) {i : ι}
    (condemned : (courseOf space (calls i) i w.history).condemned = some name) :
    (courseOf space (calls i) i v.history).condemned = some name := by
  cases step with
  | pass => exact condemned
  | change => exact condemned
  | answer j q next r s asks answers =>
    by_cases same : j = i
    · subst same
      rw [World.answered_history, courseOf, Discipline.stage_cons_self] at condemned
      cases q with
      | now | newHolder | connect | report => exact condemned
      | send c =>
        cases c with
        | get other =>
          obtain ⟨rfl, bytes, -, found, unreadable⟩ := unreadable_of_condemnedBy answers condemned
          exact absurd unreadable (readable bytes found)
        | setAbsent | ping | deleteIf | loadScript => exact condemned
        | del => exact nomatch condemned
    · rw [World.answered_history, courseOf, Discipline.stage_cons_of_ne _ _ same] at condemned
      exact condemned

theorem lookup_or_deleted (starts : w₀.Starts fun i => (calls i).program space)
    (run : World.Reaches w₀ v) (step : World.Step v w) {entry : Entry}
    (there : v.state.entries.lookup name = some entry)
    (live : Server.Entry.isLiveAt entry v.now = true) :
    w.state.entries.lookup name = some entry ∨
      ∃ j n, World.Happened v w ⟨j, v.now, .send (.del name), Reply.int n⟩ v w ∧
        (courseOf space (calls j) j v.history).condemned = some name := by
  cases step with
  | pass => exact .inl there
  | change s changes => exact changes.elim
  | answer j q next r s asks answers =>
    have happened : World.Happened v _ ⟨j, v.now, q, r⟩ v _ :=
      World.happened_of_answer .refl asks answers
    -- Only a deletion takes away an entry that is not over.
    have may := may_of_ask starts run asks
    cases q with
    | now | newHolder | connect | report =>
      cases answers
      exact .inl there
    | send c =>
      rcases answers with ⟨rfl, rfl⟩ | ⟨line, -, rfl⟩
      · by_cases deletes : c.deletes name
        · cases c with
          | del other =>
            cases deletes
            exact .inr ⟨j, _, happened, may⟩
          | deleteIf other value => exact may.elim
          | get | setAbsent | ping | loadScript => exact deletes.elim
        · exact .inl (Server.lookup_run there live deletes)
      · exact .inl there

theorem value?_of_deleted {u u' : World overServer ι Returned} {i : ι} {n : Int}
    (happened : World.Happened w₀ w ⟨i, u.now, .send (.del name), Reply.int n⟩ u u') :
    u'.state.value? u'.now name = none := by
  rcases happened.answers with ⟨-, effect⟩ | ⟨line, refused, -⟩
  · rw [effect]
    exact Server.value?_erase_self _ _ _
  · exact nomatch refused

theorem set_effect {u u' : World overServer ι Returned} {i : ι} {text : String} {px : Nat}
    (happened : World.Happened w₀ w ⟨i, u.now, .send (.setAbsent name text px), Reply.okay⟩ u u') :
    u.state.value? u.now name = none ∧ u'.state.entries.lookup name =
      some ⟨Utf8.encode text, some (u.now.toNanos + px * 1000000)⟩ := by
  rcases happened.answers with ⟨answer, effect⟩ | ⟨line, refused, -⟩
  · rw [effect]
    exact Server.run_setAbsent_okay answer.symm
  · exact nomatch refused

theorem not_unreadable_render (response : Cached) :
    ¬ Unreadable (Utf8.encode (Cached.codec.render response)) := by
  rintro ⟨text, fault, decoded, parsed⟩
  rw [Utf8.decode_encode] at decoded
  cases decoded
  rw [Cached.parse_render] at parsed
  exact nomatch parsed

theorem okay_of_wroteBy {now : Timestamp} {s s' : Server} {r : Reply} {text : String} {px : Nat}
    {c : Command} (answers : answers now s (.send (.setAbsent name text px)) r s')
    (wrote : wroteBy (.setAbsent name text px) r = some c) :
    c = .setAbsent name text px ∧ r = .okay := by
  rcases answers with ⟨answer, -⟩ | ⟨line, rfl, -⟩
  · rw [Server.run_setAbsent] at answer
    split at answer
    · cases answer
      exact nomatch wrote
    · cases answer
      exact ⟨(Option.some.inj wrote).symm, rfl⟩
  · exact nomatch wrote

theorem set_stays_iff (starts : w₀.Starts fun i => (calls i).program space) (plain : w₀.now.IsPlain)
    {u u' : World overServer ι Returned} {i : ι} {text : String} {px : Nat}
    (set : World.Happened w₀ w ⟨i, u.now, .send (.setAbsent name text px), Reply.okay⟩ u u')
    (readable : ¬ Unreadable (Utf8.encode text))
    (early : w.now.toNanos < u.now.toNanos + px * 1000000) :
    (∀ v, World.Reaches u' v → World.Reaches v w →
      v.state.value? v.now name = some (Utf8.encode text)) ↔
    ¬ ∃ j, Misread w₀ u j name ∧ Deleted u' w j name := by
  have reached := set.reaches
  have shown {x : World overServer ι Returned} (run : World.Reaches w₀ x) : x.now.IsPlain :=
    World.shows_now (S := overServer) plain run
  let entry : Entry := ⟨Utf8.encode text, some (u.now.toNanos + px * 1000000)⟩
  have live (v : World overServer ι Returned) (run : World.Reaches u' v) (rest : World.Reaches v w) :
      Server.Entry.isLiveAt entry v.now = true := by
    have order := (Timestamp.toNanos_le_iff (shown (reached.trans run))
      (shown ((reached.trans run).trans rest))).2 rest.now_le
    simp only [entry, Server.Entry.isLiveAt, Option.all_some, decide_eq_true_eq]
    omega
  constructor
  · rintro stays ⟨j, -, x, x', n, deleted⟩
    have there := stays x' deleted.reaches deleted.after
    rw [value?_of_deleted deleted] at there
    cases there
  · intro undeleted v run
    obtain ⟨absent, effect⟩ := set_effect set
    -- Along the way the entry is there, and whoever is about to delete the name was so before.
    have along : World.Reaches v w → v.state.entries.lookup name = some entry ∧
        ∀ j, (courseOf space (calls j) j v.history).condemned = some name → Misread w₀ u j name := by
      induction run with
      | refl =>
        intro _
        refine ⟨effect, fun j condemned => misread_of_condemned starts set.before ?_⟩
        refine condemned_before (fun bytes found => ?_) set.step condemned
        rw [absent] at found
        cases found
      | @tail x v run step ih =>
        intro rest
        obtain ⟨there, misread⟩ := ih (.head step rest)
        have liveBefore := live x run (.head step rest)
        refine ⟨?_, fun j condemned =>
          misread j (condemned_before (fun bytes found => ?_) step condemned)⟩
        · rcases lookup_or_deleted starts (reached.trans run) step there liveBefore with
            kept | ⟨j, n, deleted, condemned⟩
          · exact kept
          · exact absurd ⟨j, misread j condemned, x, v, n,
              { deleted with before := run, after := rest }⟩ undeleted
        · rw [Server.value?_of_lookup there liveBefore] at found
          cases found
          exact readable
    intro rest
    exact Server.value?_of_lookup (along rest).1 (live v run rest)

theorem set_of_wrote (starts : w₀.Starts fun i => (calls i).program space)
    (run : World.Reaches w₀ w) {i : ι} {text : String} {px : Nat}
    (wrote : (courseOf space (calls i) i w.history).wrote = some (.setAbsent name text px)) :
    0 < px ∧ ∃ u u',
      World.Happened w₀ w ⟨i, u.now, .send (.setAbsent name text px), Reply.okay⟩ u u' := by
  refine cause_of_course (p := fun s => s.wrote = some (.setAbsent name text px))
    (P := fun w => 0 < px ∧ ∃ u u', World.Happened w₀ w
      ⟨i, u.now, .send (.setAbsent name text px), Reply.okay⟩ u u') starts nofun ?_ ?_ run wrote
  · rintro u v step ⟨positive, x, x', happened⟩
    exact ⟨positive, x, x', happened.mono (.single step)⟩
  · intro v q next r s run asks answers may wrote
    cases q with
    | now | newHolder | connect | report => exact .inl wrote
    | send c =>
      cases c with
      | get | ping | deleteIf | loadScript | del => exact .inl wrote
      | setAbsent other value millis =>
        obtain ⟨same, rfl⟩ := okay_of_wroteBy answers wrote
        cases same
        obtain ⟨key, response, call, -, -, positive⟩ := may
        exact .inr ⟨positive, v, _, World.happened_of_answer run asks answers⟩

-- What is written stays for its time exactly if no client that had misread the name before deletes it
-- afterwards.
theorem written_stays_iff (starts : w₀.Starts fun i => (calls i).program space)
    (plain : w₀.now.IsPlain) (run : World.Reaches w₀ w) {i : ι} {key : CompositeKey}
    {response : Cached} (call : calls i = .set key response)
    (ended : w.tasks i = .done (.set (.ok .written))) :
    ∃ px u u', 0 < px ∧ World.Happened w₀ w ⟨i, u.now, .send (.setAbsent (responseName space key)
        (Cached.codec.render response) px), Reply.okay⟩ u u' ∧
      (w.now.toNanos < u.now.toNanos + px * 1000000 →
        ((∀ v, World.Reaches u' v → World.Reaches v w → v.state.value? v.now (responseName space key) =
            some (Utf8.encode (Cached.codec.render response))) ↔
          ¬ ∃ j, Misread w₀ u j (responseName space key) ∧ Deleted u' w j (responseName space key))) := by
  obtain ⟨k, stored, px, set, wrote⟩ := ends_of_done starts run ended rfl
  cases call.symm.trans set
  obtain ⟨positive, u, u', happened⟩ := set_of_wrote starts run wrote
  exact ⟨px, u, u', positive, happened,
    set_stays_iff starts plain happened (not_unreadable_render response)⟩

def reply (now : Timestamp) (s : Server) : (q : Ask) → Option (q.Answer × Server)
  | .now => some (now, s)
  | .newHolder => some (Uuid.ofSeed 0, s)
  | .connect => some (.ok (), s)
  | .send c => some (s.run now c)
  | .report _ => some ((), s)

theorem answers_of_reply (now : Timestamp) (s : Server) (q : Ask) (r : q.Answer) (s' : Server)
    (replied : reply now s q = some (r, s')) : answers now s q r s' := by
  cases q with
  | now | newHolder | connect | report =>
    cases replied
    exact (rfl : s = s)
  | send c =>
    have same : s.run now c = (r, s') := Option.some.inj replied
    refine .inl ?_
    rw [same]
    exact ⟨rfl, rfl⟩

def invoiceKey : CompositeKey :=
  CompositeKey.build "POST" "/invoices" ⟨"k-1"⟩

def invoice : Cached :=
  { status := 201, body := none, contentType := none
    createdAt := ⟨1798761600, 0, by decide⟩, expiresAt := ⟨1798848000, 0, by decide⟩
    fingerprint := none }

def invoiceCall (writes : Bool) : Call :=
  if writes then .set invoiceKey invoice else .get invoiceKey

def spoiled : World overServer Bool Returned where
  now := ⟨1798761600, 0, by decide⟩
  state := { entries := [(responseName "idem" invoiceKey, ⟨Utf8.encode "?", none⟩)] }
  tasks i := (invoiceCall i).program "idem"
  history := []

-- The reader has read; the writer discards and writes; then the reader deletes.
def discarded : World overServer Bool Returned :=
  spoiled.play reply (List.replicate 3 false ++ List.replicate 9 true ++ [false])

theorem winner_deleted :
    discarded.tasks true = .done (.set (.ok .written)) ∧
      discarded.state.value? discarded.now (responseName "idem" invoiceKey) = none ∧
      ∃ px u u', 0 < px ∧ World.Happened spoiled discarded ⟨true, u.now,
          .send (.setAbsent (responseName "idem" invoiceKey) (Cached.codec.render invoice) px),
          Reply.okay⟩ u u' ∧
        discarded.now.toNanos < u.now.toNanos + px * 1000000 ∧
        ∃ j, Misread spoiled u j (responseName "idem" invoiceKey) ∧
          Deleted u' discarded j (responseName "idem" invoiceKey) := by
  have starts : spoiled.Starts fun i => (invoiceCall i).program "idem" := ⟨rfl, rfl⟩
  have plain : spoiled.now.IsPlain := by decide
  have run : World.Reaches spoiled discarded :=
    World.reaches_play (S := overServer) answers_of_reply spoiled _
  have ended : discarded.tasks true = .done (.set (.ok .written)) := rfl
  have gone : discarded.state.value? discarded.now (responseName "idem" invoiceKey) = none := by
    decide +kernel
  obtain ⟨px, u, u', positive, set, stays⟩ := written_stays_iff starts plain run (i := true) rfl ended
  have still : discarded.now = spoiled.now := rfl
  have early : discarded.now.toNanos < u.now.toNanos + px * 1000000 := by
    have order := (Timestamp.toNanos_le_iff plain
      (World.shows_now (S := overServer) plain set.before)).2 (World.Reaches.now_le set.before)
    rw [still]
    omega
  refine ⟨ended, gone, px, u, u', positive, set, early, ?_⟩
  by_contra kept
  have there := (stays early).2 kept discarded set.after .refl
  rw [gone] at there
  exact nomatch there

end OncePerKey.Redis
