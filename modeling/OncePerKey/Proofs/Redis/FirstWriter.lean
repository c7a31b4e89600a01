import Mathlib.Data.Int.ConditionallyCompleteOrder
import OncePerKey.Proofs.Redis.Origin

set_option autoImplicit false

namespace OncePerKey.Redis

-- The program asks for nothing but reports and the clock, which shows these moments, and returns.
inductive Ends : Talking Returned → List Timestamp → Returned → Prop where
  | done (r : Returned) : Ends (.done r) [] r
  | report {next : Unit → Talking Returned} {shown : List Timestamp} {r : Returned} (note : Note)
      (rest : Ends (next ()) shown r) : Ends (Program.ask (.report note) next) shown r
  | now {next : Timestamp → Talking Returned} {shown : List Timestamp} {r : Returned}
      (now : Timestamp) (rest : Ends (next now) shown r) : Ends (Program.ask .now next) (now :: shown) r

section

variable {space : String} {c : Call} {p : Talking Returned}

theorem ends_of_ended {r : Returned}
    (obeys : p.Obeys (stages space c) (fun s r => s = .ended r) (.ended r)) : Ends p [] r := by
  induction p with
  | done a =>
    cases obeys
    exact .done r
  | ask q next ih =>
    rcases obeys.1 with ⟨note, rfl⟩ | asked
    · exact .report note (ih () (obeys.2 ()))
    · exact nomatch asked

theorem ends_of_judging {response : Cached}
    (obeys : p.Obeys (stages space c) (fun s r => s = .ended r) (.judging response))
    (now : Timestamp) :
    Ends p [now] (.got (.ok (if response.isLiveAt now then some response else none))) := by
  induction p with
  | done a => exact nomatch obeys
  | ask q next ih =>
    rcases obeys.1 with ⟨note, rfl⟩ | asked
    · exact .report note (ih () (obeys.2 ()))
    · cases asked
      exact .now now (ends_of_ended (obeys.2 now))

end

def IsClean (s : Server) (name : String) : Prop :=
  ∀ entry, s.entries.lookup name = some entry →
    ∃ response, entry.value = Utf8.encode (Cached.codec.render response)

def residenceOf {ι : Type} (name : String) : Exchange ι Ask Ask.Answer → Option (Set ℤ)
  | ⟨_, time, .send (.setAbsent other _ px), .okay⟩ =>
      if other = name then some (Set.Ico time.toNanos (time.toNanos + px * 1000000)) else none
  | _ => none

theorem residenceOf_eq_some {ι : Type} {name : String} {e : Exchange ι Ask Ask.Answer}
    {residence : Set ℤ} (shown : residenceOf name e = some residence) :
    ∃ i time text px, e = ⟨i, time, .send (.setAbsent name text px), Reply.okay⟩ ∧
      residence = Set.Ico time.toNanos (time.toNanos + px * 1000000) := by
  unfold residenceOf at shown
  split at shown
  · rename_i i time other text px
    split at shown
    · rename_i same
      subst same
      exact ⟨i, time, text, px, rfl, (Option.some.inj shown).symm⟩
    · exact nomatch shown
  · exact nomatch shown

variable {ι : Type} [DecidableEq ι] {space : String} {calls : ι → Call}
  {w₀ u u' v v' w : World overServer ι Returned} {name text : String} {i j : ι} {px : Nat}

theorem read_answer {r : Reply}
    (read : World.Happened w₀ w ⟨j, v.now, .send (.get name), r⟩ v v') :
    r = ((v.state.value? v.now name).map Reply.data).getD .nil ∨ ∃ line, r = .error line := by
  rcases read.answers with ⟨answer, -⟩ | ⟨line, refused, -⟩
  · exact .inl (answer.trans (Server.run_get v.state v.now name))
  · exact .inr ⟨line, refused⟩

theorem value?_of_read {bytes : Bytes}
    (read : World.Happened w₀ w ⟨j, v.now, .send (.get name), Reply.data bytes⟩ v v') :
    v.state.value? v.now name = some bytes := by
  rcases read_answer read with answer | ⟨line, refused⟩
  · cases found : v.state.value? v.now name with
    | none => simp [found] at answer
    | some other => simpa [found] using answer.symm
  · exact nomatch refused

theorem text?_data {bytes : Bytes} (decoded : Utf8.decode bytes = .ok text) :
    (Reply.data bytes).text? = .ok (some text) := by
  simp [Reply.text?, decoded]

def Spells (bytes : Bytes) (response : Cached) : Prop :=
  ∃ text, Utf8.decode bytes = .ok text ∧ Cached.codec.parse text = .ok response

theorem spells_render (response : Cached) :
    Spells (Utf8.encode (Cached.codec.render response)) response.civil :=
  ⟨_, Utf8.decode_encode _, Cached.parse_render response⟩

theorem Spells.eq {bytes : Bytes} {response other : Cached} (spells : Spells bytes response)
    (too : Spells bytes other) : response = other := by
  obtain ⟨text, decoded, parsed⟩ := spells
  obtain ⟨_, decodedToo, parsedToo⟩ := too
  cases decoded.symm.trans decodedToo
  exact Except.ok.inj (parsed.symm.trans parsedToo)

def ReadAs (w₀ w : World overServer ι Returned) (i : ι) (name : String) (response : Cached)
    (v v' : World overServer ι Returned) : Prop :=
  ∃ bytes, World.Happened w₀ w ⟨i, v.now, .send (.get name), Reply.data bytes⟩ v v' ∧
    Spells bytes response

theorem ReadAs.mono {response : Cached} (read : ReadAs w₀ v i name response u u')
    (run : World.Reaches v w) : ReadAs w₀ w i name response u u' := by
  obtain ⟨bytes, happened, spells⟩ := read
  exact ⟨bytes, happened.mono run, spells⟩

section

variable (starts : w₀.Starts fun i => (calls i).program space) {response : Cached}
include starts

theorem found_of_read (read : ReadAs w₀ w j name response v v') :
    ∃ round, Timed (calls j) (round.map (·.taken)) ∧
      stageOf space (calls j) j v'.history = .found response round := by
  obtain ⟨bytes, happened, text, decoded, parsed⟩ := read
  have asked := question_of_happened starts happened nofun
  have move := move_of_happened starts happened
  have suits := suits_of_reaches starts happened.before j
  simp only at asked move
  generalize stageOf space (calls j) j v.history = stage at asked move suits
  generalize stageOf space (calls j) j v'.history = later at move ⊢
  generalize calls j = c at asked move suits ⊢
  cases stage with
  | reading round =>
    refine ⟨round, suits, ?_⟩
    cases move with
    | unread _ _ _ fault said => cases said.symm.trans (text?_data decoded)
    | absent _ _ _ said => cases said.symm.trans (text?_data decoded)
    | present _ _ _ _ other said same =>
      cases said.symm.trans (text?_data decoded)
      cases same.symm.trans parsed
      rfl
    | spoiled _ _ _ _ fault said fails =>
      cases said.symm.trans (text?_data decoded)
      cases fails.symm.trans parsed
  | setting => cases c <;> cases asked
  | _ => cases asked

theorem ends_of_read (read : ReadAs w₀ w j name response v v') :
    (∀ key, calls j = .get key → ∀ now,
      Ends (v'.tasks j) [now] (.got (.ok (if response.isLiveAt now then some response else none)))) ∧
    ∀ key other, calls j = .set key other →
      Ends (v'.tasks j) [] (.set (.ok (.alreadyExists response))) := by
  obtain ⟨round, timed, found⟩ := found_of_read starts read
  obtain ⟨bytes, happened, -⟩ := read
  have left := left_obeys starts happened.reaches j
  rw [found] at left
  constructor
  · intro key call now
    rw [call] at timed left
    cases round with
    | none => exact ends_of_judging left now
    | some round => exact timed.elim
  · intro key other call
    rw [call] at timed left
    cases round with
    | none => exact timed.elim
    | some round => exact ends_of_ended left

end

theorem ends_of_set (starts : w₀.Starts fun i => (calls i).program space)
    (set : World.Happened w₀ w ⟨i, u.now, .send (.setAbsent name text px), Reply.okay⟩ u u') :
    Ends (u'.tasks i) [] (.set (.ok .written)) := by
  have asked := question_of_happened starts set nofun
  have move := move_of_happened starts set
  have left := left_obeys starts set.reaches i
  simp only at asked move
  generalize stageOf space (calls i) i u.history = stage at asked move
  generalize stageOf space (calls i) i u'.history = later at move left
  generalize calls i = c at asked move left
  cases stage with
  | setting round =>
    cases move with
    | wrote => exact ends_of_ended left
    | unset _ _ _ _ fault said => cases said
    | occupied _ _ _ _ said => cases said
  | _ => cases asked

section

variable (starts : w₀.Starts fun i => (calls i).program space) (clean : IsClean w₀.state name)
include starts clean

theorem clean_of_reaches (run : World.Reaches w₀ w) : IsClean w.state name := by
  intro entry there
  rcases origin_of_lookup run there with old | ⟨u, u', i, text, px, set, rfl⟩
  · exact clean entry old
  · obtain ⟨key, response, -, -, -, -, rfl, -⟩ := setter_of_happened starts set
    exact ⟨response, rfl⟩

theorem not_misread : ¬ Misread w₀ w j name := by
  rintro ⟨v, v', bytes, read, unreadable⟩
  obtain ⟨entry, there, rfl, -⟩ := Server.lookup_of_value? (value?_of_read read)
  obtain ⟨response, same⟩ := clean_of_reaches starts clean read.before entry there
  exact not_unreadable_render response (same ▸ unreadable)

theorem no_deletion (run : World.Reaches w₀ w) {next : Reply → Talking Returned} :
    w.tasks i ≠ .ask (.send (.del name)) next := by
  intro asks
  have condemned : (courseOf space (calls i) i w.history).condemned = some name :=
    may_of_ask starts run asks
  exact not_misread starts clean (misread_of_condemned starts run condemned)

theorem value?_of_set (plain : w₀.now.IsPlain)
    (set : World.Happened w₀ v ⟨i, u.now, .send (.setAbsent name text px), Reply.okay⟩ u u')
    (early : v.now.toNanos < u.now.toNanos + px * 1000000) :
    v.state.value? v.now name = some (Utf8.encode text) := by
  obtain ⟨key, response, -, -, -, -, rfl, -⟩ := setter_of_happened starts set
  have stays := set_stays_iff starts plain set (not_unreadable_render response) early
  refine stays.2 ?_ v set.after .refl
  rintro ⟨j, misread, -⟩
  exact not_misread starts clean misread

theorem residences_disjoint (plain : w₀.now.IsPlain) (run : World.Reaches w₀ w) :
    (w.history.filterMap (residenceOf name)).Pairwise Disjoint := by
  refine World.pairwise_filterMap (residenceOf name) starts.2 run ?_
  intro e v v' residence happened shown other present
  obtain ⟨f, old, shownToo⟩ := List.mem_filterMap.1 present
  obtain ⟨i, time, text, px, rfl, rfl⟩ := residenceOf_eq_some shown
  obtain ⟨j, past, textToo, pxToo, rfl, rfl⟩ := residenceOf_eq_some shownToo
  obtain ⟨u, u', set⟩ := World.happened_of_mem starts.2 happened.before old
  obtain rfl : past = u.now := set.time
  obtain rfl : time = v.now := happened.time
  -- What was set before is over, else the name would not have been free.
  have freed : u.now.toNanos + pxToo * 1000000 ≤ v.now.toNanos := by
    by_contra early
    have there := value?_of_set starts clean plain set (by omega)
    rw [(set_effect happened).1] at there
    exact nomatch there
  rw [Set.Ico_disjoint_Ico]
  omega

theorem readAs_of_set (plain : w₀.now.IsPlain) {response : Cached}
    (set : World.Happened w₀ v ⟨i, u.now, .send (.setAbsent name (Cached.codec.render response) px),
      Reply.okay⟩ u u') {r : Reply} (read : World.Happened w₀ w ⟨j, v.now, .send (.get name), r⟩ v v')
    (early : v.now.toNanos < u.now.toNanos + px * 1000000) (served : ∀ line, r ≠ .error line) :
    ReadAs w₀ w j name response.civil v v' := by
  have there := value?_of_set starts clean plain set early
  rcases read_answer read with answer | ⟨line, refused⟩
  · rw [there] at answer
    cases answer
    exact ⟨_, read, spells_render response⟩
  · exact absurd refused (served line)

end

abbrev SetBy (w₀ w : World overServer ι Returned) (i : ι) (name : String) (response : Cached) (px : Nat)
    (u u' : World overServer ι Returned) : Prop :=
  World.Happened w₀ w ⟨i, u.now, .send (.setAbsent name (Cached.codec.render response) px), Reply.okay⟩
    u u'

def ReadBy (w₀ w : World overServer ι Returned) (j : ι) (name : String)
    (v v' : World overServer ι Returned) : Prop :=
  ∃ r : Reply, World.Happened w₀ w ⟨j, v.now, .send (.get name), r⟩ v v' ∧ ∀ line, r ≠ .error line

-- Whoever reads before a response is over gets it as its text shows it. That is the response itself exactly
-- if no leap second in it is within a minute.
theorem first_writer_keeps_name {key : CompositeKey}
    (starts : w₀.Starts fun i => (calls i).program space) (plain : w₀.now.IsPlain)
    (clean : IsClean w₀.state (responseName space key)) (run : World.Reaches w₀ w) :
    (w.history.filterMap (residenceOf (responseName space key))).Pairwise Disjoint ∧
      (∀ i response, calls i = .set key response → w.tasks i = .done (.set (.ok .written)) →
        ∃ px u u', 0 < px ∧ SetBy w₀ w i (responseName space key) response px u u') ∧
      (∀ i response px u u', SetBy w₀ w i (responseName space key) response px u u' →
        Ends (u'.tasks i) [] (.set (.ok .written)) ∧
        ∀ j v v', ReadBy w₀ w j (responseName space key) v v' → World.Reaches u' v →
          v.now.toNanos < u.now.toNanos + px * 1000000 →
          (∀ own, calls j = .get own → ∀ now, Ends (v'.tasks j) [now]
            (.got (.ok (if response.civil.isLiveAt now then some response.civil else none)))) ∧
          ∀ own other, calls j = .set own other →
            Ends (v'.tasks j) [] (.set (.ok (.alreadyExists response.civil)))) ∧
      (∀ response : Cached, response.civil = response ↔ response.IsCivil) ∧
      ∀ i next, w.tasks i ≠ .ask (.send (.del (responseName space key))) next := by
  refine ⟨residences_disjoint starts clean plain run, ?_, ?_, fun _ => Cached.civil_eq_self_iff,
    fun i next => no_deletion starts clean run⟩
  · intro i response call ended
    obtain ⟨own, stored, px, stores, wrote⟩ := ends_of_done starts run ended rfl
    cases call.symm.trans stores
    obtain ⟨positive, u, u', set⟩ := set_of_wrote starts run wrote
    exact ⟨px, u, u', positive, set⟩
  · intro i response px u u' set
    refine ⟨ends_of_set starts set, ?_⟩
    rintro j v v' ⟨r, read, served⟩ later early
    exact ends_of_read starts
      (readAs_of_set starts clean plain { set with after := later } read early served)

theorem play_reaches (w : World overServer ι Returned) (order : List ι) :
    World.Reaches w (w.play reply order) :=
  World.reaches_play (S := overServer) answers_of_reply w order

def billing (first : Cached) (writer : Bool) : Call :=
  .set invoiceKey (if writer then first else { first with status := 200 })

def unbilled (first : Cached) : World overServer Bool Returned where
  now := invoice.createdAt
  state := {}
  tasks i := (billing first i).program "idem"
  history := []

def aboutToBill (first : Cached) : World overServer Bool Returned :=
  (unbilled first).play reply [true, true]

def billed (first : Cached) : World overServer Bool Returned :=
  (aboutToBill first).advance reply true

-- The second writer has been refused, and has read.
def refused (first : Cached) : World overServer Bool Returned :=
  (billed first).play reply [true, false, false, false]

def reread (first : Cached) : World overServer Bool Returned :=
  (refused first).advance reply false

theorem starts_unbilled (first : Cached) :
    (unbilled first).Starts fun i => (billing first i).program "idem" :=
  ⟨rfl, rfl⟩

theorem clean_unbilled (first : Cached) :
    IsClean (unbilled first).state (responseName "idem" invoiceKey) :=
  fun _ there => nomatch there

theorem plain_unbilled (first : Cached) : (unbilled first).now.IsPlain := by
  change invoice.createdAt.IsPlain
  decide

theorem billed_reaches_refused (first : Cached) : World.Reaches (billed first) (refused first) :=
  play_reaches _ _

theorem refused_early {first : Cached} {px : Nat} (positive : 0 < px)
    (still : (refused first).now = (aboutToBill first).now) :
    (refused first).now.toNanos < (aboutToBill first).now.toNanos + px * 1000000 := by
  rw [still]
  omega

section

variable {first : Cached} {px : Nat}
  (set : SetBy (unbilled first) (billed first) true (responseName "idem" invoiceKey) first px
    (aboutToBill first) (billed first))
include set

theorem set_reread : SetBy (unbilled first) (reread first) true (responseName "idem" invoiceKey) first px
    (aboutToBill first) (billed first) :=
  (set.mono (billed_reaches_refused first)).mono (play_reaches (refused first) [false])

theorem read_reread {next : Reply → Talking Returned}
    (asks : (refused first).tasks false = .ask (.send (.get (responseName "idem" invoiceKey))) next) :
    World.Happened (unbilled first) (reread first)
      ⟨false, (refused first).now, .send (.get (responseName "idem" invoiceKey)),
        ((refused first).state.run (refused first).now (.get (responseName "idem" invoiceKey))).1⟩
      (refused first) (reread first) :=
  World.happened_of_advance (S := overServer) answers_of_reply
    (set.reaches.trans (billed_reaches_refused first)) asks rfl

end

theorem served_get (s : Server) (now : Timestamp) (name line : String) :
    (s.run now (.get name)).1 ≠ .error line := by
  rw [Server.run_get]
  cases s.value? now name <;> nofun

theorem second_writer_reads_first :
    SetBy (unbilled invoice) (reread invoice) true (responseName "idem" invoiceKey) invoice 86400000
        (aboutToBill invoice) (billed invoice) ∧
      ReadBy (unbilled invoice) (reread invoice) false (responseName "idem" invoiceKey)
        (refused invoice) (reread invoice) ∧
      Ends ((reread invoice).tasks false) [] (.set (.ok (.alreadyExists invoice))) := by
  have wrote : SetBy (unbilled invoice) (billed invoice) true (responseName "idem" invoiceKey) invoice
      86400000 (aboutToBill invoice) (billed invoice) :=
    World.happened_of_advance (S := overServer) answers_of_reply (play_reaches _ [true, true]) rfl rfl
  have set := set_reread wrote
  have happened := read_reread wrote rfl
  have read : ReadBy (unbilled invoice) (reread invoice) false (responseName "idem" invoiceKey)
      (refused invoice) (reread invoice) := ⟨_, happened, served_get _ _ _⟩
  obtain ⟨-, -, writes, -⟩ := first_writer_keeps_name (starts_unbilled invoice) (plain_unbilled invoice)
    (clean_unbilled invoice) happened.reaches
  obtain ⟨-, reads⟩ := writes true invoice 86400000 _ _ set
  exact ⟨set, read, (reads false _ _ read (billed_reaches_refused _) (refused_early (by decide) rfl)).2 _ _ rfl⟩

def strayInvoice : Cached :=
  { invoice with createdAt := ⟨1798761600, 1500000000, by decide⟩ }

theorem second_writer_reads_other :
    SetBy (unbilled strayInvoice) (reread strayInvoice) true (responseName "idem" invoiceKey) strayInvoice
        86400000 (aboutToBill strayInvoice) (billed strayInvoice) ∧
      ReadBy (unbilled strayInvoice) (reread strayInvoice) false (responseName "idem" invoiceKey)
        (refused strayInvoice) (reread strayInvoice) ∧
      (refused strayInvoice).now = (aboutToBill strayInvoice).now ∧
      Ends ((reread strayInvoice).tasks false) [] (.set (.ok (.alreadyExists
        { strayInvoice with createdAt := ⟨1798761601, 500000000, by decide⟩ }))) := by
  have wrote : SetBy (unbilled strayInvoice) (billed strayInvoice) true (responseName "idem" invoiceKey)
      strayInvoice 86400000 (aboutToBill strayInvoice) (billed strayInvoice) :=
    World.happened_of_advance (S := overServer) answers_of_reply (play_reaches _ [true, true]) rfl rfl
  have set := set_reread wrote
  have happened := read_reread wrote rfl
  have still : (refused strayInvoice).now = (aboutToBill strayInvoice).now := rfl
  have shown : strayInvoice.civil =
      { strayInvoice with createdAt := ⟨1798761601, 500000000, by decide⟩ } := rfl
  have found := readAs_of_set (starts_unbilled strayInvoice) (clean_unbilled strayInvoice)
    (plain_unbilled strayInvoice) (wrote.mono (billed_reaches_refused _)) happened
    (refused_early (by decide) still) (served_get _ _ _)
  rw [shown] at found
  exact ⟨set, ⟨_, happened, served_get _ _ _⟩, still, (ends_of_read (starts_unbilled _) found).2 _ _ rfl⟩

end OncePerKey.Redis
