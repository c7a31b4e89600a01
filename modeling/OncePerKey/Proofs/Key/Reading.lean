import OncePerKey.Key.Written
import OncePerKey.Proofs.Json.Schema
import OncePerKey.Proofs.Key.Grammar
import OncePerKey.Proofs.Key.Identity
import OncePerKey.Proofs.Key.Route

set_option autoImplicit false

namespace OncePerKey

namespace Json

variable {cs rest : List Char} {text : String}

theorem readString_eq_ok_iff : readString cs = .ok (text, rest) ↔
    ∃ s, skipSpace cs = '"' :: s ∧ string s = .ok (text, rest) := by
  unfold readString
  split
  · rename_i same
    simp [same]
  · rename_i s same
    simp [same]
  · rename_i _ other
    simp only [reduceCtorEq, false_iff, not_exists, not_and]
    exact fun s same => absurd same (other s)

theorem map_ne_str {α : Type} {x : Except Fault α} {f : α → Json × List Char}
    (other : ∀ a, (f a).1 ≠ .str text) : x.map f ≠ .ok (.str text, rest) := by
  cases x with
  | error => nofun
  | ok a => exact fun same => other a (congrArg Prod.fst (Except.ok.inj same))

theorem ofNumber_ne_str (n : Number) : ofNumber n ≠ .str text := by
  cases n <;> nofun

theorem value_eq_str_iff (room : Nat) : value room cs = .ok (.str text, rest) ↔
    ∃ s, skipSpace cs = '"' :: s ∧ string s = .ok (text, rest) := by
  unfold value
  constructor
  · intro read
    split at read
    · exact nomatch read
    · exact absurd read (map_ne_str (fun _ => nofun))
    · exact absurd read (map_ne_str (fun _ => nofun))
    · exact absurd read (map_ne_str (fun _ => nofun))
    · rename_i s same
      refine ⟨s, same, ?_⟩
      cases spelled : string s with
      | error => simp [spelled, Except.map] at read
      | ok found =>
        rw [spelled] at read
        simp only [Except.map, Except.ok.injEq, Prod.mk.injEq, Json.str.injEq] at read
        rw [← read.1, ← read.2]
    · exact absurd read (map_ne_str (fun _ => ofNumber_ne_str _))
    · split at read
      · exact nomatch read
      · exact absurd read (map_ne_str (fun _ => nofun))
    · split at read
      · exact nomatch read
      · exact absurd read (map_ne_str (fun _ => nofun))
    · split at read
      · exact absurd read (map_ne_str (fun _ => ofNumber_ne_str _))
      · exact nomatch read
  · rintro ⟨s, same, read⟩
    simp [same, read, Except.map]

theorem readAll_eq_ok_iff {α β : Type} {x : Except Fault (α × List Char)} {f : α → β}
    (apart : Function.Injective f) {a : α} :
    (do let (a, rest) ← x; atEnd rest; return f a) = Except.ok (f a) ↔
      ∃ rest, x = .ok (a, rest) ∧ atEnd rest = .ok () := by
  cases x with
  | error fault => simp [bind, Except.bind]
  | ok found =>
    obtain ⟨first, rest⟩ := found
    cases ended : atEnd rest <;>
      simp [bind, Except.bind, pure, Except.pure, ended, apart.eq_iff, and_comm]

theorem parse_eq_str_iff {s : String} : parse s = .ok (.str text) ↔
    ∃ rest, readString s.toList = .ok (text, rest) ∧ atEnd rest = .ok () := by
  refine Iff.trans (readAll_eq_ok_iff Function.injective_id) ?_
  simp only [readString_eq_ok_iff, value_eq_str_iff]

end Json

namespace Key

variable {key : Key} {text : String}

structure IsValid (key : Key) : Prop where
  filled : key.text ≠ ""
  own : ∀ c ∈ key.text.toList, c ∈ keyAlphabet

theorem isValid_iff_parsed : key.IsValid ↔ ∃ raw max, parse raw max = .ok key := by
  constructor
  · rintro ⟨filled, own⟩
    refine ⟨key.text, key.text.toList.length, parse_eq_ok_iff.2 ⟨rfl, ?_, Nat.le_refl _, own⟩⟩
    exact List.length_pos_iff.2 (mt String.toList_eq_nil_iff.1 filled)
  · rintro ⟨raw, max, parsed⟩
    obtain ⟨rfl, least, -, own⟩ := parse_eq_ok_iff.1 parsed
    exact ⟨mt String.toList_eq_nil_iff.2 (List.length_pos_iff.1 least), own⟩

theorem colon_notMem_of_isValid (valid : key.IsValid) : ':' ∉ key.text.toList := by
  intro present
  have listed := valid.own _ present
  revert listed
  decide

theorem codec_parse_iff : codec.parse text = .ok key ↔ Json.parse text = .ok (.str key.text) := by
  have apart : Function.Injective Key.mk := fun _ _ same => congrArg Key.text same
  rw [Json.parse_eq_str_iff]
  exact Json.readAll_eq_ok_iff apart

theorem parse_render (key : Key) : codec.parse (codec.render key) = .ok key := by
  have read := Json.readString_quote key.text []
  rw [List.append_nil] at read
  refine codec_parse_iff.2 (Json.parse_eq_str_iff.2 ⟨[], ?_, rfl⟩)
  rw [Json.Codec.render, String.toList_ofList]
  exact read

end Key

namespace Route

open Text

structure IsFormed (route : String) : Prop where
  rooted : route.toList.head? = some '/'
  lowered : lower route = route
  closed : route.toList.getLast? = some '/' → route = "/"

theorem form_eq (route : List Char) : form route = rooted (lowerFrom [] [] (kept route)) := by
  rw [← outline_append_residue, lowerFrom_append fun c => isClosing_of_mem_residue]
  rfl

theorem isFormed_normalizeRoute (spelling : String) : IsFormed (normalizeRoute spelling) := by
  have spelled : normalizeRoute spelling = String.ofList (form spelling.toList) := normalizeRoute_eq spelling
  rw [spelled]
  refine ⟨?_, ?_, fun last => ?_⟩
  · rw [String.toList_ofList, head?_form]
  · rw [lower, String.toList_ofList, lowerFrom_form]
  · rw [String.toList_ofList] at last
    rw [form_eq_root_of_getLast? last]

theorem kept_concat_slash {route : List Char} (head : route.head? = some '/') :
    kept (route ++ ['/']) = trimEnd (· == '/') route := by
  have starts : trimStart isBlank (route ++ ['/']) = route ++ ['/'] := by
    refine trimStart_eq_self fun c first => ?_
    rw [List.head?_append, head, Option.some_or, Option.some.injEq] at first
    rw [← first]
    exact isBlank_slash
  have ends : trimEnd isBlank (route ++ ['/']) = route ++ ['/'] := by
    refine trimEnd_eq_self fun c last => ?_
    rw [List.getLast?_concat, Option.some.injEq] at last
    rw [← last]
    exact isBlank_slash
  rw [kept, trimBoth, starts, ends, trimEnd_append (by simp)]

theorem normalizeRoute_concat_slash {route : String} (formed : IsFormed route) :
    normalizeRoute (String.ofList (route.toList ++ ['/'])) = route := by
  have lowered : lowerFrom [] [] route.toList = route.toList := by
    have lowers := congrArg String.toList formed.lowered
    rwa [lower, String.toList_ofList] at lowers
  have spelled := normalizeRoute_eq (String.ofList (route.toList ++ ['/']))
  rw [spelled, ← form, form_eq, String.toList_ofList, kept_concat_slash formed.rooted]
  by_cases root : route.toList.getLast? = some '/'
  · rw [formed.closed root]
    rfl
  · have uncut : trimEnd (· == '/') route.toList = route.toList := by
      refine trimEnd_eq_self fun c last => ?_
      rw [beq_eq_false_iff_ne]
      rintro rfl
      exact root last
    rw [uncut, lowered, rooted_of_head? formed.rooted, String.ofList_toList]

theorem isFormed_iff {route : String} : IsFormed route ↔ ∃ spelling, normalizeRoute spelling = route := by
  constructor
  · exact fun formed => ⟨_, normalizeRoute_concat_slash formed⟩
  · rintro ⟨spelling, rfl⟩
    exact isFormed_normalizeRoute spelling

end Route

namespace CompositeKey

variable {k k' : CompositeKey}

structure IsSound (k : CompositeKey) : Prop where
  method : ':' ∉ k.method.toList
  route : ∃ spelling, normalizeRoute spelling = k.route
  key : k.key.IsValid

theorem IsSound.delimited (sound : k.IsSound) : k.IsDelimited :=
  ⟨sound.method, Key.colon_notMem_of_isValid sound.key⟩

theorem IsBuilt.sound (built : k.IsBuilt) : k.IsSound := by
  have delimited := built.delimited
  obtain ⟨method, route, raw, max, key, -, parsed, rfl⟩ := built
  exact ⟨delimited.method, ⟨route, rfl⟩, Key.isValid_iff_parsed.2 ⟨raw, max, parsed⟩⟩

theorem isSound_iff :
    k.IsSound ↔ ':' ∉ k.method.toList ∧ Route.IsFormed k.route ∧ k.key.IsValid := by
  rw [Route.isFormed_iff]
  exact ⟨fun ⟨method, route, key⟩ => ⟨method, route, key⟩, fun ⟨method, route, key⟩ => ⟨method, route, key⟩⟩

theorem parse_render (k : CompositeKey) : codec.parse (codec.render k) = .ok k := by
  refine Json.Codec.parse_render rfl ?_ k
  simp [Json.Fields.AreFlat, Json.Schema.IsMember, Json.Schema.IsScalar, Json.Fields.names]

theorem toList_storageKey (k : CompositeKey) : k.storageKey.toList =
    k.method.toList ++ ':' :: (k.route.toList ++ ':' :: k.key.text.toList) := by
  simp [storageKey]

def IsPlain (k : CompositeKey) : Prop :=
  ':' ∉ k.method.toList ∧ ':' ∉ k.route.toList ∧ ':' ∉ k.key.text.toList

theorem isPlain_iff_count : k.IsPlain ↔ k.storageKey.toList.count ':' = 2 := by
  rw [toList_storageKey, IsPlain]
  simp only [← List.count_eq_zero, List.count_append, List.count_cons_self]
  omega

theorem eq_of_isPlain (plain : k.IsPlain) (same : k'.storageKey = k.storageKey) : k' = k := by
  have plain' : k'.IsPlain := by
    rw [isPlain_iff_count, same]
    exact isPlain_iff_count.1 plain
  exact (storageKey_inj ⟨plain'.1, plain'.2.2⟩ ⟨plain.1, plain.2.2⟩).1 same

theorem ofList_ne_of_split {s : String} {before behind : List Char} (split : s.toList = before ++ ':' :: behind) :
    String.ofList before ≠ s ∧ String.ofList behind ≠ s := by
  have length := congrArg List.length split
  rw [List.length_append, List.length_cons] at length
  constructor
  · rintro rfl
    rw [String.toList_ofList] at length
    omega
  · rintro rfl
    rw [String.toList_ofList] at length
    omega

theorem exists_other_of_not_isPlain (mixed : ¬ k.IsPlain) :
    ∃ k' : CompositeKey, k'.storageKey = k.storageKey ∧ k' ≠ k := by
  simp only [IsPlain, not_and_or, not_not] at mixed
  rcases mixed with within | within | within
  all_goals obtain ⟨before, behind, split⟩ := List.append_of_mem within
  · refine ⟨⟨String.ofList before, String.ofList (behind ++ ':' :: k.route.toList), k.key⟩, ?_, ?_⟩
    · rw [← String.toList_inj, toList_storageKey, toList_storageKey, split]
      simp
    · exact fun whole => (ofList_ne_of_split split).1 (congrArg method whole)
  · refine ⟨⟨k.method, String.ofList before, ⟨String.ofList (behind ++ ':' :: k.key.text.toList)⟩⟩, ?_, ?_⟩
    · rw [← String.toList_inj, toList_storageKey, toList_storageKey, split]
      simp
    · exact fun whole => (ofList_ne_of_split split).1 (congrArg route whole)
  · refine ⟨⟨k.method, String.ofList (k.route.toList ++ ':' :: before), ⟨String.ofList behind⟩⟩, ?_, ?_⟩
    · rw [← String.toList_inj, toList_storageKey, toList_storageKey, split]
      simp
    · exact fun whole => (ofList_ne_of_split split).2 (congrArg (·.key.text) whole)

theorem alone_iff_isPlain :
    (∀ text k', codec.parse text = .ok k' → k'.storageKey = k.storageKey → k' = k) ↔ k.IsPlain := by
  constructor
  · intro alone
    by_contra mixed
    obtain ⟨k', same, other⟩ := exists_other_of_not_isPlain mixed
    exact other (alone _ k' (parse_render k') same)
  · exact fun plain _ _ _ same => eq_of_isPlain plain same

-- What is built of accepted keys is sound. But every key is read from some text, and one that was read is
-- sound only if its parts happen to be so.
theorem reading_unchecked (key : Key) (k : CompositeKey) :
    (∀ raw max, Key.parse raw max = .ok key → key.IsValid) ∧
    (key.IsValid → ∃ raw max, Key.parse raw max = .ok key) ∧
    Key.codec.parse (Key.codec.render key) = .ok key ∧
    (∀ text, Key.codec.parse text = .ok key ↔ Json.parse text = .ok (.str key.text)) ∧
    (k.IsBuilt → k.IsSound) ∧
    codec.parse (codec.render k) = .ok k ∧
    (k.IsSound ↔ ':' ∉ k.method.toList ∧ Route.IsFormed k.route ∧ k.key.IsValid) ∧
    (k.IsSound → ∀ k' : CompositeKey, k'.IsSound → (k.storageKey = k'.storageKey ↔ k = k')) ∧
    ((∀ text k', codec.parse text = .ok k' → k'.storageKey = k.storageKey → k' = k) ↔ k.IsPlain) := by
  refine ⟨?_, ?_, ?_, fun text => ?_, ?_, ?_, ?_, ?_, ?_⟩
  · exact fun raw max parsed => Key.isValid_iff_parsed.2 ⟨raw, max, parsed⟩
  · exact Key.isValid_iff_parsed.1
  · exact Key.parse_render key
  · exact Key.codec_parse_iff
  · exact IsBuilt.sound
  · exact parse_render k
  · exact isSound_iff
  · exact fun sound k' sound' => storageKey_inj sound.delimited sound'.delimited
  · exact alone_iff_isPlain

def colonInKey : CompositeKey :=
  { method := "POST", route := "/orders", key := ⟨"a:b"⟩ }

def colonInRoute : CompositeKey :=
  { method := "POST", route := "/orders:a", key := ⟨"b"⟩ }

theorem colon_read_in_key :
    codec.parse "\x7b\"method\":\"POST\",\"route\":\"/orders\",\"key\":\"a:b\"\x7d" = .ok colonInKey ∧
      Key.parse "a:b" 16 = .error (.invalidCharacter ':' 1) ∧ ¬ colonInKey.IsSound ∧ colonInRoute.IsSound ∧
      colonInKey.storageKey = colonInRoute.storageKey ∧ colonInKey ≠ colonInRoute := by
  obtain ⟨-, -, -, -, -, read, sound, -, -⟩ := reading_unchecked colonInKey.key colonInKey
  obtain ⟨-, -, -, -, built, -, -, -, -⟩ := reading_unchecked colonInRoute.key colonInRoute
  refine ⟨?_, by decide, ?_, ?_, by decide, by decide⟩
  · have written : codec.render colonInKey =
        "\x7b\"method\":\"POST\",\"route\":\"/orders\",\"key\":\"a:b\"\x7d" := by decide
    rwa [written] at read
  · intro accepted
    have colon := (sound.1 accepted).2.2.own ':' (by decide)
    revert colon
    decide
  · exact built ⟨"POST", "/orders:a", "b", 1, ⟨"b"⟩, by decide, by decide, by decide⟩

end CompositeKey

end OncePerKey
