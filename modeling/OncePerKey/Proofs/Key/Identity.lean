import OncePerKey.Http.Message
import OncePerKey.Proofs.Key.Spelling
import OncePerKey.Proofs.Redis.LockSequence
import OncePerKey.Proofs.Redis.Sequence

set_option autoImplicit false

namespace OncePerKey

namespace Text

def cutFirst? (mark : Char) : List Char → Option (List Char × List Char)
  | [] => none
  | c :: rest =>
      if c = mark then some ([], rest)
      else (cutFirst? mark rest).map fun (before, behind) => (c :: before, behind)

def cutLast? (mark : Char) (cs : List Char) : Option (List Char × List Char) :=
  (cutFirst? mark cs.reverse).map fun (behind, before) => (before.reverse, behind.reverse)

variable {mark : Char}

theorem cutFirst?_append {before : List Char} (plain : mark ∉ before) (behind : List Char) :
    cutFirst? mark (before ++ mark :: behind) = some (before, behind) := by
  induction before with
  | nil => simp [cutFirst?]
  | cons c before ih =>
    obtain ⟨other, plain⟩ := not_or.1 (mt List.mem_cons.2 plain)
    simp [cutFirst?, Ne.symm other, ih plain]

theorem cutLast?_append (before : List Char) {behind : List Char} (plain : mark ∉ behind) :
    cutLast? mark (before ++ mark :: behind) = some (before, behind) := by
  have reversed : (before ++ mark :: behind).reverse = behind.reverse ++ mark :: before.reverse := by
    simp
  rw [cutLast?, reversed, cutFirst?_append (mt List.mem_reverse.1 plain)]
  simp

theorem asciiUpper_eq_colon {c : Char} (same : asciiUpper c = ':') : c = ':' := by
  unfold asciiUpper at same
  split at same
  · rename_i small
    simp only [Bool.and_eq_true, decide_eq_true_eq, Char.le_def, UInt32.le_iff_toNat_le] at small
    have bounds : 97 ≤ c.toNat ∧ c.toNat ≤ 122 := small
    have code := congrArg Char.toNat same
    rw [Utf8.toNat_ofNat (.inl (by omega))] at code
    simp only [Char.reduceToNat] at code
    omega
  · exact same

theorem mem_of_mem_trimBoth {p : Char → Bool} {c : Char} {cs : List Char}
    (present : c ∈ trimBoth p cs) : c ∈ cs := by
  have inside := (List.dropWhile_sublist p).subset (List.mem_reverse.1 present)
  exact (List.dropWhile_sublist p).subset (List.mem_reverse.1 inside)

end Text

namespace CompositeKey

def IsBuilt (k : CompositeKey) : Prop :=
  ∃ method route raw max key, Http.isToken method = true ∧ Key.parse raw max = .ok key ∧
    k = build method route key

structure IsDelimited (k : CompositeKey) : Prop where
  method : ':' ∉ k.method.toList
  key : ':' ∉ k.key.text.toList

def ofStorageKey? (text : String) : Option CompositeKey := do
  let (method, rest) ← Text.cutFirst? ':' text.toList
  let (route, key) ← Text.cutLast? ':' rest
  return { method := String.ofList method, route := String.ofList route, key := ⟨String.ofList key⟩ }

variable {k k' : CompositeKey}

theorem ofStorageKey?_storageKey (delimited : k.IsDelimited) : ofStorageKey? k.storageKey = some k := by
  have spelled : k.storageKey.toList =
      k.method.toList ++ ':' :: (k.route.toList ++ ':' :: k.key.text.toList) := by
    simp [storageKey]
  simp [ofStorageKey?, spelled, Text.cutFirst?_append delimited.method,
    Text.cutLast?_append k.route.toList delimited.key]

theorem colon_notMem_of_parse {raw : String} {max : Nat} {key : Key}
    (parsed : Key.parse raw max = .ok key) : ':' ∉ key.text.toList := by
  obtain ⟨rfl, -, -, own⟩ := Key.keyChars_of_parse parsed
  intro present
  have colon := own _ present
  contradiction

theorem colon_notMem_method {method route : String} {key : Key} (token : Http.isToken method = true) :
    ':' ∉ (build method route key).method.toList := by
  intro present
  simp only [build, Text.asciiUpperText, Text.trim, String.toList_ofList, List.mem_map] at present
  obtain ⟨c, inside, upper⟩ := present
  obtain rfl := Text.asciiUpper_eq_colon upper
  simp only [Http.isToken, Bool.and_eq_true, List.all_eq_true] at token
  have colon := token.2 _ (Text.mem_of_mem_trimBoth inside)
  contradiction

theorem IsBuilt.delimited (built : k.IsBuilt) : k.IsDelimited := by
  obtain ⟨method, route, raw, max, key, token, parsed, rfl⟩ := built
  exact ⟨colon_notMem_method token, colon_notMem_of_parse parsed⟩

theorem storageKey_inj (delimited : k.IsDelimited) (delimited' : k'.IsDelimited) :
    k.storageKey = k'.storageKey ↔ k = k' := by
  refine ⟨fun same => ?_, congrArg storageKey⟩
  have read := ofStorageKey?_storageKey delimited
  rw [same, ofStorageKey?_storageKey delimited'] at read
  exact (Option.some.inj read).symm

-- A storage key is that of one request only, and is read back at its first and its last colon.
theorem storage_identity (built : k.IsBuilt) (built' : k'.IsBuilt) (space : String) :
    (k.storageKey = k'.storageKey ↔ k = k') ∧ ofStorageKey? k.storageKey = some k ∧
      (Redis.responseName space k = Redis.responseName space k' ↔ k = k') ∧
      (Redis.lockName space k = Redis.lockName space k' ↔ k = k') ∧
      Redis.responseName space k ≠ Redis.lockName space k' := by
  have apart := storageKey_inj built.delimited built'.delimited
  refine ⟨apart, ofStorageKey?_storageKey built.delimited, ?_, ?_, ?_⟩
  · exact ⟨fun same => apart.1 (Redis.storageKey_of_responseName same), congrArg _⟩
  · exact ⟨fun same => apart.1 (Redis.storageKey_of_lockName same), congrArg _⟩
  · intro same
    simp [Redis.responseName, Redis.lockName, String.ext_iff] at same

def batchOrder : CompositeKey :=
  build "post" "/Orders:Batch/" ⟨"k-1"⟩

def singleOrder : CompositeKey :=
  build "POST" "/orders" ⟨"batch_k-1"⟩

theorem batch_told_from_single :
    batchOrder.storageKey = "POST:/orders:batch:k-1" ∧ batchOrder.IsBuilt ∧ singleOrder.IsBuilt ∧
      ofStorageKey? "POST:/orders:batch:k-1" = some batchOrder ∧
      batchOrder.storageKey ≠ singleOrder.storageKey ∧
      Redis.responseName "idem" batchOrder ≠ Redis.lockName "idem" singleOrder := by
  have spelled : batchOrder.storageKey = "POST:/orders:batch:k-1" := by decide
  have built : batchOrder.IsBuilt :=
    ⟨"post", "/Orders:Batch/", "k-1", 16, ⟨"k-1"⟩, by decide, by decide, rfl⟩
  have built' : singleOrder.IsBuilt :=
    ⟨"POST", "/orders", "batch_k-1", 16, ⟨"batch_k-1"⟩, by decide, by decide, rfl⟩
  obtain ⟨apart, read, -, -, names⟩ := storage_identity built built' "idem"
  exact ⟨spelled, built, built', spelled ▸ read, fun same => absurd (apart.1 same) (by decide), names⟩

end CompositeKey

end OncePerKey
