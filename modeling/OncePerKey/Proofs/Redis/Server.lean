import OncePerKey.Redis.Server

set_option autoImplicit false

namespace OncePerKey.Redis

def Command.deletes (name : String) : Command → Prop
  | .del other | .deleteIf other _ => other = name
  | _ => False

namespace Server

variable {s : Server} {now : Timestamp} {name : String} {entry : Entry}

theorem value?_of_lookup (there : s.entries.lookup name = some entry)
    (live : Entry.isLiveAt entry now = true) : s.value? now name = some entry.value := by
  simp [value?, there, Option.filter, live]

theorem lookup_erase_of_ne {other : String} (differ : name ≠ other)
    (there : s.entries.lookup name = some entry) :
    (s.erase other).entries.lookup name = some entry := by
  rw [erase, lookup_filter_of_ne differ]
  exact there

theorem lookup_put_of_ne {other : String} (differ : name ≠ other) (value : Bytes) (px : Option Nat)
    (there : s.entries.lookup name = some entry) :
    (s.put now other value px).entries.lookup name = some entry := by
  have kept := lookup_erase_of_ne differ there
  simpa [put, List.lookup_cons, beq_false_of_ne differ] using kept

theorem lookup_run {c : Command} (there : s.entries.lookup name = some entry)
    (live : Entry.isLiveAt entry now = true) (spared : ¬ c.deletes name) :
    (s.run now c).2.entries.lookup name = some entry := by
  cases c with
  | get other =>
    simp only [run]
    split <;> exact there
  | setAbsent other value px =>
    simp only [run]
    split
    · exact there
    · rename_i absent
      -- The name has a value, so it is another name that is set.
      have differ : name ≠ other := by
        rintro rfl
        rw [value?_of_lookup there live] at absent
        exact nomatch absent
      exact lookup_put_of_ne differ _ _ there
  | del other =>
    have differ : name ≠ other := fun same => spared same.symm
    exact lookup_erase_of_ne differ there
  | ping => exact there
  | deleteIf other value =>
    have differ : name ≠ other := fun same => spared same.symm
    simp only [run]
    split
    · exact there
    · split
      · exact lookup_erase_of_ne differ there
      · exact there
  | loadScript => exact there

theorem lookup_of_lookup_erase {other : String}
    (there : (s.erase other).entries.lookup name = some entry) : s.entries.lookup name = some entry := by
  by_cases same : name = other
  · subst same
    rw [erase, lookup_filter_self] at there
    cases there
  · rwa [erase, lookup_filter_of_ne same] at there

theorem lookup_of_run {c : Command} (there : (s.run now c).2.entries.lookup name = some entry) :
    s.entries.lookup name = some entry ∨
      ∃ text px, c = .setAbsent name text px ∧ (s.run now c).1 = .okay ∧
        entry = ⟨Utf8.encode text, some (now.toNanos + px * 1000000)⟩ := by
  cases c with
  | get other =>
    simp only [run] at there
    split at there <;> exact .inl there
  | setAbsent other text px =>
    simp only [run] at there ⊢
    split at there
    · exact .inl there
    · rename_i absent
      by_cases same : name = other
      · subst same
        simp only [put, List.lookup_cons, BEq.rfl, Option.some.injEq] at there
        exact .inr ⟨text, px, rfl, rfl, there.symm⟩
      · simp only [put, List.lookup_cons, beq_false_of_ne same] at there
        exact .inl (lookup_of_lookup_erase there)
  | del other => exact .inl (lookup_of_lookup_erase there)
  | ping | loadScript => exact .inl there
  | deleteIf other value =>
    simp only [run] at there
    split at there
    · exact .inl there
    · split at there
      · exact .inl (lookup_of_lookup_erase there)
      · exact .inl there

theorem lookup_of_value? {bytes : Bytes} (found : s.value? now name = some bytes) :
    ∃ entry, s.entries.lookup name = some entry ∧ entry.value = bytes ∧
      Entry.isLiveAt entry now = true := by
  obtain ⟨entry, kept, rfl⟩ := Option.map_eq_some_iff.1 found
  obtain ⟨there, live⟩ := Option.filter_eq_some_iff.1 kept
  exact ⟨entry, there, rfl, live⟩

theorem run_setAbsent (s : Server) (now : Timestamp) (name value : String) (px : Nat) :
    (s.run now (.setAbsent name value px)).1 =
      if (s.value? now name).isSome then .nil else .okay := by
  cases found : s.value? now name <;> simp [run, found]

theorem run_setAbsent_okay {value : String} {px : Nat}
    (answer : (s.run now (.setAbsent name value px)).1 = .okay) :
    s.value? now name = none ∧
      (s.run now (.setAbsent name value px)).2.entries.lookup name =
        some ⟨Utf8.encode value, some (now.toNanos + px * 1000000)⟩ := by
  cases absent : s.value? now name with
  | some other => simp [run, absent] at answer
  | none => simp [run, absent, put]

theorem run_get (s : Server) (now : Timestamp) (name : String) :
    (s.run now (.get name)).1 = ((s.value? now name).map Reply.data).getD .nil := by
  cases found : s.value? now name <;> simp [run, found]

end Server

end OncePerKey.Redis
