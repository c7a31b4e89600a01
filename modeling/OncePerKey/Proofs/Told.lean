import OncePerKey.Proofs.Discipline

set_option autoImplicit false

namespace OncePerKey

namespace Program

variable {Q : Type} {R : Q → Type} {α β : Type}

inductive Told : Program Q R α → List ((q : Q) × R q) → α → Prop where
  | done (a : α) : Told (.done a) [] a
  | ask (q : Q) (next : R q → Program Q R α) (r : R q) {tale : List ((q : Q) × R q)} {a : α}
      (rest : Told (next r) tale a) : Told (.ask q next) (⟨q, r⟩ :: tale) a

variable {tale : List ((q : Q) × R q)} {a : α} {b : β}

theorem told_done_iff {a' : α} : Told (.done a' : Program Q R α) tale a ↔ tale = [] ∧ a = a' := by
  constructor
  · intro told
    cases told
    exact ⟨rfl, rfl⟩
  · rintro ⟨rfl, rfl⟩
    exact .done a

theorem told_ask_iff {q : Q} {next : R q → Program Q R α} : Told (.ask q next) tale a ↔
    ∃ r rest, tale = ⟨q, r⟩ :: rest ∧ Told (next r) rest a := by
  constructor
  · intro told
    cases told with
    | ask _ _ r rest => exact ⟨r, _, rfl, rest⟩
  · rintro ⟨r, rest, rfl, told⟩
    exact .ask q next r told

theorem told_bind_iff {p : Program Q R α} {f : α → Program Q R β} : Told (p.bind f) tale b ↔
    ∃ a first rest, tale = first ++ rest ∧ Told p first a ∧ Told (f a) rest b := by
  induction p generalizing tale with
  | done a' =>
    simp only [done_bind, told_done_iff]
    constructor
    · intro told
      exact ⟨a', [], tale, rfl, ⟨rfl, rfl⟩, told⟩
    · rintro ⟨_, _, _, rfl, ⟨rfl, rfl⟩, told⟩
      exact told
  | ask q next ih =>
    simp only [ask_bind, told_ask_iff, ih]
    constructor
    · rintro ⟨r, _, rfl, a, first, rest, rfl, asked, told⟩
      exact ⟨a, ⟨q, r⟩ :: first, rest, rfl, ⟨r, first, rfl, asked⟩, told⟩
    · rintro ⟨a, _, rest, rfl, ⟨r, first, rfl, asked⟩, told⟩
      exact ⟨r, first ++ rest, rfl, a, first, rest, rfl, asked, told⟩

variable {σ : Type} {d : Discipline Q R σ} {ends : σ → α → Prop}

theorem Told.ends_of_obeys {p : Program Q R α} (told : p.Told tale a) {s : σ} (obeys : p.Obeys d ends s) :
    ends (tale.foldl (fun s e => d.after s e.1 e.2) s) a := by
  induction told generalizing s with
  | done => exact obeys
  | ask q next r _ ih => exact ih (obeys.2 r)

end Program

end OncePerKey
