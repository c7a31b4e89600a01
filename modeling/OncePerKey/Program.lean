set_option autoImplicit false

namespace OncePerKey

inductive Program (Q : Type) (R : Q → Type) (α : Type) : Type where
  | done (a : α)
  | ask (q : Q) (next : R q → Program Q R α)

namespace Program

variable {Q : Type} {R : Q → Type} {α β : Type}

def bind : Program Q R α → (α → Program Q R β) → Program Q R β
  | .done a, f => f a
  | .ask q next, f => .ask q fun r => (next r).bind f

instance : Monad (Program Q R) where
  pure := .done
  bind := bind

def perform (q : Q) : Program Q R (R q) :=
  .ask q .done

@[simp] theorem pure_eq_done (a : α) : (pure a : Program Q R α) = .done a := rfl

@[simp] theorem bind_eq (p : Program Q R α) (f : α → Program Q R β) : p >>= f = p.bind f := rfl

@[simp] theorem done_bind (a : α) (f : α → Program Q R β) : (done a : Program Q R α).bind f = f a :=
  rfl

@[simp] theorem ask_bind (q : Q) (next : R q → Program Q R α) (f : α → Program Q R β) :
    (ask q next).bind f = ask q fun r => (next r).bind f := rfl

theorem bind_assoc {γ : Type} (p : Program Q R α) (f : α → Program Q R β)
    (g : β → Program Q R γ) : (p.bind f).bind g = p.bind fun a => (f a).bind g := by
  induction p with
  | done => rfl
  | ask q next ih => simp [bind, ih]

-- Runs a program in surroundings that answer every question at once.
def run {σ : Type} (answer : (q : Q) → σ → R q × σ) : Program Q R α → σ → α × σ
  | .done a, s => (a, s)
  | .ask q next, s => run answer (next (answer q s).1) (answer q s).2

@[simp] theorem run_done {σ : Type} (answer : (q : Q) → σ → R q × σ) (a : α) (s : σ) :
    (done a : Program Q R α).run answer s = (a, s) := rfl

theorem run_bind {σ : Type} (answer : (q : Q) → σ → R q × σ) (p : Program Q R α)
    (f : α → Program Q R β) (s : σ) :
    (p.bind f).run answer s = (f (p.run answer s).1).run answer (p.run answer s).2 := by
  induction p generalizing s with
  | done => rfl
  | ask q next ih => simp [bind, run, ih]

def interpret {Q' : Type} {R' : Q' → Type} (answer : (q : Q) → Program Q' R' (R q)) :
    Program Q R α → Program Q' R' α
  | .done a => .done a
  | .ask q next => (answer q).bind fun r => interpret answer (next r)

def interpretWith {Q' : Type} {R' : Q' → Type} {σ : Type}
    (answer : (q : Q) → σ → Program Q' R' (R q × σ)) :
    Program Q R α → σ → Program Q' R' (α × σ)
  | .done a, s => .done (a, s)
  | .ask q next, s => (answer q s).bind fun r => interpretWith answer (next r.1) r.2

@[simp] theorem interpret_done {Q' : Type} {R' : Q' → Type}
    (answer : (q : Q) → Program Q' R' (R q)) (a : α) :
    (done a : Program Q R α).interpret answer = .done a := rfl

@[simp] theorem interpret_ask {Q' : Type} {R' : Q' → Type}
    (answer : (q : Q) → Program Q' R' (R q)) (q : Q) (next : R q → Program Q R α) :
    (ask q next).interpret answer = (answer q).bind fun r => (next r).interpret answer := rfl

@[simp] theorem interpretWith_ask {Q' : Type} {R' : Q' → Type} {σ : Type}
    (answer : (q : Q) → σ → Program Q' R' (R q × σ)) (q : Q) (next : R q → Program Q R α) (s : σ) :
    (ask q next).interpretWith answer s =
      (answer q s).bind fun r => (next r.1).interpretWith answer r.2 := rfl

end Program

end OncePerKey
