import Mathlib.Order.Basic
import Mathlib.Tactic.Common

/-!
# Effectful programs with errors and panics

A program reads and writes one state and ends in a value, an error or a panic.
The state reached is kept on all three exits: what a call did before it failed
stays done. Two kinds of rule speak about that state. `Within` is a preorder between
the two ends of every run, `Triple` a precondition with one postcondition for each exit.
-/
namespace Effect

/-- The three ways a call ends. -/
inductive Outcome (ε α : Type) where
  | ok (value : α)
  | err (error : ε)
  | panic (reason : String)
  deriving DecidableEq, Repr

namespace Outcome
variable {ε ε' α β : Type}

def isOk : Outcome ε α → Bool
  | .ok _ => true
  | _ => false

def isErr : Outcome ε α → Bool
  | .err _ => true
  | _ => false

def isPanic : Outcome ε α → Bool
  | .panic _ => true
  | _ => false

def bind : Outcome ε α → (α → Outcome ε β) → Outcome ε β
  | .ok a, f => f a
  | .err e, _ => .err e
  | .panic m, _ => .panic m

instance : Monad (Outcome ε) where
  pure := .ok
  bind := Outcome.bind

def mapErr (f : ε → ε') : Outcome ε α → Outcome ε' α
  | .ok a => .ok a
  | .err e => .err (f e)
  | .panic m => .panic m

/-- `ok` on a value, the given error on nothing (`Option::ok_or`). -/
def ofOption (e : ε) : Option α → Outcome ε α
  | some a => .ok a
  | none => .err e

@[simp] theorem pure_eq (a : α) : (pure a : Outcome ε α) = .ok a := rfl
@[simp] theorem bind_ok (a : α) (f : α → Outcome ε β) : (Outcome.ok a >>= f) = f a := rfl
@[simp] theorem bind_err (e : ε) (f : α → Outcome ε β) : (Outcome.err e >>= f) = .err e := rfl
@[simp] theorem bind_panic (m : String) (f : α → Outcome ε β) :
    (Outcome.panic m >>= f) = .panic m := rfl

@[simp] theorem isOk_ok (a : α) : (Outcome.ok a : Outcome ε α).isOk = true := rfl
@[simp] theorem isOk_err (e : ε) : (Outcome.err e : Outcome ε α).isOk = false := rfl
@[simp] theorem isOk_panic (m : String) : (Outcome.panic m : Outcome ε α).isOk = false := rfl

@[simp] theorem isErr_ok (a : α) : (Outcome.ok a : Outcome ε α).isErr = false := rfl
@[simp] theorem isErr_err (e : ε) : (Outcome.err e : Outcome ε α).isErr = true := rfl
@[simp] theorem isErr_panic (m : String) : (Outcome.panic m : Outcome ε α).isErr = false := rfl
@[simp] theorem isPanic_ok (a : α) : (Outcome.ok a : Outcome ε α).isPanic = false := rfl
@[simp] theorem isPanic_err (e : ε) : (Outcome.err e : Outcome ε α).isPanic = false := rfl
@[simp] theorem isPanic_panic (m : String) : (Outcome.panic m : Outcome ε α).isPanic = true := rfl

theorem isOk_iff {o : Outcome ε α} : o.isOk = true ↔ ∃ a, o = .ok a := by
  cases o <;> simp [isOk]

/-- The value of a call that has one. -/
def get : (o : Outcome ε α) → o.isOk = true → α
  | .ok a, _ => a

theorem eq_ok_get (o : Outcome ε α) (h : o.isOk = true) : o = .ok (o.get h) := by
  cases o with
  | ok a => rfl
  | err e => cases h
  | panic m => cases h

/-- A composite value is reached through both of its parts. -/
theorem bind_eq_ok {o : Outcome ε α} {f : α → Outcome ε β} {b : β} :
    (o >>= f) = .ok b ↔ ∃ a, o = .ok a ∧ f a = .ok b := by
  cases o with
  | ok a => simp
  | err e => simp
  | panic m => simp

/-- A composite does not panic when neither of the parts it runs does. -/
theorem bind_isPanic {o : Outcome ε α} {f : α → Outcome ε β} : (o >>= f).isPanic = false ↔
    o.isPanic = false ∧ ∀ a, o = .ok a → (f a).isPanic = false := by
  cases o with
  | ok a => simp
  | err e => simp
  | panic m => simp

theorem mapErr_eq_ok {f : ε → ε'} {o : Outcome ε α} {a : α} :
    o.mapErr f = .ok a ↔ o = .ok a := by
  cases o <;> simp [mapErr]

theorem mapErr_isPanic {f : ε → ε'} {o : Outcome ε α} : (o.mapErr f).isPanic = o.isPanic := by
  cases o <;> rfl

end Outcome

/-- What a loop body asks for: another round, or to stop with a value. -/
inductive LoopControl (β : Type) where
  | continue
  | break (value : β)
  deriving DecidableEq, Repr

/-- Why a loop over kernel answers ended. -/
inductive LoopExit (β : Type) where
  | early (value : β)
  | wouldBlock
  deriving DecidableEq, Repr

/-- A program over the state `σ`. -/
def Prog (σ ε α : Type) := σ → Outcome ε α × σ

namespace Prog
variable {σ τ ε ε' α β : Type}

def pure (a : α) : Prog σ ε α := fun s => (.ok a, s)

def bind (p : Prog σ ε α) (f : α → Prog σ ε β) : Prog σ ε β := fun s =>
  match p s with
  | (.ok a, t) => f a t
  | (.err e, t) => (.err e, t)
  | (.panic m, t) => (.panic m, t)

instance : Monad (Prog σ ε) where
  pure := Prog.pure
  bind := Prog.bind

def throw (e : ε) : Prog σ ε α := fun s => (.err e, s)
def panic (m : String) : Prog σ ε α := fun s => (.panic m, s)
def read : Prog σ ε σ := fun s => (.ok s, s)
def modify (f : σ → σ) : Prog σ ε Unit := fun s => (.ok (), f s)

/-- Raise an outcome that was computed without touching the state. -/
def lift (o : Outcome ε α) : Prog σ ε α := fun s => (o, s)

def mapErr (f : ε → ε') (p : Prog σ ε α) : Prog σ ε' α := fun s =>
  ((p s).1.mapErr f, (p s).2)

/-- Run a fallible program and hand its result, success or error, to the caller. -/
def result (p : Prog σ ε α) : Prog σ ε' (Except ε α) := fun s =>
  match p s with
  | (.ok a, t) => (.ok (.ok a), t)
  | (.err e, t) => (.ok (.error e), t)
  | (.panic m, t) => (.panic m, t)

/-- `Result::expect`: an error becomes a panic. -/
def expect (m : String) (p : Prog σ ε α) : Prog σ ε' α := fun s =>
  match p s with
  | (.ok a, t) => (.ok a, t)
  | (.err _, t) => (.panic m, t)
  | (.panic r, t) => (.panic r, t)

/-- Run a program on a component of the state. -/
def focus (get : σ → τ) (set : τ → σ → σ) (p : Prog τ ε α) : Prog σ ε α := fun s =>
  ((p (get s)).1, set (p (get s)).2 s)

/-- Run the program on a value, if there is one. -/
def forSome (value : Option α) (p : α → Prog σ ε Unit) : Prog σ ε Unit :=
  match value with
  | some a => p a
  | none => pure ()

/-- Consume a finite supply of answers until the body stops the loop. -/
def untilBreak (body : α → Prog σ ε (LoopControl β)) : List α → Prog σ ε (Option β)
  | [] => pure none
  | a :: rest => bind (body a) fun
      | .continue => untilBreak body rest
      | .break value => pure (some value)

/-- Run the body on every element in place; the first failure stops the loop and
leaves the elements behind it as they were. -/
def eachMut (body : Prog (α × σ) ε Unit) : List α → σ → Outcome ε Unit × List α × σ
  | [], s => (.ok (), [], s)
  | a :: rest, s =>
      match body (a, s) with
      | (.ok _, b, t) =>
          ((eachMut body rest t).1, b :: (eachMut body rest t).2.1, (eachMut body rest t).2.2)
      | (.err e, b, t) => (.err e, b :: rest, t)
      | (.panic m, b, t) => (.panic m, b :: rest, t)

theorem eachMut_length (body : Prog (α × σ) ε Unit) (l : List α) (s : σ) :
    (eachMut body l s).2.1.length = l.length := by
  induction l generalizing s with
  | nil => rfl
  | cons a rest ih =>
      unfold eachMut
      split
      · simp [ih]
      · rfl
      · rfl

/-- A body that keeps a key of its element keeps the keys of the list. -/
theorem eachMut_map {κ : Type} {body : Prog (α × σ) ε Unit} (key : α → κ)
    (frame : ∀ s, key (body s).2.1 = key s.1) (l : List α) (s : σ) :
    (eachMut body l s).2.1.map key = l.map key := by
  induction l generalizing s with
  | nil => rfl
  | cons a rest ih =>
      have head := frame (a, s)
      unfold eachMut
      split
      · next u b t run => rw [run] at head; simp only [List.map_cons, head, ih]
      · next e b t run => rw [run] at head; simp only [List.map_cons, head]
      · next m b t run => rw [run] at head; simp only [List.map_cons, head]

/-- The state a run reaches when it ends as it is known to. -/
theorem exists_of_fst {r : Outcome ε α × σ} {o : Outcome ε α} (h : r.1 = o) : ∃ t, r = (o, t) :=
  ⟨r.2, Prod.ext h rfl⟩

theorem pure_apply (a : α) (s : σ) : (Pure.pure a : Prog σ ε α) s = (.ok a, s) := rfl

theorem bind_apply (p : Prog σ ε α) (f : α → Prog σ ε β) (s : σ) :
    (p >>= f) s = match p s with
      | (.ok a, t) => f a t
      | (.err e, t) => (.err e, t)
      | (.panic m, t) => (.panic m, t) := rfl

theorem bind_of_ok {p : Prog σ ε α} {s t : σ} {a : α} (run : p s = (.ok a, t))
    (f : α → Prog σ ε β) : (p >>= f) s = f a t := by
  rw [bind_apply, run]

protected theorem bind_assoc {γ : Type} (p : Prog σ ε α) (f : α → Prog σ ε β)
    (g : β → Prog σ ε γ) : (p >>= f) >>= g = p >>= fun a => f a >>= g := by
  funext s
  simp only [bind_apply]
  rcases p s with ⟨a | e | m, t⟩
  · rfl
  · rfl
  · rfl

/-- A composite whose first part fails goes no further. -/
theorem bind_isErr {p : Prog σ ε α} {s : σ} (failed : (p s).1.isErr = true) (f : α → Prog σ ε β) :
    ((p >>= f) s).1.isErr = true := by
  rw [bind_apply]
  split <;> next run => rw [run] at failed; first | rfl | cases failed

/-- A composite ends in its second part, or its first part ended it. -/
theorem bind_cases {p : Prog σ ε α} {f : α → Prog σ ε β} {s t : σ} {o : Outcome ε β}
    (h : (p >>= f) s = (o, t)) :
    (∃ a u, p s = (.ok a, u) ∧ f a u = (o, t)) ∨
      (∃ e, p s = (.err e, t) ∧ o = .err e) ∨ ∃ m, p s = (.panic m, t) ∧ o = .panic m := by
  rw [bind_apply] at h
  split at h
  · next a u hp => exact Or.inl ⟨a, u, hp, h⟩
  · next e u hp => cases h; exact Or.inr (Or.inl ⟨e, hp, rfl⟩)
  · next m u hp => cases h; exact Or.inr (Or.inr ⟨m, hp, rfl⟩)

theorem bind_eq_ok {p : Prog σ ε α} {f : α → Prog σ ε β} {s t : σ} {b : β} :
    (p >>= f) s = (.ok b, t) ↔ ∃ a u, p s = (.ok a, u) ∧ f a u = (.ok b, t) := by
  constructor
  · intro h
    obtain ⟨a, u, hp, hf⟩ | ⟨e, -, ho⟩ | ⟨m, -, ho⟩ := bind_cases h
    · exact ⟨a, u, hp, hf⟩
    · cases ho
    · cases ho
  · rintro ⟨a, u, hp, hf⟩
    rw [bind_apply, hp]
    exact hf

theorem mapErr_eq_ok {f : ε → ε'} {p : Prog σ ε α} {s t : σ} {a : α} :
    p.mapErr f s = (.ok a, t) ↔ p s = (.ok a, t) := by
  constructor
  · intro h
    have value : (p s).1 = .ok a := Outcome.mapErr_eq_ok.mp (congrArg Prod.fst h)
    have state : (p s).2 = t := congrArg Prod.snd h
    exact Prod.ext value state
  · intro h
    simp [mapErr, h, Outcome.mapErr]

theorem result_eq_ok {p : Prog σ ε α} {s t : σ} {r : Except ε α} :
    (p.result s : Outcome ε' (Except ε α) × σ) = (.ok r, t) ↔
      (∃ a, p s = (.ok a, t) ∧ r = .ok a) ∨ ∃ e, p s = (.err e, t) ∧ r = .error e := by
  unfold result
  constructor
  · intro h
    split at h
    · next a u run => cases h; exact Or.inl ⟨a, run, rfl⟩
    · next e u run => cases h; exact Or.inr ⟨e, run, rfl⟩
    · cases h
  · rintro (⟨a, run, rfl⟩ | ⟨e, run, rfl⟩)
    · rw [run]
    · rw [run]

theorem bind_result_ok {p : Prog σ ε α} {s t : σ} {a : α} (run : p s = (.ok a, t))
    (f : Except ε α → Prog σ ε' β) : (p.result >>= f) s = f (.ok a) t :=
  bind_of_ok (result_eq_ok.mpr (Or.inl ⟨a, run, rfl⟩)) f

theorem bind_result_err {p : Prog σ ε α} {s t : σ} {e : ε} (run : p s = (.err e, t))
    (f : Except ε α → Prog σ ε' β) : (p.result >>= f) s = f (.error e) t :=
  bind_of_ok (result_eq_ok.mpr (Or.inr ⟨e, run, rfl⟩)) f

/-- A loop over two supplies in a row goes on to the second when the first is used up. -/
theorem untilBreak_append {body : α → Prog σ ε (LoopControl β)} (l m : List α) :
    untilBreak body (l ++ m) = untilBreak body l >>= fun
      | none => untilBreak body m
      | some value => Pure.pure (some value) := by
  induction l with
  | nil => rfl
  | cons a rest ih =>
      funext s
      simp only [List.cons_append, untilBreak, ih]
      show bind (body a) _ s = bind (bind (body a) _) _ s
      unfold bind
      cases h : body a s with
      | mk o t =>
          cases o with
          | ok control => cases control <;> rfl
          | err e => rfl
          | panic m => rfl

/-- A loop uses its supply up, or it ends with the body at one member of it. -/
theorem untilBreak_ends {body : α → Prog σ ε (LoopControl β)} {l : List α} {s t : σ}
    {o : Outcome ε (Option β)} (h : untilBreak body l s = (o, t)) : o = .ok none ∨
      ∃ before a after u, l = before ++ a :: after ∧ untilBreak body before s = (.ok none, u) ∧
        ((∃ b, o = .ok (some b) ∧ body a u = (.ok (.break b), t)) ∨
          (∃ e, o = .err e ∧ body a u = (.err e, t)) ∨ ∃ m, o = .panic m ∧
          body a u = (.panic m, t)) := by
  induction l generalizing s with
  | nil =>
      cases h
      exact Or.inl rfl
  | cons a rest ih =>
      obtain ⟨control, u, run, h⟩ | ⟨e, run, rfl⟩ | ⟨m, run, rfl⟩ := bind_cases h
      · cases control with
        | «break» b =>
            cases h
            exact Or.inr ⟨[], a, rest, s, rfl, rfl, Or.inl ⟨b, rfl, run⟩⟩
        | «continue» =>
            refine (ih h).imp id ?_
            rintro ⟨before, other, after, v, rfl, reaches, ends⟩
            exact ⟨a :: before, other, after, v, rfl, (bind_of_ok run _).trans reaches, ends⟩
      · exact Or.inr ⟨[], a, rest, s, rfl, rfl, Or.inr (Or.inl ⟨e, rfl, run⟩)⟩
      · exact Or.inr ⟨[], a, rest, s, rfl, rfl, Or.inr (Or.inr ⟨m, rfl, run⟩)⟩

theorem lift_ofOption_ok {x : Option α} {e : ε} {s t : σ} {a : α}
    (h : lift (Outcome.ofOption e x) s = (.ok a, t)) : x = some a := by
  cases x with
  | none => simp [lift, Outcome.ofOption] at h
  | some b =>
      simp only [lift, Outcome.ofOption, Prod.mk.injEq, Outcome.ok.injEq] at h
      rw [h.1]

/-- Dropping the value of a program leaves the state it ends in. -/
theorem bind_snd_of_pure (p : Prog σ ε α) (b : β) (s : σ) :
    ((p >>= fun _ => (Pure.pure b : Prog σ ε β)) s).2 = (p s).2 := by
  rw [bind_apply]
  split <;> simp_all [pure_apply]

theorem expect_eq_ok {m : String} {p : Prog σ ε α} {s t : σ} {a : α} :
    (p.expect m s : Outcome ε' α × σ) = (.ok a, t) ↔ p s = (.ok a, t) := by
  unfold expect
  split <;> next run => simp [run]

theorem expect_snd (m : String) (p : Prog σ ε α) (s : σ) :
    (p.expect m s : Outcome ε' α × σ).2 = (p s).2 := by
  unfold expect
  split <;> next run => rw [run]

/-- However the program ends, its two ends are related. -/
def Within (R : σ → σ → Prop) (p : Prog σ ε α) : Prop := ∀ s, R s (p s).2

namespace Within
variable {R : σ → σ → Prop} {p : Prog σ ε α}

theorem pure (refl : ∀ s, R s s) (a : α) : Within R (Pure.pure a : Prog σ ε α) := refl

theorem panic (refl : ∀ s, R s s) (m : String) : Within R (Prog.panic m : Prog σ ε α) := refl

theorem lift (refl : ∀ s, R s s) (o : Outcome ε α) : Within R (Prog.lift o : Prog σ ε α) := refl

theorem bind {f : α → Prog σ ε β} (trans : ∀ {s t u}, R s t → R t u → R s u) (first : Within R p)
    (rest : ∀ a, Within R (f a)) : Within R (p >>= f) := by
  intro s
  have head := first s
  rw [bind_apply]
  split
  · next a t run => rw [run] at head; exact trans head (rest a t)
  · next e t run => rw [run] at head; exact head
  · next m t run => rw [run] at head; exact head

theorem mapErr (f : ε → ε') (h : Within R p) : Within R (p.mapErr f) := h

theorem result (h : Within R p) : Within R (p.result : Prog σ ε' (Except ε α)) := by
  intro s
  have := h s
  revert this
  unfold Prog.result
  split <;> next run => rw [run]; exact id

theorem expect (m : String) (h : Within R p) : Within R (p.expect m : Prog σ ε' α) := by
  intro s
  rw [expect_snd]
  exact h s

/-- A program that starts by reading the state. -/
theorem read {f : σ → Prog σ ε α} (h : ∀ s, R s (f s s).2) : Within R (Prog.read >>= f) := h

/-- The same, where it does not matter what was read. -/
theorem reading {f : σ → Prog σ ε α} (h : ∀ s, Within R (f s)) : Within R (Prog.read >>= f) :=
  fun s => h s s

theorem forSome {value : Option α} {p : α → Prog σ ε Unit} (refl : ∀ s, R s s)
    (h : ∀ a, value = some a → Within R (p a)) : Within R (Prog.forSome value p) := by
  cases value with
  | none => exact refl
  | some a => exact h a rfl

/-- A loop over elements in place, with the elements left out of the relation. -/
theorem eachMut {body : Prog (α × σ) ε Unit} (refl : ∀ s, R s s)
    (trans : ∀ {s t u}, R s t → R t u → R s u) (h : Within (fun s t => R s.2 t.2) body)
    (l : List α) (s : σ) : R s (Prog.eachMut body l s).2.2 := by
  induction l generalizing s with
  | nil => exact refl s
  | cons a rest ih =>
      have head := h (a, s)
      unfold Prog.eachMut
      split
      · next u b t run => rw [run] at head; exact trans head (ih t)
      · next e b t run => rw [run] at head; exact head
      · next m b t run => rw [run] at head; exact head

theorem untilBreak {β : Type} {body : α → Prog σ ε (LoopControl β)} (refl : ∀ s, R s s)
    (trans : ∀ {s t u}, R s t → R t u → R s u) (h : ∀ a, Within R (body a)) (l : List α) :
    Within R (Prog.untilBreak body l) := by
  induction l with
  | nil => exact refl
  | cons a rest ih =>
      refine bind trans (h a) fun control => ?_
      cases control with
      | «continue» => exact ih
      | «break» value => exact refl

end Within

/-- The program ends with a value or with an error. -/
def Returns (p : Prog σ ε α) : Prop := ∀ s, (p s).1.isPanic = false

namespace Returns
variable {p : Prog σ ε α}

theorem pure (a : α) : Returns (Pure.pure a : Prog σ ε α) := fun _ => rfl

theorem lift {o : Outcome ε α} (h : o.isPanic = false) : Returns (Prog.lift o : Prog σ ε α) := fun _ => h

theorem bind {f : α → Prog σ ε β} (first : Returns p) (rest : ∀ a, Returns (f a)) :
    Returns (p >>= f) := by
  intro s
  have head := first s
  rw [bind_apply]
  split
  · exact rest _ _
  · rfl
  · next run => rw [run] at head; exact head

theorem mapErr (f : ε → ε') (h : Returns p) : Returns (p.mapErr f) :=
  fun s => Outcome.mapErr_isPanic.trans (h s)

/-- A loop over elements returns when its body does on each of them. -/
theorem eachMut {body : Prog (α × σ) ε Unit} {l : List α}
    (h : ∀ a ∈ l, ∀ s, (body (a, s)).1.isPanic = false) (s : σ) :
    (Prog.eachMut body l s).1.isPanic = false := by
  induction l generalizing s with
  | nil => rfl
  | cons a rest ih =>
      obtain ⟨here, others⟩ := List.forall_mem_cons.mp h
      have head := here s
      unfold Prog.eachMut
      split
      · exact ih others _
      · rfl
      · next run => rw [run] at head; exact head

end Returns

/-- From every state of `pre` the program ends with a value in `ok` or with an error in
`err`; that it panics is left open when `panics` holds and excluded when it does not. -/
def Triple (panics : Prop) (pre : σ → Prop) (p : Prog σ ε α) (ok : α → σ → Prop)
    (err : ε → σ → Prop) : Prop :=
  ∀ s, pre s → match p s with
    | (.ok a, t) => ok a t
    | (.err e, t) => err e t
    | (.panic _, _) => panics

namespace Triple
variable {panics : Prop} {pre : σ → Prop} {p : Prog σ ε α} {ok : α → σ → Prop} {err : ε → σ → Prop}

theorem ok_of {s t : σ} {a : α} (h : Triple panics pre p ok err) (hs : pre s)
    (run : p s = (.ok a, t)) : ok a t := by
  have := h s hs
  rwa [run] at this

/-- A program that can neither fail nor panic ends with a value. -/
theorem completes {s : σ} (h : Triple False pre p ok fun _ _ => False) (hs : pre s) :
    ∃ a t, p s = (.ok a, t) ∧ ok a t := by
  have := h s hs
  revert this
  split
  · next a t run => exact fun holds => ⟨a, t, run, holds⟩
  · exact False.elim
  · exact False.elim

theorem pure {a : α} (h : ∀ s, pre s → ok a s) :
    Triple panics pre (Pure.pure a : Prog σ ε α) ok err := h

theorem throw {e : ε} (h : ∀ s, pre s → err e s) :
    Triple panics pre (Prog.throw e : Prog σ ε α) ok err := h

theorem panic {m : String} (h : ∀ s, pre s → panics) :
    Triple panics pre (Prog.panic m : Prog σ ε α) ok err := h

/-- A program that starts by reading the state goes on with the state it starts in. -/
theorem read {f : σ → Prog σ ε α} (h : ∀ s, pre s → Triple panics (· = s) (f s) ok err) :
    Triple panics pre (Prog.read >>= f) ok err := fun s hs => h s hs s rfl

theorem conseq {pre' : σ → Prop} {ok' : α → σ → Prop} {err' : ε → σ → Prop}
    (h : Triple panics pre' p ok' err') (before : ∀ s, pre s → pre' s)
    (after : ∀ a s, ok' a s → ok a s) (failed : ∀ e s, err' e s → err e s) :
    Triple panics pre p ok err := by
  intro s hs
  have := h s (before s hs)
  revert this
  split
  · exact after _ _
  · exact failed _ _
  · exact id

/-- Two things that hold after the same program hold together. -/
theorem both {panics' : Prop} {pre' : σ → Prop} {ok' : α → σ → Prop} {err' : ε → σ → Prop}
    (h : Triple panics pre p ok err) (k : Triple panics' pre' p ok' err') :
    Triple (panics ∧ panics') (fun s => pre s ∧ pre' s) p (fun a s => ok a s ∧ ok' a s)
      (fun e s => err e s ∧ err' e s) := by
  intro s hs
  have left := h s hs.1
  have right := k s hs.2
  revert left right
  split <;> exact fun left right => ⟨left, right⟩

/-- The middle assertion is the argument; the failure of either part is that of the whole. -/
theorem bind {f : α → Prog σ ε β} {done : β → σ → Prop} (mid : α → σ → Prop)
    (first : Triple panics pre p mid err) (rest : ∀ a, Triple panics (mid a) (f a) done err) :
    Triple panics pre (p >>= f) done err := by
  intro s hs
  have head := first s hs
  rw [bind_apply]
  revert head
  split
  · next a t run => exact rest a t
  · next e t run => exact id
  · next m t run => exact id

theorem mapErr {f : ε → ε'} {failed : ε' → σ → Prop}
    (h : Triple panics pre p ok fun e => failed (f e)) :
    Triple panics pre (p.mapErr f) ok failed := by
  intro s hs
  have := h s hs
  revert this
  unfold Prog.mapErr
  split <;> next run => rw [run]; exact id

/-- The caller of `result` meets both exits as values. -/
theorem result {done : Except ε α → σ → Prop} {failed : ε' → σ → Prop}
    (h : Triple panics pre p (fun a => done (.ok a)) fun e => done (.error e)) :
    Triple panics pre (p.result : Prog σ ε' (Except ε α)) done failed := by
  intro s hs
  have := h s hs
  revert this
  unfold Prog.result
  split <;> exact id

theorem expect {m : String} {failed : ε' → σ → Prop}
    (h : Triple panics pre p ok fun _ _ => panics) :
    Triple panics pre (p.expect m : Prog σ ε' α) ok failed := by
  intro s hs
  have := h s hs
  revert this
  unfold Prog.expect
  split <;> exact id

theorem forSome {value : Option α} {p : α → Prog σ ε Unit} {done : σ → Prop}
    (absent : ∀ s, pre s → done s) (h : ∀ a, Triple panics pre (p a) (fun _ => done) err) :
    Triple panics pre (Prog.forSome value p) (fun _ => done) err := by
  cases value with
  | none => exact absent
  | some a => exact h a

theorem lift {o : Outcome ε α} (value : ∀ a s, o = .ok a → pre s → ok a s)
    (error : ∀ e s, o = .err e → pre s → err e s) (panic : ∀ m s, o = .panic m → pre s → panics) :
    Triple panics pre (Prog.lift o) ok err := by
  intro s hs
  cases o with
  | ok a => exact value a s rfl hs
  | err e => exact error e s rfl hs
  | panic m => exact panic m s rfl hs

/-- A loop with an invariant that knows which answers are still to come. -/
theorem untilBreak {τ : Type} {body : τ → Prog σ ε (LoopControl β)} (inv : List τ → σ → Prop)
    {early : β → σ → Prop}
    (step : ∀ a rest, Triple panics (inv (a :: rest)) (body a)
      (fun | .continue => inv rest | .break b => early b) err) :
    ∀ l, Triple panics (inv l) (Prog.untilBreak body l)
      (fun | none => inv [] | some b => early b) err := by
  intro l
  induction l with
  | nil => exact fun s hs => hs
  | cons a rest ih =>
      refine bind _ (step a rest) fun control => ?_
      cases control with
      | «continue» => exact ih
      | «break» b => exact fun s hs => hs

end Triple

/-- From every state of `pre` the program ends with a value in `ok`, or it fails or panics in
a state of `stop`. -/
def Leads (pre : σ → Prop) (p : Prog σ ε α) (ok : α → σ → Prop) (stop : σ → Prop) : Prop :=
  ∀ s, pre s → match p s with
    | (.ok a, t) => ok a t
    | (.err _, t) => stop t
    | (.panic _, t) => stop t

namespace Leads
variable {pre stop : σ → Prop} {p : Prog σ ε α} {ok : α → σ → Prop}

theorem pure {a : α} (h : ∀ s, pre s → ok a s) : Leads pre (Pure.pure a : Prog σ ε α) ok stop := h

theorem throw {e : ε} (h : ∀ s, pre s → stop s) :
    Leads pre (Prog.throw e : Prog σ ε α) ok stop := h

theorem lift {o : Outcome ε α} (value : ∀ a s, o = .ok a → pre s → ok a s)
    (ends : ∀ s, pre s → stop s) : Leads pre (Prog.lift o) ok stop := by
  intro s hs
  cases o with
  | ok a => exact value a s rfl hs
  | err e => exact ends s hs
  | panic m => exact ends s hs

theorem read {f : σ → Prog σ ε α} (h : ∀ s, Leads (fun t => pre t ∧ t = s) (f s) ok stop) :
    Leads pre (Prog.read >>= f) ok stop := fun s hs => h s s ⟨hs, rfl⟩

theorem reading {f : σ → Prog σ ε α} (h : ∀ s, Leads pre (f s) ok stop) :
    Leads pre (Prog.read >>= f) ok stop := fun s hs => h s s hs

theorem bind {f : α → Prog σ ε β} {done : β → σ → Prop} (mid : α → σ → Prop)
    (first : Leads pre p mid stop) (rest : ∀ a, Leads (mid a) (f a) done stop) :
    Leads pre (p >>= f) done stop := by
  intro s hs
  have head := first s hs
  rw [bind_apply]
  revert head
  split
  · next a t run => exact rest a t
  · exact id
  · exact id

theorem mapErr (f : ε → ε') (h : Leads pre p ok stop) : Leads pre (p.mapErr f) ok stop := by
  intro s hs
  have := h s hs
  revert this
  unfold Prog.mapErr
  split <;> next run => rw [run]; exact id

/-- A program whose runs stay within a relation keeps what the relation carries over. -/
theorem within {R : σ → σ → Prop} {post : σ → Prop} (h : Within R p)
    (carry : ∀ s t, pre s → R s t → post t) : Leads pre p (fun _ => post) post := by
  intro s hs
  have := carry s _ hs (h s)
  revert this
  split <;> next run => rw [run]; exact id

theorem conseq {pre' stop' : σ → Prop} {ok' : α → σ → Prop} (h : Leads pre' p ok' stop')
    (before : ∀ s, pre s → pre' s) (after : ∀ a s, ok' a s → ok a s)
    (stopped : ∀ s, stop' s → stop s) : Leads pre p ok stop := by
  intro s hs
  have := h s (before s hs)
  revert this
  split
  · exact after _ _
  · exact stopped _
  · exact stopped _

theorem focus {get : τ → σ} {set : σ → τ → τ} (lens : ∀ s t, get (set s t) = s)
    (h : Leads pre p ok stop) : Leads (fun t => pre (get t)) (Prog.focus get set p)
      (fun a t => ok a (get t)) fun t => stop (get t) := by
  intro t ht
  have := h (get t) ht
  revert this
  unfold Prog.focus
  cases p (get t) with
  | mk o s => cases o <;> simp only [lens] <;> exact id

theorem any : Leads pre p (fun _ _ => True) fun _ => True := by
  intro s _
  split <;> trivial

theorem ok_of {s t : σ} {a : α} (h : Leads pre p ok stop) (hs : pre s) (run : p s = (.ok a, t)) :
    ok a t := by
  have := h s hs
  rwa [run] at this

/-- Of the values nothing more has to be known than how they come about. -/
theorem of_ok (h : ∀ s a t, pre s → p s = (.ok a, t) → ok a t) : Leads pre p ok fun _ => True := by
  intro s hs
  split
  · next a t run => exact h s a t hs run
  · trivial
  · trivial

/-- What the two say of the same program holds together. -/
theorem both {pre' stop' : σ → Prop} {ok' : α → σ → Prop} (h : Leads pre p ok stop)
    (k : Leads pre' p ok' stop') : Leads (fun s => pre s ∧ pre' s) p
      (fun a s => ok a s ∧ ok' a s) fun s => stop s ∧ stop' s := by
  intro s hs
  have left := h s hs.1
  have right := k s hs.2
  revert left right
  split <;> exact fun left right => ⟨left, right⟩

/-- The caller of `result` goes on from an error, too. -/
theorem result (h : Leads pre p ok stop) : Leads pre (p.result : Prog σ ε' (Except ε α))
    (fun | .ok a => ok a | .error _ => stop) stop := by
  intro s hs
  have := h s hs
  revert this
  unfold Prog.result
  split <;> exact id

/-- A loop whose body finds and leaves the invariant until it breaks off. -/
theorem untilBreak {τ : Type} {body : τ → Prog σ ε (LoopControl β)} {early : β → σ → Prop}
    (step : ∀ a, Leads pre (body a) (fun | .continue => pre | .break b => early b) stop)
    (l : List τ) : Leads pre (Prog.untilBreak body l) (fun | none => pre | some b => early b) stop := by
  induction l with
  | nil => exact fun s hs => hs
  | cons a rest ih =>
      refine bind _ (step a) fun control => ?_
      cases control with
      | «continue» => exact ih
      | «break» b => exact fun s hs => hs

/-- What holds on every exit holds of the state reached. -/
theorem snd {post : σ → Prop} (h : Leads pre p (fun _ => post) post) {s : σ} (hs : pre s) :
    post (p s).2 := by
  have := h s hs
  revert this
  split <;> next run => rw [run]; exact id

end Leads

/-- From every state of `pre` the program ends in a state of its exit: with a value in `ok`,
with an error in `err`, with a panic in `panic`. -/
def Exits (pre : σ → Prop) (p : Prog σ ε α) (ok : α → σ → Prop) (err : ε → σ → Prop)
    (panic : σ → Prop) : Prop :=
  ∀ s, pre s → match p s with
    | (.ok a, t) => ok a t
    | (.err e, t) => err e t
    | (.panic _, t) => panic t

namespace Exits
variable {pre panic : σ → Prop} {p : Prog σ ε α} {ok : α → σ → Prop} {err : ε → σ → Prop}

theorem pure {a : α} (h : ∀ s, pre s → ok a s) :
    Exits pre (Pure.pure a : Prog σ ε α) ok err panic := h

theorem throw {e : ε} (h : ∀ s, pre s → err e s) :
    Exits pre (Prog.throw e : Prog σ ε α) ok err panic := h

theorem of_leads {stop : σ → Prop} (h : Leads pre p ok stop) :
    Exits pre p ok (fun _ => stop) stop := h

theorem leads {stop : σ → Prop} (h : Exits pre p ok (fun _ => stop) stop) : Leads pre p ok stop := h

theorem conseq {pre' panic' : σ → Prop} {ok' : α → σ → Prop} {err' : ε → σ → Prop}
    (h : Exits pre' p ok' err' panic') (before : ∀ s, pre s → pre' s)
    (after : ∀ a s, ok' a s → ok a s) (failed : ∀ e s, err' e s → err e s)
    (panicked : ∀ s, panic' s → panic s) : Exits pre p ok err panic := by
  intro s hs
  have := h s (before s hs)
  revert this
  split
  · exact after _ _
  · exact failed _ _
  · exact panicked _

/-- Two ways to come to the program. -/
theorem either {pre' : σ → Prop} (h : Exits pre p ok err panic) (k : Exits pre' p ok err panic) :
    Exits (fun s => pre s ∨ pre' s) p ok err panic := fun s hs => hs.elim (h s) (k s)

/-- What the two say of the same program holds together. -/
theorem both {pre' panic' : σ → Prop} {ok' : α → σ → Prop} {err' : ε → σ → Prop}
    (h : Exits pre p ok err panic) (k : Exits pre' p ok' err' panic') :
    Exits (fun s => pre s ∧ pre' s) p (fun a s => ok a s ∧ ok' a s) (fun e s => err e s ∧ err' e s)
      fun s => panic s ∧ panic' s := by
  intro s hs
  have left := h s hs.1
  have right := k s hs.2
  revert left right
  split <;> exact fun left right => ⟨left, right⟩

/-- The program goes on with the state that was read. -/
theorem read {f : σ → Prog σ ε α} (h : ∀ s, pre s → Exits (· = s) (f s) ok err panic) :
    Exits pre (Prog.read >>= f) ok err panic := fun s hs => h s hs s rfl

theorem bind {f : α → Prog σ ε β} {done : β → σ → Prop} (mid : α → σ → Prop)
    (first : Exits pre p mid err panic) (rest : ∀ a, Exits (mid a) (f a) done err panic) :
    Exits pre (p >>= f) done err panic := by
  intro s hs
  have head := first s hs
  rw [bind_apply]
  revert head
  split
  · next a t run => exact rest a t
  · exact id
  · exact id

theorem mapErr {f : ε → ε'} {failed : ε' → σ → Prop}
    (h : Exits pre p ok (fun e => failed (f e)) panic) :
    Exits pre (p.mapErr f) ok failed panic := by
  intro s hs
  have := h s hs
  revert this
  unfold Prog.mapErr
  split <;> next run => rw [run]; exact id

/-- The caller of `result` meets both exits as values. -/
theorem result {done : Except ε α → σ → Prop} {failed : ε' → σ → Prop}
    (h : Exits pre p (fun a => done (.ok a)) (fun e => done (.error e)) panic) :
    Exits pre (p.result : Prog σ ε' (Except ε α)) done failed panic := by
  intro s hs
  have := h s hs
  revert this
  unfold Prog.result
  split <;> exact id

/-- The caller of `expect` panics on an error. -/
theorem expect {m : String} {failed : ε' → σ → Prop} (h : Exits pre p ok (fun _ => panic) panic) :
    Exits pre (p.expect m : Prog σ ε' α) ok failed panic := by
  intro s hs
  have := h s hs
  revert this
  unfold Prog.expect
  split <;> exact id

/-- A loop with an invariant that knows which answers are still to come. -/
theorem untilBreak {τ : Type} {body : τ → Prog σ ε (LoopControl β)} (inv : List τ → σ → Prop)
    {early : β → σ → Prop}
    (step : ∀ a rest, Exits (inv (a :: rest)) (body a)
      (fun | .continue => inv rest | .break b => early b) err panic) :
    ∀ l, Exits (inv l) (Prog.untilBreak body l)
      (fun | none => inv [] | some b => early b) err panic := by
  intro l
  induction l with
  | nil => exact fun s hs => hs
  | cons a rest ih =>
      refine bind _ (step a rest) fun control => ?_
      cases control with
      | «continue» => exact ih
      | «break» b => exact fun s hs => hs

theorem of_returns (h : Returns p) : Exits pre p (fun _ _ => True) (fun _ _ => True) panic := by
  intro s _
  have returns := h s
  revert returns
  split
  · exact fun _ => trivial
  · exact fun _ => trivial
  · next m t run => rw [run]; exact fun returns => nomatch returns

theorem of_run {s t : σ} {o : Outcome ε α} (h : Exits pre p ok err panic) (hs : pre s)
    (run : p s = (o, t)) : match o with
      | .ok a => ok a t
      | .err e => err e t
      | .panic _ => panic t := by
  have := h s hs
  rw [run] at this
  cases o <;> exact this

end Exits

/-- The program ends with a value or panics. -/
def Unfailing (p : Prog σ ε α) : Prop := ∀ s, (p s).1.isErr = false

namespace Unfailing
variable {p : Prog σ ε α}

theorem pure (a : α) : Unfailing (Pure.pure a : Prog σ ε α) := fun _ => rfl

theorem panic (m : String) : Unfailing (Prog.panic m : Prog σ ε α) := fun _ => rfl

theorem bind {f : α → Prog σ ε β} (first : Unfailing p) (rest : ∀ a, Unfailing (f a)) :
    Unfailing (p >>= f) := by
  intro s
  have head := first s
  rw [bind_apply]
  split
  · exact rest _ _
  · next run => rw [run] at head; exact head
  · rfl

theorem result (p : Prog σ ε α) : Unfailing (p.result : Prog σ ε' (Except ε α)) := by
  intro s
  unfold Prog.result
  split <;> rfl

theorem expect (m : String) (p : Prog σ ε α) : Unfailing (p.expect m : Prog σ ε' α) := by
  intro s
  unfold Prog.expect
  split <;> rfl

theorem forSome {value : Option α} {p : α → Prog σ ε Unit} (h : ∀ a, Unfailing (p a)) :
    Unfailing (Prog.forSome value p) := by
  cases value with
  | none => exact pure ()
  | some a => exact h a

/-- A program that keeps what is known has no other exit than a value or a panic. -/
theorem exits {pre panic : σ → Prop} {err : ε → σ → Prop} (h : Unfailing p)
    (within : Within (fun s t => pre s → pre t) p) (panicked : ∀ s, pre s → panic s) :
    Exits pre p (fun _ => pre) err panic := by
  intro s hs
  have returns := h s
  have kept := within s hs
  revert returns kept
  cases p s with
  | mk o t =>
      cases o with
      | ok a => exact fun _ => id
      | err e => exact fun returns => nomatch returns
      | panic m => exact fun _ => panicked t

end Unfailing

/-- Run in this state, the program ends in an outcome and a state of which `post` holds. -/
def Ends (p : Prog σ ε α) (s : σ) (post : Outcome ε α → σ → Prop) : Prop := post (p s).1 (p s).2

namespace Ends
variable {p : Prog σ ε α} {s : σ} {post : Outcome ε α → σ → Prop}

theorem of_run {o : Outcome ε α} {t : σ} (h : Ends p s post) (run : p s = (o, t)) : post o t := by
  unfold Ends at h
  rwa [run] at h

theorem run {o : Outcome ε α} {t : σ} (h : p s = (o, t)) (holds : post o t) : Ends p s post := by
  unfold Ends
  rwa [h]

/-- A composite goes on from the value of its first part, or ends with it. -/
theorem bind {f : α → Prog σ ε β} {done : Outcome ε β → σ → Prop}
    (first : Ends p s fun o t => match o with
      | .ok a => Ends (f a) t done
      | .err e => done (.err e) t
      | .panic m => done (.panic m) t) : Ends (p >>= f) s done := by
  unfold Ends at *
  rw [bind_apply]
  revert first
  cases p s with
  | mk o t => cases o <;> exact id

theorem read {f : σ → Prog σ ε α} (h : Ends (f s) s post) : Ends (Prog.read >>= f) s post := h

theorem mapErr {f : ε → ε'} {done : Outcome ε' α → σ → Prop}
    (h : Ends p s fun o t => done (o.mapErr f) t) : Ends (p.mapErr f) s done := h

theorem result {done : Outcome ε' (Except ε α) → σ → Prop}
    (h : Ends p s fun o t => match o with
      | .ok a => done (.ok (.ok a)) t
      | .err e => done (.ok (.error e)) t
      | .panic m => done (.panic m) t) : Ends (p.result : Prog σ ε' (Except ε α)) s done := by
  unfold Ends at *
  unfold Prog.result
  revert h
  cases p s with
  | mk o t => cases o <;> exact id

theorem expect {reason : String} {done : Outcome ε' α → σ → Prop}
    (h : Ends p s fun o t => match o with
      | .ok a => done (.ok a) t
      | .err _ => done (.panic reason) t
      | .panic m => done (.panic m) t) : Ends (p.expect reason : Prog σ ε' α) s done := by
  unfold Ends at *
  unfold Prog.expect
  revert h
  cases p s with
  | mk o t => cases o <;> exact id

theorem within {R : σ → σ → Prop} (h : Within R p) (carry : ∀ o t, R s t → post o t) :
    Ends p s post := carry _ _ (h s)

theorem conseq {post' : Outcome ε α → σ → Prop} (h : Ends p s post')
    (after : ∀ o t, post' o t → post o t) : Ends p s post := after _ _ h

theorem leads {pre stop : σ → Prop} {ok : α → σ → Prop} (value : ∀ s, pre s → Ends p s fun o t =>
    (∀ a, o = .ok a → ok a t) ∧ (o.isOk = false → stop t)) : Leads pre p ok stop := by
  intro s hs
  have := value s hs
  unfold Ends at this
  revert this
  cases p s with
  | mk o t =>
      cases o with
      | ok a => exact fun h => h.1 a rfl
      | err e => exact fun h => h.2 rfl
      | panic m => exact fun h => h.2 rfl

end Ends

end Prog
end Effect
