import Zygote.Effect

/-!
# One program following another

A program over a larger state does what another program does to a part of it. It may end in a
panic of its own, which the other one knows nothing of.
-/
namespace Effect.Prog
variable {σ τ ε α β : Type}

/-- The program does to its part of the state what the other one does, and keeps the invariant. -/
def Follows (view : σ → τ) (inv : σ → Prop) (own : Prop) (P : Prog σ ε α) (p : Prog τ ε α) : Prop :=
  ∀ s, inv s → inv (P s).2 ∧
    ((P s).1 = (p (view s)).1 ∧ view (P s).2 = (p (view s)).2 ∨ own ∧ (P s).1.isPanic = true)

namespace Follows
variable {view : σ → τ} {inv : σ → Prop} {own : Prop} {P : Prog σ ε α} {p : Prog τ ε α}

theorem pure (a : α) : Follows view inv own (Pure.pure a : Prog σ ε α) (Pure.pure a) :=
  fun _ hs => ⟨hs, .inl ⟨rfl, rfl⟩⟩

theorem bind {F : α → Prog σ ε β} {f : α → Prog τ ε β} (first : Follows view inv own P p)
    (rest : ∀ a, Follows view inv own (F a) (f a)) : Follows view inv own (P >>= F) (p >>= f) := by
  intro s hs
  obtain ⟨kept, alike⟩ := first s hs
  rw [bind_apply, bind_apply]
  cases run : P s with
  | mk o t =>
  rw [run] at kept alike
  rcases alike with ⟨same, moved⟩ | ⟨allowed, panicked⟩
  · rw [show p (view s) = (o, view t) from Prod.ext same.symm moved.symm]
    cases o with
    | ok a => exact rest a t kept
    | err e => exact ⟨kept, .inl ⟨rfl, rfl⟩⟩
    | panic m => exact ⟨kept, .inl ⟨rfl, rfl⟩⟩
  · cases o with
    | ok a => cases panicked
    | err e => cases panicked
    | panic m => exact ⟨kept, .inr ⟨allowed, rfl⟩⟩

/-- A step that leaves the part alone. -/
theorem beside {Q : Prog σ ε Unit} (stays : Follows view inv own Q (Pure.pure ()))
    (rest : Follows view inv own P p) : Follows view inv own (Q >>= fun _ => P) p :=
  bind stays fun _ => rest

/-- A step on the part itself. -/
theorem focus {set : τ → σ → σ} (lens : ∀ t s, view (set t s) = t)
    (keeps : ∀ s, inv s → inv (set (p (view s)).2 s)) : Follows view inv own (Prog.focus view set p) p :=
  fun s hs => ⟨keeps s hs, .inl ⟨rfl, lens _ s⟩⟩

/-- A run that returns is a run of the other program. -/
theorem ok {s t : σ} {a : α} (h : Follows view inv own P p) (hs : inv s) (run : P s = (.ok a, t)) :
    inv t ∧ p (view s) = (.ok a, view t) := by
  obtain ⟨kept, alike⟩ := h s hs
  rw [run] at kept alike
  rcases alike with ⟨same, moved⟩ | ⟨-, panicked⟩
  · exact ⟨kept, Prod.ext same.symm moved.symm⟩
  · cases panicked

/-- Without panics of its own a program ends as the other one does. -/
theorem eq {s : σ} (h : Follows view inv False P p) (hs : inv s) :
    (P s).1 = (p (view s)).1 ∧ view (P s).2 = (p (view s)).2 := by
  obtain ⟨-, alike⟩ := h s hs
  exact alike.resolve_right fun panicked => panicked.1

end Follows
end Effect.Prog
