import ServiceContract.Folder.Step

/-!
# Programs of steps

Computations over any place where files are kept can be taken apart into the steps that they take in
a folder. A folder can then be looked at between any two of them, also where steps fail that could
have been taken.
-/

namespace ServiceContract

/-- A computation that takes steps in a folder, and goes on by whether they succeed. -/
inductive Program (α : Type) where
  | done (a : α)
  | step (step : Step) (next : Bool → Program α)

/-- What a step can do to a folder, and whether it is said to have succeeded. It does what it
should, or fails and changes nothing; but a write that fails can leave anything behind, and what can
be taken away is taken away. -/
inductive Folder.Performs (f : Folder) : Step → Bool → Folder → Prop where
  | taken {step : Step} {f' : Folder} : f.perform? step = some f' → Performs f step true f'
  | refused {step : Step} : (∀ name, step = .remove name → f.remove? name = none) →
      Performs f step false f
  | torn {name : String} {content part : ByteArray} {f' : Folder} :
      f.write? name part = some f' → Performs f (.write name content) false f'

namespace Program

variable {α β : Type} {f f' f₁ : Folder}

def bind : Program α → (α → Program β) → Program β
  | done a, k => k a
  | step s next, k => step s fun ok => (next ok).bind k

instance : Monad Program where
  pure := done
  bind := bind

/-- Takes one step. -/
def perform (s : Step) : Program Bool := step s done

/-- What a program and the folder can have become after some steps. -/
inductive Reaches : Program α → Folder → Program α → Folder → Prop where
  | refl {p : Program α} {f : Folder} : Reaches p f p f
  | step {s : Step} {ok : Bool} {next : Bool → Program α} {p' : Program α} {f f₁ f' : Folder} :
      f.Performs s ok f₁ → Reaches (next ok) f₁ p' f' → Reaches (step s next) f p' f'

/-- A program that has a step to take. -/
def IsPending (p : Program α) : Prop := ∀ a, p ≠ done a

theorem isPending_step (s : Step) (next : Bool → Program α) : (step s next).IsPending := nofun

theorem IsPending.bind {x : Program α} (h : x.IsPending) (k : α → Program β) :
    (x >>= k).IsPending := by
  cases x with
  | done a => exact absurd rfl (h a)
  | step s next => exact isPending_step _ _

/-- Two programs one after another are in the first, or behind it in the second. -/
theorem reaches_bind {x : Program α} {k : α → Program β} {p' : Program β}
    (h : (x >>= k).Reaches f p' f') :
    (∃ x' : Program α, x'.IsPending ∧ x.Reaches f x' f' ∧ p' = x' >>= k) ∨
      ∃ a f₁, x.Reaches f (done a) f₁ ∧ (k a).Reaches f₁ p' f' := by
  induction x generalizing f with
  | done a => exact .inr ⟨a, f, .refl, h⟩
  | step s next ih =>
      cases h with
      | refl => exact .inl ⟨step s next, isPending_step _ _, .refl, rfl⟩
      | step hperforms hrest =>
          rcases ih _ hrest with ⟨x', hpending, hx, rfl⟩ | ⟨a, f₂, hx, hk⟩
          · exact .inl ⟨x', hpending, .step hperforms hx, rfl⟩
          · exact .inr ⟨a, f₂, .step hperforms hx, hk⟩

theorem Reaches.bind {x x' : Program α} (h : x.Reaches f x' f') (k : α → Program β) :
    (x >>= k).Reaches f (x' >>= k) f' := by
  induction h with
  | refl => exact .refl
  | step hperforms _ ih => exact .step hperforms ih

theorem reaches_done {a : α} {p' : Program α} (h : (done a).Reaches f p' f') :
    p' = done a ∧ f' = f := by
  cases h
  exact ⟨rfl, rfl⟩

end Program

end ServiceContract
