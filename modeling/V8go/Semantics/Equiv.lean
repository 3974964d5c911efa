import V8go.Semantics.Run

/-!
# Semantics — programs with the same runs

`p.Equiv q`, or `p ≈ q`: every run of `p` is a run of `q` with the same end, and back.  Runs see a program
only through its binds, so `bind` is a congruence, and the monad laws hold up to `Equiv`
(`Prog.Equiv.pure_bind`, `Prog.Equiv.bind_assoc`); a proof that two programs are equivalent
rewrites one into the other with these.
-/

namespace V8go

/-- `p` and `q` have the same runs. -/
def Prog.Equiv {α : Type} (p q : Prog α) : Prop := ∀ s o s', Run s p o s' ↔ Run s q o s'

namespace Prog.Equiv

variable {α β γ : Type}

theorem refl (p : Prog α) : p.Equiv p := fun _ _ _ => Iff.rfl

theorem symm {p q : Prog α} (h : p.Equiv q) : q.Equiv p := fun s o s' => (h s o s').symm

theorem trans {p q r : Prog α} (h₁ : p.Equiv q) (h₂ : q.Equiv r) : p.Equiv r :=
  fun s o s' => (h₁ s o s').trans (h₂ s o s')

instance : HasEquiv (Prog α) := ⟨Prog.Equiv⟩

instance : @Trans (Prog α) (Prog α) (Prog α) HasEquiv.Equiv HasEquiv.Equiv HasEquiv.Equiv := ⟨trans⟩

theorem bind {p q : Prog α} {f g : α → Prog β} (hp : p.Equiv q) (hf : ∀ a, (f a).Equiv (g a)) :
    (p.bind f).Equiv (q.bind g) := fun s o s' => by
  simp only [Run.bind_iff, hp s, hf _ _]

theorem bind_right {p : Prog α} {f g : α → Prog β} (hf : ∀ a, (f a).Equiv (g a)) :
    (p.bind f).Equiv (p.bind g) :=
  bind (refl p) hf

theorem pure_bind (a : α) (f : α → Prog β) : ((Prog.pure a).bind f).Equiv (f a) := fun s o s' => by
  constructor
  · intro h
    rcases Run.bind_iff.mp h with ⟨a', s₁, h₁, h₂⟩ | ⟨e, rfl, h₁⟩ | ⟨rfl, h₁⟩
    · obtain ⟨⟨⟩, rfl⟩ := Run.pure_iff.mp h₁
      exact h₂
    · cases (Run.pure_iff.mp h₁).1
    · cases (Run.pure_iff.mp h₁).1
  · exact fun h => .bind (.pure _ _) h

theorem bind_assoc (p : Prog α) (f : α → Prog β) (g : β → Prog γ) :
    ((p.bind f).bind g).Equiv (p.bind fun a => (f a).bind g) := fun s o s' => by
  constructor
  · intro h
    rcases Run.bind_iff.mp h with ⟨b, s₂, h₁₂, h₃⟩ | ⟨e, rfl, h₁₂⟩ | ⟨rfl, h₁₂⟩
    · obtain ⟨a, s₁, h₁, h₂⟩ := Run.bind_ret h₁₂
      exact .bind h₁ (.bind h₂ h₃)
    · rcases Run.bind_iff.mp h₁₂ with ⟨a, s₁, h₁, h₂⟩ | ⟨e', he, h₁⟩ | ⟨⟨⟩, -⟩
      · exact .bind h₁ (.bindStop h₂)
      · cases he
        exact .bindStop h₁
    · rcases Run.bind_iff.mp h₁₂ with ⟨a, s₁, h₁, h₂⟩ | ⟨e', ⟨⟩, -⟩ | ⟨-, h₁⟩
      · exact .bind h₁ (.bindPaused h₂)
      · exact .bindPaused h₁
  · intro h
    rcases Run.bind_iff.mp h with ⟨a, s₁, h₁, h₂₃⟩ | ⟨e, rfl, h₁⟩ | ⟨rfl, h₁⟩
    · rcases Run.bind_iff.mp h₂₃ with ⟨b, s₂, h₂, h₃⟩ | ⟨e, rfl, h₂⟩ | ⟨rfl, h₂⟩
      · exact .bind (.bind h₁ h₂) h₃
      · exact .bindStop (.bind h₁ h₂)
      · exact .bindPaused (.bind h₁ h₂)
    · exact .bindStop (.bindStop h₁)
    · exact .bindPaused (.bindPaused h₁)

/-- `a[i] = v` in bounds, then `f`. -/
theorem storeAt_bind {a : Array α} {i : Nat} (h : i < a.size) (v : α) (f : Array α → Prog β) :
    ((storeAt a i v).bind f) ≈ f (a.set ⟨i, h⟩ v) := by
  simp only [storeAt, h, dite_true]
  exact pure_bind _ _

end Prog.Equiv

end V8go
