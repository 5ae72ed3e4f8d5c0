import BrightScript.Machine.State
set_option autoImplicit false

/-!
Two steps agree under an invariant when they do the same from every state in which it holds, keep
it, and end only in expected ways. A step that agrees with itself keeps the invariant.
-/

namespace BrightScript

variable {ε σ α β : Type}

-- The invariant holds at the end, and the value or the failure is an expected one.
def Ends (inv : σ → Prop) (fails : ε → Prop) (gives : α → Prop) : EStateM.Result ε σ α → Prop
  | .ok a s => inv s ∧ gives a
  | .error e s => inv s ∧ fails e

def Agree (inv : σ → Prop) (fails : ε → Prop) (gives : α → Prop) (x y : EStateM ε σ α) : Prop :=
  ∀ s, inv s → x s = y s ∧ Ends inv fails gives (x s)

def Keeps (inv : σ → Prop) (fails : ε → Prop) (gives : α → Prop) (x : EStateM ε σ α) : Prop :=
  Agree inv fails gives x x

def Any (_ : α) : Prop := True

def finalState : EStateM.Result ε σ α → σ
  | .ok _ s | .error _ s => s

theorem get_bind_apply (next : σ → EStateM ε σ β) (s : σ) : (get >>= next) s = next s s :=
  rfl

theorem bind_ran {x : EStateM ε σ α} {k : α → EStateM ε σ β} {s t : σ} {a : α}
    (ran : x s = .ok a t) : (x >>= k) s = k a t := by
  change EStateM.bind x k s = _
  simp only [EStateM.bind, ran]

section

variable {inv : σ → Prop} {fails : ε → Prop} {gives : α → Prop} {passes : β → Prop}

theorem ends_final_state {outcome : EStateM.Result ε σ α} (ends : Ends inv fails gives outcome) :
    inv (finalState outcome) := by
  cases outcome with
  | ok a s | error e s => exact ends.1

theorem keeps_of_ends {x : EStateM ε σ α} (ends : ∀ s, inv s → Ends inv fails gives (x s)) :
    Keeps inv fails gives x :=
  fun s holds => ⟨rfl, ends s holds⟩

theorem keeps_pure (a : α) (expected : gives a) : Keeps inv fails gives (pure a) :=
  keeps_of_ends fun _ holds => ⟨holds, expected⟩

theorem keeps_throw (e : ε) (expected : fails e) : Keeps inv fails gives (throw e) :=
  keeps_of_ends fun _ holds => ⟨holds, expected⟩

theorem keeps_get : Keeps inv fails inv (get : EStateM ε σ σ) :=
  keeps_of_ends fun _ holds => ⟨holds, holds⟩

theorem keeps_modify (f : σ → σ) (kept : ∀ s, inv s → inv (f s)) :
    Keeps inv fails Any (modify f : EStateM ε σ PUnit) :=
  keeps_of_ends fun s holds => ⟨kept s holds, trivial⟩

theorem keeps_modify_get (f : σ → α × σ) (kept : ∀ s, inv s → inv (f s).2 ∧ gives (f s).1) :
    Keeps inv fails gives (modifyGet f : EStateM ε σ α) :=
  keeps_of_ends fun s holds => kept s holds

theorem agree_bind {x y : EStateM ε σ α} {f g : α → EStateM ε σ β}
    (first : Agree inv fails gives x y) (next : ∀ a, gives a → Agree inv fails passes (f a) (g a)) :
    Agree inv fails passes (x >>= f) (y >>= g) := by
  intro s holds
  obtain ⟨same, ends⟩ := first s holds
  change EStateM.bind x f s = EStateM.bind y g s ∧ Ends inv fails passes (EStateM.bind x f s)
  unfold EStateM.bind
  rw [← same]
  cases outcome : x s with
  | ok a s' =>
    rw [outcome] at ends
    exact next a ends.2 s' ends.1
  | error e s' =>
    rw [outcome] at ends
    exact ⟨rfl, ends⟩

def Returns (gives : α → Prop) (x : EStateM ε σ α) : Prop :=
  ∀ s a s', x s = .ok a s' → gives a

theorem returns_pure (a : α) (expected : gives a) : Returns gives (pure a : EStateM ε σ α) := by
  intro s b t same
  cases same
  exact expected

theorem returns_throw (e : ε) : Returns gives (throw e : EStateM ε σ α) := by
  intro s b t same
  cases same

theorem returns_bind {x : EStateM ε σ α} {f : α → EStateM ε σ β} (first : Returns gives x)
    (next : ∀ a, gives a → Returns passes (f a)) : Returns passes (x >>= f) := by
  intro s b t same
  change EStateM.bind x f s = .ok b t at same
  unfold EStateM.bind at same
  cases outcome : x s with
  | ok a u =>
    rw [outcome] at same
    exact next a (first s a u outcome) u b t same
  | error e u =>
    rw [outcome] at same
    cases same

theorem returns_map {x : EStateM ε σ α} {f : α → β} (first : Returns gives x)
    (next : ∀ a, gives a → passes (f a)) : Returns passes (f <$> x) := by
  intro s b t same
  change EStateM.map f x s = .ok b t at same
  unfold EStateM.map at same
  cases outcome : x s with
  | ok a u =>
    rw [outcome] at same
    cases same
    exact next a (first s a _ outcome)
  | error e u =>
    rw [outcome] at same
    cases same

theorem returns_mono {given : α → Prop} {x : EStateM ε σ α} (returns : Returns given x)
    (weaker : ∀ a, given a → gives a) : Returns gives x :=
  fun s a t ended => weaker a (returns s a t ended)

theorem returns_any (x : EStateM ε σ α) : Returns Any x :=
  fun _ _ _ _ => trivial

theorem returns_last {x : EStateM ε σ α} {f : α → EStateM ε σ β}
    (next : ∀ a, Returns passes (f a)) : Returns passes (x >>= f) :=
  returns_bind (returns_any x) fun a _ => next a

theorem agree_of_returns {given : α → Prop} {x y : EStateM ε σ α}
    (agree : Agree inv fails given x y) (returns : Returns gives x) :
    Agree inv fails gives x y := by
  intro s holds
  obtain ⟨same, ends⟩ := agree s holds
  refine ⟨same, ?_⟩
  cases outcome : x s with
  | ok a s' =>
    rw [outcome] at ends
    exact ⟨ends.1, returns s a s' outcome⟩
  | error e s' =>
    rw [outcome] at ends
    exact ends

theorem agree_get_bind {f g : σ → EStateM ε σ β}
    (next : ∀ s, inv s → Agree inv fails passes (f s) (g s)) :
    Agree inv fails passes (get >>= f) (get >>= g) :=
  agree_bind keeps_get next

end

end BrightScript
