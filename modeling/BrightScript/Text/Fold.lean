set_option autoImplicit false

namespace BrightScript

def fold (text : String) : String :=
  String.ofList (text.toList.map Char.toLower)

def sameName (a b : String) : Bool :=
  fold a == fold b

@[simp] theorem toList_fold (text : String) :
    (fold text).toList = text.toList.map Char.toLower := by
  simp [fold]

theorem capital_or_low (c : Char) :
    (∃ n : Fin 26, c = Char.ofNat (65 + n) ∧ c.toLower = Char.ofNat (97 + n)) ∨ c.toLower = c := by
  unfold Char.toLower
  split
  · rename_i capital
    have low : c.toNat ≤ 90 := by simpa [UInt32.le_iff_toNat_le] using capital.2
    have high : 65 ≤ c.toNat := by simpa [UInt32.le_iff_toNat_le] using capital.1
    have small : (c.val + ('a'.val - 'A'.val)).toNat = 97 + (c.toNat - 65) := by
      rw [UInt32.toNat_add]
      change (c.toNat + 32) % 4294967296 = _
      omega
    refine .inl ⟨⟨c.toNat - 65, by omega⟩, ?_, ?_⟩
    · rw [Nat.add_sub_cancel' high, Char.ofNat_toNat]
    · rw [← small]
      exact (Char.ofNat_toNat _).symm
  · exact .inr rfl

theorem kept_lowered {α : Type} (p : Char → α)
    (letters : ∀ n : Fin 26, p (Char.ofNat (97 + n)) = p (Char.ofNat (65 + n))) (c : Char) :
    p c.toLower = p c := by
  rcases capital_or_low c with ⟨n, upper, lower⟩ | same
  · rw [lower, upper, letters n]
  · rw [same]

theorem fixed_lowered {q : Char → Bool} (capitals : ∀ n : Fin 26, q (Char.ofNat (65 + n)) = false)
    {c : Char} (holds : q c = true) : c.toLower = c := by
  rcases capital_or_low c with ⟨n, upper, _⟩ | same
  · rw [upper, capitals n] at holds
    cases holds
  · exact same

theorem sign_lowered {d : Char} (sign : d.isAlpha = false) (c : Char) : c.toLower = d ↔ c = d := by
  have letters : ∀ n : Fin 26, (Char.ofNat (97 + n)).isAlpha = true := by decide
  have same : d.toLower = d := fixed_lowered
      (q := fun c => !c.isAlpha) (by decide) (by rw [sign]; rfl)
  rcases capital_or_low c with ⟨n, upper, lower⟩ | low
  · constructor
    · intro eq
      rw [← eq, lower, letters n] at sign
      cases sign
    · intro eq
      rw [eq, same]
  · rw [low]

theorem toLower_toLower (c : Char) : c.toLower.toLower = c.toLower :=
  kept_lowered Char.toLower (by decide) c

@[simp] theorem fold_fold (text : String) : fold (fold text) = fold text := by
  apply String.toList_inj.1
  simp only [toList_fold, List.map_map]
  exact List.map_congr_left fun c _ => toLower_toLower c

theorem fold_append (a b : String) : fold (a ++ b) = fold a ++ fold b := by
  simp [fold]

end BrightScript
