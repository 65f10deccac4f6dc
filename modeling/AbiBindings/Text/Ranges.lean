/-!
# Sets of characters as ranges of code points

A property of characters is a list of closed intervals; membership is `Ranges.contains`.
-/

namespace AbiBindings.Text

/-- Closed intervals of code points. -/
abbrev Ranges := List (Nat × Nat)

/-- Some interval holds the character. -/
def Ranges.contains (rs : Ranges) (c : Char) : Bool :=
  rs.any fun r => r.1 ≤ c.toNat && c.toNat ≤ r.2

/-! ## Lemmas -/

theorem Ranges.contains_iff (rs : Ranges) (c : Char) :
    rs.contains c = true ↔ ∃ r ∈ rs, r.1 ≤ c.toNat ∧ c.toNat ≤ r.2 := by
  simp [Ranges.contains]

/-- Intervals that begin after ASCII hold no ASCII character. -/
theorem Ranges.contains_ascii {rs : Ranges} (h : (rs.all fun r => Nat.ble 0x80 r.1) = true)
    {c : Char} (hc : c.toNat < 0x80) : rs.contains c = false := by
  rw [← Bool.not_eq_true, Ranges.contains_iff]
  rintro ⟨r, hr, hle, -⟩
  have hbegin : 0x80 ≤ r.1 := Nat.le_of_ble_eq_true (List.all_eq_true.1 h r hr)
  omega

end AbiBindings.Text
