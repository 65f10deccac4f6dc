/-!
# Decimal numerals

The value of a run of ASCII digits, read most significant digit first.

    decimal? s = some n ↔ s is a numeral of n              (decimal?_eq_some_iff)
-/

namespace AbiBindings.Text

/-- The value of an ASCII digit. -/
def digitValue? (c : Char) : Option Nat :=
  if '0' ≤ c ∧ c ≤ '9' then some (c.toNat - '0'.toNat) else none

/-- The numeral read on top of the value of the digits before it. -/
def decimalFrom? (value : Nat) : List Char → Option Nat
  | [] => some value
  | c :: r => (digitValue? c).bind fun d => decimalFrom? (10 * value + d) r

/-- The value of a nonempty run of ASCII digits; leading zeros are allowed. -/
def decimal? : List Char → Option Nat
  | [] => none
  | c :: r => decimalFrom? 0 (c :: r)

/-! ## Lemmas -/

theorem decimalFrom?_append (value : Nat) (s t : List Char) :
    decimalFrom? value (s ++ t) = (decimalFrom? value s).bind fun v => decimalFrom? v t := by
  induction s generalizing value with
  | nil => simp [decimalFrom?]
  | cons c r ih => cases h : digitValue? c <;> simp [decimalFrom?, h, ih]

theorem decimal?_isSome_iff (s : List Char) :
    (decimal? s).isSome ↔ s ≠ [] ∧ ∀ c ∈ s, (digitValue? c).isSome := by
  have key : ∀ (s : List Char) (v : Nat),
      (decimalFrom? v s).isSome ↔ ∀ c ∈ s, (digitValue? c).isSome := by
    intro s
    induction s with
    | nil => simp [decimalFrom?]
    | cons c r ih => intro v; cases h : digitValue? c <;> simp [decimalFrom?, h, ih]
  cases s with
  | nil => simp [decimal?]
  | cons c r => simp only [decimal?, key]; simp

theorem digitValue?_eq_some_iff {c : Char} {d : Nat} :
    digitValue? c = some d ↔ c.isDigit = true ∧ c.toNat - '0'.toNat = d := by
  have hdigit : c.isDigit = true ↔ '0' ≤ c ∧ c ≤ '9' := by
    rw [Char.isDigit_iff_toNat]
    exact Iff.rfl
  unfold digitValue?
  rw [hdigit]
  by_cases h : '0' ≤ c ∧ c ≤ '9'
  · simp [h]
  · simp [h]

/-- ASCII digits that spell a number, leading zeros among them. -/
structure IsNumeral (s : List Char) (n : Nat) : Prop where
  notEmpty : s ≠ []
  digits : ∀ c ∈ s, c.isDigit = true
  value : Nat.ofDigitChars 10 s 0 = n

/-- The digits of a number spell it. -/
theorem isNumeral_toDigits (n : Nat) : IsNumeral (Nat.toDigits 10 n) n where
  notEmpty := Nat.toDigits_ne_nil
  digits _ hc := Nat.isDigit_of_mem_toDigits (by omega) (by omega) hc
  value := Nat.ofDigitChars_ten_toDigits

theorem toDigits_injective {n m : Nat} (h : Nat.toDigits 10 n = Nat.toDigits 10 m) : n = m := by
  rw [← (isNumeral_toDigits n).value, h, (isNumeral_toDigits m).value]

theorem decimalFrom?_eq_some_iff {v n : Nat} {s : List Char} :
    decimalFrom? v s = some n ↔ (∀ c ∈ s, c.isDigit = true) ∧ Nat.ofDigitChars 10 s v = n := by
  induction s generalizing v with
  | nil => simp [decimalFrom?]
  | cons c r ih =>
    simp only [decimalFrom?, Option.bind_eq_some_iff, digitValue?_eq_some_iff, ih,
      Nat.ofDigitChars_cons, List.forall_mem_cons]
    constructor
    · rintro ⟨d, ⟨hc, rfl⟩, hr, hn⟩
      exact ⟨⟨hc, hr⟩, hn⟩
    · rintro ⟨⟨hc, hr⟩, hn⟩
      exact ⟨_, ⟨hc, rfl⟩, hr, hn⟩

theorem decimal?_eq_some_iff {s : List Char} {n : Nat} : decimal? s = some n ↔ IsNumeral s n := by
  cases s with
  | nil =>
    constructor
    · intro h
      cases h
    · intro h
      exact absurd rfl h.notEmpty
  | cons c r =>
    rw [decimal?, decimalFrom?_eq_some_iff]
    exact ⟨fun ⟨hd, hv⟩ => ⟨List.cons_ne_nil c r, hd, hv⟩, fun h => ⟨h.digits, h.value⟩⟩

end AbiBindings.Text
