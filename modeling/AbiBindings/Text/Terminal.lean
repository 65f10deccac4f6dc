import AbiBindings.Text.Quoted

/-!
# Text shown on a terminal

A terminal obeys some control characters instead of showing them: the bell, the backspace, the form
feed, the escape, the delete, and the controls beyond ASCII.  `harmless` spells these by number and
leaves all others, line ends included.

    c ∈ (harmless s).toList → isTerminalControl c = false   (isTerminalControl_of_mem_harmless)
-/

namespace AbiBindings.Text

/-! ## Algorithm -/

/-- A control character that a terminal may obey. -/
def isTerminalControl (c : Char) : Bool :=
  ['\x07', '\x08', '\x0c', '\x1b', '\x7f'].contains c || (0x80 ≤ c.toNat && c.toNat ≤ 0x9f)

/-- The code point of a control character: two digits in ASCII, digits in braces beyond it. -/
def spelledControl (n : Nat) : String :=
  if n < 0x10 then "\\x0" ++ hexDigits n
  else if n < 0x80 then "\\x" ++ hexDigits n
  else r"\u{" ++ hexDigits n ++ r"}"

/-- One character of harmless text. -/
def harmlessChar (c : Char) : String :=
  if isTerminalControl c then spelledControl c.toNat else c.toString

/-- A text without the characters that a terminal obeys. -/
def harmless (s : String) : String := String.join (s.toList.map harmlessChar)

/-! ## Lemmas -/

theorem isTerminalControl_digitChar (n : Nat) : isTerminalControl n.digitChar = false := by
  by_cases h : n < 16
  · revert n; decide
  · obtain ⟨k, rfl⟩ : ∃ k, n = k + 16 := ⟨n - 16, by omega⟩
    rw [show (k + 16).digitChar = '*' by simp [Nat.digitChar]]
    rfl

theorem isTerminalControl_of_mem_toDigitsCore (base fuel n : Nat) (cs : List Char)
    (hcs : ∀ c ∈ cs, isTerminalControl c = false) :
    ∀ c ∈ Nat.toDigitsCore base fuel n cs, isTerminalControl c = false := by
  induction fuel generalizing n cs with
  | zero => simpa [Nat.toDigitsCore] using hcs
  | succ fuel ih =>
    have hd : ∀ c ∈ (n % base).digitChar :: cs, isTerminalControl c = false := by
      intro c hc
      rcases List.mem_cons.1 hc with rfl | hc
      · exact isTerminalControl_digitChar _
      · exact hcs c hc
    rw [Nat.toDigitsCore]
    split
    · exact hd
    · exact ih _ _ hd

theorem isTerminalControl_of_mem_hexDigits {n : Nat} {c : Char} (h : c ∈ (hexDigits n).toList) :
    isTerminalControl c = false := by
  rw [hexDigits, String.toList_ofList] at h
  exact isTerminalControl_of_mem_toDigitsCore 16 _ _ [] (by simp) c h

theorem isTerminalControl_of_mem_spelledControl {n : Nat} {c : Char}
    (h : c ∈ (spelledControl n).toList) : isTerminalControl c = false := by
  have hc : c ∈ (hexDigits n).toList ∨ c ∈ ['\\', 'x', '0', 'u', '{', '}'] := by
    unfold spelledControl at h
    split at h
    · simp at h ⊢; grind
    · split at h <;> simp at h ⊢ <;> grind
  rcases hc with hc | hc
  · exact isTerminalControl_of_mem_hexDigits hc
  · simp only [List.mem_cons, List.not_mem_nil, or_false] at hc
    rcases hc with rfl | rfl | rfl | rfl | rfl | rfl <;> rfl

theorem isTerminalControl_of_mem_harmlessChar {c d : Char} (h : d ∈ (harmlessChar c).toList) :
    isTerminalControl d = false := by
  unfold harmlessChar at h
  split at h
  · exact isTerminalControl_of_mem_spelledControl h
  · simp_all

theorem isTerminalControl_of_mem_harmless {s : String} {d : Char}
    (h : d ∈ (harmless s).toList) : isTerminalControl d = false := by
  rw [harmless, String.toList_join, List.mem_flatMap] at h
  obtain ⟨t, ht, hd⟩ := h
  obtain ⟨c, -, rfl⟩ := List.mem_map.1 ht
  exact isTerminalControl_of_mem_harmlessChar hd

end AbiBindings.Text
