import AbiBindings.Proofs.Text.Letter
import AbiBindings.Text.Words
import Mathlib.Data.List.Basic

/-!
# Camel case of ASCII texts

In an ASCII text every character is a cluster of its own, and a case mapping gives one character.
So camel case changes an ASCII text in two ways only: dashes, underscores and spaces go, and letters
change their case.  The first letter becomes small.

    splitting into words loses the separators only                      (flatten_words)
    (camel s).map toLower = (s without separators).map toLower          (map_toLower_camel)
    camel s begins with the first character that stays, made small      (head?_camel)
-/

namespace AbiBindings.Text

/-- Every character is an ASCII character. -/
def IsAscii (s : List Char) : Prop := ∀ c ∈ s, c.toNat < 0x80

theorem IsAscii.of_cons {c : Char} {r : List Char} (h : IsAscii (c :: r)) :
    c.toNat < 0x80 ∧ IsAscii r := List.forall_mem_cons.1 h

theorem IsAscii.mono {s t : List Char} (h : IsAscii s) (ht : t ⊆ s) : IsAscii t :=
  fun c hc => h c (ht hc)

/-! ## Case -/

theorem map_eq_self {f : Char → Char} {s : List Char} (h : ∀ c ∈ s, f c = c) : s.map f = s :=
  (List.map_congr_left h).trans (List.map_id' s)

theorem lowerChar_ascii {c : Char} (h : c.toNat < 0x80) : lowerChar c = [c.toLower] := by
  rw [lowerChar, if_pos h]

theorem upperChar_ascii {c : Char} (h : c.toNat < 0x80) : upperChar c = [c.toUpper] := by
  rw [upperChar, if_pos h]

theorem lowerAfter_ascii {s : List Char} (h : IsAscii s) (before : List Char) :
    lowerAfter before s = s.map Char.toLower := by
  induction s generalizing before with
  | nil => rfl
  | cons c r ih =>
    obtain ⟨hc, hr⟩ := h.of_cons
    have hsigma : c ≠ 'Σ' := by
      rintro rfl
      exact absurd hc (by decide)
    rw [lowerAfter, if_neg hsigma, lowerChar_ascii hc, ih hr, List.map_cons, List.singleton_append]

theorem lower_ascii {s : List Char} (h : IsAscii s) : lower s = s.map Char.toLower :=
  lowerAfter_ascii h []

/-! ## Clusters -/

theorem joins_ascii {a b : Char} (ha : a.toNat < 0x80) (hb : b.toNat < 0x80) :
    joins a b = false := by
  have hbefore : joinsBefore.contains b = false := Ranges.contains_ascii (by decide +kernel) hb
  have hafter : joinsAfter.contains a = false := Ranges.contains_ascii (by decide +kernel) ha
  have hpart : syllablePart? a = none :=
    ascii_forall (P := fun a => syllablePart? a = none) (by decide +kernel) ha
  rw [joins, hbefore, hafter, hpart]
  rfl

theorem clusters_ascii {s : List Char} (h : IsAscii s) : clusters s = s.map ([·]) := by
  induction s with
  | nil => rfl
  | cons c r ih =>
    obtain ⟨hc, hr⟩ := h.of_cons
    rw [clusters, ih hr]
    cases r with
    | nil => rfl
    | cons d r =>
      rw [List.map_cons, clusterCons, joins_ascii hc hr.of_cons.1]
      rfl

/-! ## Words -/

theorem splitWords_ne_nil (cs : List (List Char)) : splitWords cs ≠ [] := by
  induction cs using splitWords.induct with
  | case1 => exact List.cons_ne_nil _ _
  | case2 c hs => simp [splitWords, hs]
  | case3 c hs => simp [splitWords, hs]
  | case4 c d r hnil ih => exact absurd hnil ih
  | case5 c d r w ws hw hs ih => simp [splitWords, hw, hs]
  | case6 c d r w ws hw hs he ih => simp [splitWords, hw, hs, he]
  | case7 c d r w ws hw hs he ih => simp [splitWords, hw, hs, he]

/-- Wherever words end, nothing but the separators is lost. -/
theorem flatten_splitWords (cs : List (List Char)) :
    (splitWords cs).flatten = cs.filter (!isSeparator ·) := by
  induction cs using splitWords.induct with
  | case1 => rfl
  | case2 c hs => simp [splitWords, hs]
  | case3 c hs => simp [splitWords, hs]
  | case4 c d r hnil ih => exact absurd hnil (splitWords_ne_nil _)
  | case5 c d r w ws hw hs ih => simp [splitWords, hw, hs, ← ih]
  | case6 c d r w ws hw hs he ih => simp [splitWords, hw, hs, he, ← ih]
  | case7 c d r w ws hw hs he ih => simp [splitWords, hw, hs, he, ← ih]

/-- A character that separates words. -/
def isSeparatorChar (c : Char) : Bool := c == '-' || c == '_' || c == ' '

theorem isSeparator_singleton (c : Char) : isSeparator [c] = isSeparatorChar c := by
  simp [isSeparator, isSeparatorChar]

theorem isSeparatorChar_of_isAlphanum {c : Char} (h : c.isAlphanum = true) :
    isSeparatorChar c = false := by
  have hne {d : Char} (hd : d.isAlphanum = false) : c ≠ d := by
    rintro rfl
    rw [h] at hd
    cases hd
  simp [isSeparatorChar, hne (d := '-') rfl, hne (d := '_') rfl, hne (d := ' ') rfl]

theorem flatten_words {s : List Char} (h : IsAscii s) :
    (words s).flatten = (s.filter (!isSeparatorChar ·)).map ([·]) := by
  rw [words, List.flatten_filter_not_isEmpty, flatten_splitWords, clusters_ascii h, List.filter_map]
  refine congrArg (List.map ([·])) (List.filter_congr fun c _ => ?_)
  rw [Function.comp_apply, isSeparator_singleton]

theorem flatten_flatten_words {s : List Char} (h : IsAscii s) :
    (words s).flatten.flatten = s.filter (!isSeparatorChar ·) := by
  rw [flatten_words h, ← List.flatMap_def, List.flatMap_singleton']

/-- Words consist of the characters that separate none. -/
theorem mem_of_mem_words {s : List Char} (h : IsAscii s) {w : List (List Char)} (hw : w ∈ words s)
    {c : Char} (hc : c ∈ w.flatten) : c ∈ s.filter (!isSeparatorChar ·) := by
  obtain ⟨cluster, hm, hc⟩ := List.mem_flatten.1 hc
  rw [← flatten_flatten_words h]
  exact List.mem_flatten.2 ⟨cluster, List.mem_flatten.2 ⟨w, hw, hm⟩, hc⟩

theorem isAscii_of_mem_words {s : List Char} (h : IsAscii s) {w : List (List Char)}
    (hw : w ∈ words s) : IsAscii w.flatten :=
  h.mono fun _ hc => (List.mem_filter.1 (mem_of_mem_words h hw hc)).1

/-! ## Camel case -/

theorem map_toLower_map_toLower (s : List Char) :
    (s.map Char.toLower).map Char.toLower = s.map Char.toLower := by
  rw [List.map_map]
  exact List.map_congr_left fun c _ => toLower_toLower c

theorem capitalized_ascii {c : Char} {r : List Char} (h : IsAscii (c :: r)) :
    capitalized (c :: r) = c.toUpper :: r.map Char.toLower := by
  obtain ⟨hc, hr⟩ := h.of_cons
  rw [capitalized, upperChar_ascii hc, lower_ascii hr, List.singleton_append]

theorem map_toLower_capitalized {s : List Char} (h : IsAscii s) :
    (capitalized s).map Char.toLower = s.map Char.toLower := by
  cases s with
  | nil => rfl
  | cons c r =>
    rw [capitalized_ascii h, List.map_cons, List.map_cons, toLower_toUpper,
      map_toLower_map_toLower]

theorem map_toLower_capitalWords {ws : List (List (List Char))}
    (h : ∀ w ∈ ws, IsAscii w.flatten) :
    (ws.flatMap capitalWord).map Char.toLower = ws.flatten.flatten.map Char.toLower := by
  induction ws with
  | nil => rfl
  | cons w ws ih =>
    obtain ⟨hw, hws⟩ := List.forall_mem_cons.1 h
    rw [List.flatMap_cons, List.map_append, ih hws, capitalWord, map_toLower_capitalized hw,
      List.flatten_cons, List.flatten_append, List.map_append]

/-- Camel case changes the case of letters, and drops separators. -/
theorem map_toLower_camel {s : List Char} (h : IsAscii s) :
    (camel s).map Char.toLower = (s.filter (!isSeparatorChar ·)).map Char.toLower := by
  rw [← flatten_flatten_words h]
  have hascii {w : List (List Char)} (hw : w ∈ words s) := isAscii_of_mem_words h hw
  unfold camel
  cases hs : words s with
  | nil => rfl
  | cons w ws =>
    rw [hs] at hascii
    have hw := hascii List.mem_cons_self
    rw [List.map_append, smallWord, lower_ascii hw, map_toLower_map_toLower,
      map_toLower_capitalWords fun w hw => hascii (List.mem_cons_of_mem _ hw), ← List.map_append,
      List.flatten_cons, List.flatten_append]

theorem head?_camel {s : List Char} (h : IsAscii s) :
    (camel s).head? = (s.filter (!isSeparatorChar ·)).head?.map Char.toLower := by
  have hflat := flatten_words h
  cases hs : words s with
  | nil =>
    rw [hs, List.flatten_nil] at hflat
    rw [camel, hs, List.map_eq_nil_iff.1 hflat.symm]
    rfl
  | cons w ws =>
    have hw : w ∈ words s := hs ▸ List.mem_cons_self
    -- No word is empty, and its clusters are single characters.
    have hne : w ≠ [] := by simpa using (List.mem_filter.1 hw).2
    obtain ⟨cluster, rest, rfl⟩ := List.exists_cons_of_ne_nil hne
    rw [hs, List.flatten_cons, List.cons_append] at hflat
    obtain ⟨c, r, hc, hcluster, -⟩ := List.map_eq_cons_iff.1 hflat.symm
    have hlower := lower_ascii (isAscii_of_mem_words h hw)
    rw [List.flatten_cons, ← hcluster] at hlower
    rw [camel, hs, hc, ← hcluster]
    show (smallWord ([c] :: rest) ++ _).head? = some c.toLower
    rw [smallWord, List.flatten_cons, hlower]
    rfl

theorem mem_capitalized {s : List Char} (h : IsAscii s) {d : Char} (hd : d ∈ capitalized s) :
    ∃ c ∈ s, d = c.toLower ∨ d = c.toUpper := by
  cases s with
  | nil => cases hd
  | cons c r =>
    rw [capitalized_ascii h, List.mem_cons, List.mem_map] at hd
    rcases hd with rfl | ⟨c', hc', rfl⟩
    · exact ⟨c, List.mem_cons_self, Or.inr rfl⟩
    · exact ⟨c', List.mem_cons_of_mem _ hc', Or.inl rfl⟩

/-- A character in camel case is one of the text, small or large, that separates no words. -/
theorem mem_camel {s : List Char} (h : IsAscii s) {d : Char} (hd : d ∈ camel s) :
    ∃ c ∈ s.filter (!isSeparatorChar ·), d = c.toLower ∨ d = c.toUpper := by
  unfold camel at hd
  cases hs : words s with
  | nil =>
    rw [hs] at hd
    cases hd
  | cons w ws =>
    rw [hs] at hd
    have hmem {v : List (List Char)} (hv : v ∈ w :: ws) : v ∈ words s := hs ▸ hv
    rcases List.mem_append.1 hd with hd | hd
    · have hw := hmem List.mem_cons_self
      rw [smallWord, lower_ascii (isAscii_of_mem_words h hw), List.mem_map] at hd
      obtain ⟨c, hc, rfl⟩ := hd
      exact ⟨c, mem_of_mem_words h hw hc, Or.inl rfl⟩
    · obtain ⟨v, hv, hd⟩ := List.mem_flatMap.1 hd
      have hv := hmem (List.mem_cons_of_mem _ hv)
      obtain ⟨c, hc, hcase⟩ := mem_capitalized (isAscii_of_mem_words h hv) hd
      exact ⟨c, mem_of_mem_words h hv hc, hcase⟩

end AbiBindings.Text
