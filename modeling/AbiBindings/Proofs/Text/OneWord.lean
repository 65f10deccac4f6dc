import AbiBindings.Proofs.Text.Camel
import AbiBindings.Text.Blank

/-!
# Texts of one word

A text is one word if nothing separates its characters and no word ends between two neighbours.  For
letters this means small letters throughout, capitals throughout, or a capital in front of small
letters.  Camel case gives small letters for such texts alone, and for those with separators around.

    splitWords cs = [cs] for one word                                   (splitWords_of_unbroken)
    one word only → it stands between separators                        (exists_of_one_word)
    letters make one word ↔ SpellsWord                                  (unbroken_iff)
    camel s = word → s is a spelling of word, with separators around    (exists_of_camel_eq_small)
    SpellsWord word s → camel s = word                                  (camel_of_spellsWord)
-/

namespace AbiBindings.Text

/-! ## Clusters -/

/-- No word ends between two neighbours. -/
def Unbroken : List (List Char) → Prop
  | c :: d :: r => wordEnds c d r = false ∧ Unbroken (d :: r)
  | _ => True

section
variable {c d : List Char} {w after cs : List (List Char)}

/-- A word that does not end before many clusters does not end before the first few of them. -/
theorem wordEnds_of_append (h : wordEnds c d (w ++ after) = false) : wordEnds c d w = false := by
  unfold wordEnds at h ⊢
  cases w with
  | nil =>
    rw [Bool.or_eq_false_iff] at h
    simp [h.1]
  | cons e r => exact h

theorem splitWords_of_unbroken (hne : cs ≠ []) (hs : ∀ c ∈ cs, isSeparator c = false)
    (hu : Unbroken cs) : splitWords cs = [cs] := by
  induction cs with
  | nil => exact absurd rfl hne
  | cons c r ih =>
    obtain ⟨hc, hr⟩ := List.forall_mem_cons.1 hs
    cases r with
    | nil => simp [splitWords, hc]
    | cons d r =>
      obtain ⟨hends, hu⟩ := hu
      simp [splitWords, ih (List.cons_ne_nil _ _) hr hu, hc, hends]

/-- A separator in front starts an empty word. -/
theorem exists_splitWords_of_separator (hd : isSeparator d = true) (r : List (List Char)) :
    ∃ ws, splitWords (d :: r) = [] :: ws := by
  cases r with
  | nil => exact ⟨[[]], by simp [splitWords, hd]⟩
  | cons e r =>
    cases hw : splitWords (e :: r) with
    | nil => exact absurd hw (splitWords_ne_nil _)
    | cons w ws => exact ⟨w :: ws, by simp [splitWords, hw, hd]⟩

theorem separators_of_no_words (h : (splitWords cs).filter (!·.isEmpty) = []) :
    ∀ c ∈ cs, isSeparator c = true := by
  have hflat := flatten_splitWords cs
  rw [← List.flatten_filter_not_isEmpty, h, List.flatten_nil] at hflat
  intro c hc
  simpa using List.filter_eq_nil_iff.1 hflat.symm c hc

/-- A text of one word only is this word with separators around. -/
theorem exists_of_one_word (h : (splitWords cs).filter (!·.isEmpty) = [w]) :
    ∃ before after, cs = before ++ w ++ after ∧ (∀ c ∈ before, isSeparator c = true) ∧
      (∀ c ∈ after, isSeparator c = true) ∧ Unbroken w := by
  induction cs using splitWords.induct generalizing w with
  | case1 => simp [splitWords] at h
  | case2 c hs => simp [splitWords, hs] at h
  | case3 c hs =>
    simp only [splitWords, hs] at h
    obtain rfl : [c] = w := by simpa using h
    exact ⟨[], [], rfl, by simp, by simp, trivial⟩
  | case4 c d r hnil => exact absurd hnil (splitWords_ne_nil _)
  | case5 c d r v vs hv hs ih =>
    -- A separator in front stays outside.
    simp only [splitWords, hv, hs, if_true] at h
    rw [List.filter_cons_of_neg (by simp), ← hv] at h
    obtain ⟨before, after, hcs, hb, ha, hu⟩ := ih h
    refine ⟨c :: before, after, by rw [hcs, List.cons_append, List.cons_append], ?_, ha, hu⟩
    exact List.forall_mem_cons.2 ⟨hs, hb⟩
  | case6 c d r v vs hv hs he ih =>
    -- The first word ends, so there is no other one.
    simp only [splitWords, hv, hs, he, if_true] at h
    rw [if_neg (by simp), List.filter_cons_of_pos (by simp), List.cons.injEq, ← hv] at h
    obtain ⟨rfl, hnone⟩ := h
    exact ⟨[], d :: r, rfl, by simp, separators_of_no_words hnone, trivial⟩
  | case7 c d r v vs hv hs he ih =>
    simp only [splitWords, hv, hs, he] at h
    rw [if_neg (by simp), if_neg (by simp), List.filter_cons_of_pos (by simp),
      List.cons.injEq] at h
    obtain ⟨rfl, hnone⟩ := h
    cases v with
    | nil =>
      have hsep : (splitWords (d :: r)).filter (!·.isEmpty) = [] := by
        rw [hv, List.filter_cons_of_neg (by simp), hnone]
      exact ⟨[], d :: r, rfl, by simp, separators_of_no_words hsep, trivial⟩
    | cons e v =>
      have hone : (splitWords (d :: r)).filter (!·.isEmpty) = [e :: v] := by
        rw [hv, List.filter_cons_of_pos (by simp), hnone]
      obtain ⟨before, after, hcs, hb, ha, hu⟩ := ih hone
      cases before with
      | nil =>
        obtain ⟨rfl, rfl⟩ : d = e ∧ r = v ++ after := by simpa using hcs
        refine ⟨[], after, rfl, by simp, ha, ?_, hu⟩
        exact wordEnds_of_append (by simpa using he)
      | cons b before =>
        -- The first word of the rest begins with its first cluster, which is no separator.
        obtain ⟨rfl, -⟩ : d = b ∧ r = before ++ (e :: v) ++ after := by simpa using hcs
        obtain ⟨ws, hws⟩ := exists_splitWords_of_separator (hb d List.mem_cons_self) r
        rw [hv] at hws
        cases hws

end

/-! ## Letters -/

theorem isLower_isUpper_singleton {c : Char} (h : c.toNat < 0x80) :
    isLower [c] = c.isLower ∧ isUpper [c] = c.isUpper :=
  ascii_forall (P := fun c => isLower [c] = c.isLower ∧ isUpper [c] = c.isUpper)
    (by decide +kernel) h

theorem isAscii_of_letters {s : List Char} (h : ∀ c ∈ s, c.isAlpha = true) : IsAscii s :=
  fun c hc => toNat_lt_of_isAlpha (h c hc)

/-- A word of letters ends before a capital behind a small letter, and before the last capital of
several ones that a small letter follows. -/
theorem wordEnds_letters {c d : Char} {r : List Char} (h : ∀ e ∈ c :: d :: r, e.isAlpha = true) :
    wordEnds [c] [d] (r.map ([·])) = true ↔
      d.isLower = false ∧ (c.isLower = true ∨ ∃ e ∈ r.head?, e.isLower = true) := by
  have hletter {e : Char} (he : e ∈ c :: d :: r) :
      isLower [e] = e.isLower ∧ isUpper [e] = !e.isLower ∧ isDigitCluster [e] = false := by
    have hascii := toNat_lt_of_isAlpha (h e he)
    refine ⟨(isLower_isUpper_singleton hascii).1, ?_, ?_⟩
    · rw [(isLower_isUpper_singleton hascii).2, isUpper_eq_not_isLower (h e he)]
    · simp [isDigitCluster, not_isDigit_of_isAlpha (h e he)]
  obtain ⟨hcl, hcu, hcd⟩ := hletter List.mem_cons_self
  obtain ⟨hdl, hdu, hdd⟩ := hletter (List.mem_cons_of_mem _ List.mem_cons_self)
  unfold wordEnds breaksBetween
  rw [hcl, hcu, hcd, hdl, hdu, hdd]
  cases r with
  | nil => simp [and_comm]
  | cons e r =>
    obtain ⟨hel, -, -⟩ := hletter (e := e) (by simp)
    simp only [List.map_cons, breaksBeforeLast, hcu, hdu, hel]
    cases c.isLower <;> cases d.isLower <;> simp

/-- Letters make one word if those behind the first one are small, or none is. -/
theorem unbroken_iff {c : Char} {r : List Char} (h : ∀ e ∈ c :: r, e.isAlpha = true) :
    Unbroken ((c :: r).map ([·])) ↔
      (∀ e ∈ r, e.isLower = true) ∨ ∀ e ∈ c :: r, e.isLower = false := by
  induction r generalizing c with
  | nil => simp [Unbroken]
  | cons d r ih =>
    have hunbroken : Unbroken ((c :: d :: r).map ([·])) ↔
        ¬ (d.isLower = false ∧ (c.isLower = true ∨ ∃ e ∈ r.head?, e.isLower = true)) ∧
          ((∀ e ∈ r, e.isLower = true) ∨ ∀ e ∈ d :: r, e.isLower = false) := by
      rw [← wordEnds_letters h, ← ih (List.forall_mem_cons.1 h).2, Bool.not_eq_true]
      exact Iff.rfl
    rw [hunbroken]
    constructor
    · rintro ⟨hends, hsmall | hcapital⟩
      · cases hd : d.isLower with
        | true => exact Or.inl (List.forall_mem_cons.2 ⟨hd, hsmall⟩)
        | false =>
          -- The capital ends no word, so another one stands before it and nothing behind it.
          have hc : c.isLower = false := eq_false_of_ne_true fun hc => hends ⟨hd, Or.inl hc⟩
          cases r with
          | nil => exact Or.inr (by simp [hc, hd])
          | cons e r =>
            exact absurd ⟨hd, Or.inr ⟨e, rfl, hsmall e List.mem_cons_self⟩⟩ hends
      · have hd : d.isLower = false := hcapital d List.mem_cons_self
        have hc : c.isLower = false := eq_false_of_ne_true fun hc => hends ⟨hd, Or.inl hc⟩
        exact Or.inr (List.forall_mem_cons.2 ⟨hc, hcapital⟩)
    · rintro (hsmall | hcapital)
      · obtain ⟨hd, hr⟩ := List.forall_mem_cons.1 hsmall
        refine ⟨fun hends => ?_, Or.inl hr⟩
        rw [hd] at hends
        cases hends.1
      · obtain ⟨hc, hd⟩ := List.forall_mem_cons.1 hcapital
        refine ⟨?_, Or.inr hd⟩
        rintro ⟨-, hsmall | ⟨e, he, hsmall⟩⟩
        · rw [hc] at hsmall
          cases hsmall
        · rw [hd e (List.mem_cons_of_mem _ (List.mem_of_mem_head? he))] at hsmall
          cases hsmall

/-! ## Spellings -/

/-- A spelling of a word of small letters in one piece: as it is, with a capital in front, or in
capitals. -/
def SpellsWord (word s : List Char) : Prop :=
  s = word ∨ s = word.modifyHead Char.toUpper ∨ s = word.map Char.toUpper

instance (word s : List Char) : Decidable (SpellsWord word s) :=
  inferInstanceAs (Decidable (s = word ∨ s = word.modifyHead Char.toUpper ∨
    s = word.map Char.toUpper))

section
variable {word s : List Char}

theorem map_toLower_of_small (h : ∀ c ∈ s, c.isLower = true) : s.map Char.toLower = s :=
  map_eq_self fun c hc => toLower_of_isLower (h c hc)

theorem SpellsWord.isAlpha (h : SpellsWord word s) (hw : ∀ c ∈ word, c.isLower = true) :
    ∀ c ∈ s, c.isAlpha = true := by
  have hsmall {c : Char} (hc : c.isLower = true) : c.toUpper.isAlpha = true := by
    rw [isAlpha_toUpper, isAlpha_of_isLower hc]
  rcases h with rfl | rfl | rfl
  · exact fun c hc => isAlpha_of_isLower (hw c hc)
  · cases word with
    | nil => exact fun c hc => nomatch hc
    | cons c r =>
      obtain ⟨hc, hr⟩ := List.forall_mem_cons.1 hw
      exact List.forall_mem_cons.2 ⟨hsmall hc, fun d hd => isAlpha_of_isLower (hr d hd)⟩
  · exact List.forall_mem_map.2 fun c hc => hsmall (hw c hc)

theorem SpellsWord.map_toLower (h : SpellsWord word s) (hw : ∀ c ∈ word, c.isLower = true) :
    s.map Char.toLower = word := by
  have hback {c : Char} (hc : c.isLower = true) : c.toUpper.toLower = c := by
    rw [toLower_toUpper, toLower_of_isLower hc]
  rcases h with rfl | rfl | rfl
  · exact map_toLower_of_small hw
  · cases word with
    | nil => rfl
    | cons c r =>
      obtain ⟨hc, hr⟩ := List.forall_mem_cons.1 hw
      show c.toUpper.toLower :: r.map Char.toLower = c :: r
      rw [hback hc, map_toLower_of_small hr]
  · rw [List.map_map]
    exact map_eq_self fun c hc => hback (hw c hc)

theorem SpellsWord.unbroken (h : SpellsWord word s) (hw : ∀ c ∈ word, c.isLower = true) :
    Unbroken (s.map ([·])) := by
  have hletters := h.isAlpha hw
  cases word with
  | nil =>
    rcases h with rfl | rfl | rfl
    all_goals exact trivial
  | cons c r =>
    have hr : ∀ d ∈ r, d.isLower = true := (List.forall_mem_cons.1 hw).2
    rcases h with rfl | rfl | rfl
    · exact (unbroken_iff hletters).2 (Or.inl hr)
    · exact (unbroken_iff hletters).2 (Or.inl hr)
    · refine (unbroken_iff hletters).2 (Or.inr fun e he => ?_)
      obtain ⟨d, -, rfl⟩ := List.mem_map.1 (show e ∈ (c :: r).map Char.toUpper from he)
      exact isLower_toUpper d

/-- Letters in one piece spell the word of their small letters. -/
theorem spellsWord_of_unbroken (hletters : ∀ c ∈ s, c.isAlpha = true)
    (hu : Unbroken (s.map ([·]))) : SpellsWord (s.map Char.toLower) s := by
  cases s with
  | nil => exact Or.inl rfl
  | cons c r =>
    rcases (unbroken_iff hletters).1 hu with hr | hnone
    · cases hc : c.isLower with
      | true => exact Or.inl (map_toLower_of_small (List.forall_mem_cons.2 ⟨hc, hr⟩)).symm
      | false =>
        right; left
        show c :: r = c.toLower.toUpper :: r.map Char.toLower
        rw [map_toLower_of_small hr, toUpper_toLower_of_not_isLower hc]
    · right; right
      rw [List.map_map]
      exact (map_eq_self fun c hc => toUpper_toLower_of_not_isLower (hnone c hc)).symm

end

/-! ## Camel case -/

theorem camel_of_one_word {s l : List Char} (h : words s = [l.map ([·])]) :
    camel s = lower l := by
  rw [camel, h]
  show smallWord (l.map ([·])) ++ [] = lower l
  rw [List.append_nil, smallWord, ← List.flatMap_def, List.flatMap_singleton']

/-- Camel case keeps the spelling of a word in small letters together. -/
theorem camel_of_spellsWord {word s : List Char} (hne : word ≠ [])
    (hw : ∀ c ∈ word, c.isLower = true) (h : SpellsWord word s) : camel s = word := by
  have hlower : s.map Char.toLower = word := h.map_toLower hw
  have hletters : ∀ c ∈ s, c.isAlpha = true := h.isAlpha hw
  have hascii : IsAscii s := isAscii_of_letters hletters
  have hs : s ≠ [] := by
    rintro rfl
    exact hne hlower.symm
  have hsep : ∀ c ∈ s.map ([·]), isSeparator c = false := by
    intro cluster hmem
    obtain ⟨c, hc, rfl⟩ := List.mem_map.1 hmem
    have halnum : c.isAlphanum = true := by simp [Char.isAlphanum, hletters c hc]
    exact (isSeparator_singleton c).trans (isSeparatorChar_of_isAlphanum halnum)
  have hwords : words s = [s.map ([·])] := by
    rw [words, clusters_ascii hascii, splitWords_of_unbroken (by simpa using hs) hsep (h.unbroken hw)]
    simp [hs]
  rw [camel_of_one_word hwords, lower_ascii hascii, hlower]

/-- A word has a character that is not small if it is written with a capital in front. -/
theorem exists_mem_capitalWord {s : List Char} (h : IsAscii s) {w : List (List Char)}
    (hw : w ∈ words s) : ∃ c ∈ capitalWord w, c.isLower = false := by
  have hne : w ≠ [] := by simpa using (List.mem_filter.1 hw).2
  obtain ⟨cluster, rest, rfl⟩ := List.exists_cons_of_ne_nil hne
  have hascii := isAscii_of_mem_words h hw
  obtain ⟨c, -, hc⟩ : ∃ c ∈ s.filter (!isSeparatorChar ·), [c] = cluster := by
    rw [← List.mem_map, ← flatten_words h]
    exact List.mem_flatten.2 ⟨_, hw, List.mem_cons_self⟩
  rw [List.flatten_cons, ← hc, List.singleton_append] at hascii
  refine ⟨c.toUpper, ?_, isLower_toUpper c⟩
  rw [capitalWord, List.flatten_cons, ← hc, List.singleton_append, capitalized_ascii hascii]
  exact List.mem_cons_self

theorem exists_words_eq_singleton {s : List Char} (hs : IsAscii s) (hne : camel s ≠ [])
    (hsmall : ∀ c ∈ camel s, c.isLower = true) : ∃ w, words s = [w] := by
  unfold camel at hne hsmall
  cases hwords : words s with
  | nil =>
    rw [hwords] at hne
    exact absurd rfl hne
  | cons w ws =>
    cases ws with
    | nil => exact ⟨w, rfl⟩
    | cons v vs =>
      -- A second word would begin with a character that is not small.
      have hv : v ∈ words s := by simp [hwords]
      obtain ⟨c, hc, hlower⟩ := exists_mem_capitalWord hs hv
      rw [hwords] at hsmall
      have hmem : c ∈ (v :: vs).flatMap capitalWord :=
        List.mem_flatMap.2 ⟨v, List.mem_cons_self, hc⟩
      rw [hsmall c (List.mem_append_right _ hmem)] at hlower
      cases hlower

/-- Where camel case gives small letters only, there is one word, with separators around. -/
theorem exists_of_camel_eq_small {word s : List Char} (hs : IsAscii s) (hne : word ≠ [])
    (hw : ∀ c ∈ word, c.isLower = true) (h : camel s = word) :
    ∃ before core after, s = before ++ core ++ after ∧
      (∀ c ∈ before, isSeparatorChar c = true) ∧ (∀ c ∈ after, isSeparatorChar c = true) ∧
      SpellsWord word core := by
  obtain ⟨w, hone⟩ : ∃ w, words s = [w] :=
    exists_words_eq_singleton hs (by rwa [h]) (by rwa [h])
  have hsplit := hone
  rw [words, clusters_ascii hs] at hsplit
  obtain ⟨bs, as, hcs, hb, ha, hu⟩ := exists_of_one_word hsplit
  obtain ⟨front, after, rfl, hfront, rfl⟩ := List.map_eq_append_iff.1 hcs
  obtain ⟨before, core, rfl, rfl, rfl⟩ := List.map_eq_append_iff.1 hfront
  have hsep {l : List Char} (hl : ∀ c ∈ l.map ([·]), isSeparator c = true) :
      ∀ c ∈ l, isSeparatorChar c = true := by
    intro c hc
    rw [← isSeparator_singleton]
    exact hl [c] (List.mem_map_of_mem hc)
  have hcore : core.map Char.toLower = word := by
    have hascii : IsAscii core := hs.mono fun c hc => by simp [hc]
    rw [← lower_ascii hascii, ← camel_of_one_word hone, h]
  have hletters : ∀ c ∈ core, c.isAlpha = true := by
    intro c hc
    have hsmall : c.toLower.isLower = true := hw _ (hcore ▸ List.mem_map_of_mem hc)
    rwa [isLower_toLower] at hsmall
  refine ⟨before, core, after, rfl, hsep hb, hsep ha, ?_⟩
  rw [← hcore]
  exact spellsWord_of_unbroken hletters hu

end AbiBindings.Text
