import AbiBindings.Declaration.Import
import AbiBindings.Text.Split
import Mathlib.Data.List.Basic
import Mathlib.Data.List.TakeWhile

/-!
# Tokens of type expressions

A text is taken apart into words and marks.  A word is a longest run of name characters and dots, so
a dotted name is one word; every other character is a mark, unless it is blank.  Texts that do not
meet in a word are taken apart one by one.

    t starts with no word → lex (s ++ t) = lex s ++ lex t               (lex_append)
    tokens (s ++ ", " ++ t) = tokens s ++ .mark ',' :: tokens t         (separates_comma)
-/

namespace AbiBindings

/-! ## Names -/

/-- A character of names: one of words, or any other that is not ASCII and not blank. -/
def isNameChar (c : Char) : Bool := isWordChar c || (0x80 ≤ c.toNat && !Text.isBlank c)

/-- A name without dots. -/
def isName (s : List Char) : Bool := !s.isEmpty && s.all isNameChar

/-- Names with dots between them. -/
def isDottedName (s : List Char) : Bool := (s.splitOn '.').all isName

/-! ## Words and marks -/

inductive TsToken where
  | word (chars : List Char)
  | mark (c : Char)
  deriving DecidableEq

/-- A character that words are made of. -/
def isWordPart (c : Char) : Bool := isNameChar c || c == '.'

/-- The tokens of a text. -/
def lex : List Char → List TsToken
  | [] => []
  | c :: r =>
    if isWordPart c then .word (c :: r.takeWhile isWordPart) :: lex (r.dropWhile isWordPart)
    else if Text.isBlank c then lex r
    else .mark c :: lex r
termination_by s => s.length
decreasing_by
  all_goals
    have := List.length_dropWhile_le isWordPart r
    simp only [List.length_cons]
    omega

/-- The tokens of a text. -/
def tokens (s : String) : List TsToken := lex s.toList

/-! ## Lemmas -/

/-- A text that cannot go on with a word. -/
def StartsApart (s : List Char) : Prop := ∀ c ∈ s.head?, isWordPart c = false

theorem startsApart_cons {c : Char} (h : isWordPart c = false) (s : List Char) :
    StartsApart (c :: s) := by
  intro d hd
  cases hd
  exact h

theorem takeWhile_append_of_apart {t : List Char} (h : StartsApart t) (s : List Char) :
    (s ++ t).takeWhile isWordPart = s.takeWhile isWordPart ∧
      (s ++ t).dropWhile isWordPart = s.dropWhile isWordPart ++ t := by
  induction s with
  | nil =>
    cases t with
    | nil => exact ⟨rfl, rfl⟩
    | cons d t =>
      have hd : isWordPart d = false := h d rfl
      simp [hd]
  | cons c s ih =>
    cases hc : isWordPart c with
    | true => simp [hc, ih]
    | false => simp [hc]

theorem lex_mark {c : Char} (hw : isWordPart c = false) (hb : Text.isBlank c = false)
    (r : List Char) : lex (c :: r) = .mark c :: lex r := by
  rw [lex, if_neg (by simp [hw]), if_neg (by simp [hb])]

theorem lex_blank {c : Char} (hw : isWordPart c = false) (hb : Text.isBlank c = true)
    (r : List Char) : lex (c :: r) = lex r := by
  rw [lex, if_neg (by simp [hw]), if_pos hb]

theorem lex_append {t : List Char} (h : StartsApart t) (s : List Char) :
    lex (s ++ t) = lex s ++ lex t := by
  induction s using lex.induct with
  | case1 => rw [lex, List.nil_append, List.nil_append]
  | case2 c r hc ih =>
    obtain ⟨htake, hdrop⟩ := takeWhile_append_of_apart h r
    rw [List.cons_append, lex, if_pos hc, htake, hdrop, ih, lex, if_pos hc, List.cons_append]
  | case3 c r hc hb ih =>
    rw [Bool.not_eq_true] at hc
    rw [List.cons_append, lex_blank hc hb, lex_blank hc hb, ih]
  | case4 c r hc hb ih =>
    rw [Bool.not_eq_true] at hc hb
    rw [List.cons_append, lex_mark hc hb, lex_mark hc hb, ih, List.cons_append]

/-- A run of word characters is one word. -/
theorem lex_word {w : List Char} (hne : w ≠ []) (h : ∀ c ∈ w, isWordPart c = true) :
    lex w = [.word w] := by
  cases w with
  | nil => exact absurd rfl hne
  | cons c r =>
    have hr : ∀ d ∈ r, isWordPart d = true := fun d hd => h d (List.mem_cons_of_mem c hd)
    rw [lex, if_pos (h c List.mem_cons_self), List.takeWhile_eq_self_iff.2 hr,
      List.dropWhile_eq_nil_iff.2 hr, lex]

/-! ### Names -/

theorem isWordPart_of_isName {s : List Char} (h : isName s = true) :
    ∀ c ∈ s, isWordPart c = true := by
  intro c hc
  simp only [isName, Bool.and_eq_true, List.all_eq_true] at h
  rw [isWordPart, h.2 c hc, Bool.true_or]

theorem ne_nil_of_isName {s : List Char} (h : isName s = true) : s ≠ [] := by
  rintro rfl
  cases h

theorem lex_name {s : List Char} (h : isName s = true) : lex s = [.word s] :=
  lex_word (ne_nil_of_isName h) (isWordPart_of_isName h)

theorem lex_dottedName {s : List Char} (h : isDottedName s = true) : lex s = [.word s] := by
  refine lex_word ?_ fun c hc => ?_
  · rintro rfl
    cases h
  · rcases Text.mem_splitOn_of_mem '.' hc with rfl | ⟨p, hp, hc⟩
    · rfl
    · exact isWordPart_of_isName (List.all_eq_true.1 h p hp) c hc

/-- A dotted name with more characters of names at its end. -/
theorem isDottedName_append {s t : List Char} (hs : isDottedName s = true)
    (ht : ∀ c ∈ t, isNameChar c = true) : isDottedName (s ++ t) = true := by
  have hdot : '.' ∉ t := fun hm => absurd (ht '.' hm) (by decide +kernel)
  obtain ⟨before, last, hp, hpt⟩ := Text.exists_splitOn_append hdot s
  unfold isDottedName at hs ⊢
  rw [hp, List.all_append, Bool.and_eq_true] at hs
  rw [hpt, List.all_append, Bool.and_eq_true]
  refine ⟨hs.1, ?_⟩
  have hlast : isName last = true := by simpa using hs.2
  simp only [isName, Bool.and_eq_true, List.all_eq_true] at hlast
  simp only [isName, List.all_cons, List.all_nil, Bool.and_true, Bool.and_eq_true,
    List.all_eq_true]
  refine ⟨by simp_all, fun c hc => ?_⟩
  rcases List.mem_append.1 hc with hc | hc
  · exact hlast.2 c hc
  · exact ht c hc

/-! ### Separators -/

/-- Between two texts, one text is one mark. -/
def Separates (between : String) (c : Char) : Prop :=
  ∀ s t, tokens (s ++ between ++ t) = tokens s ++ .mark c :: tokens t

theorem separates_of_lex {between : String} {c : Char} (hs : StartsApart between.toList)
    (h : ∀ r, lex (between.toList ++ r) = .mark c :: lex r) : Separates between c := by
  intro s t
  have hst : StartsApart (between.toList ++ t.toList) := by
    intro d hd
    cases hb : between.toList with
    | nil =>
      have := h []
      rw [hb, List.nil_append, lex] at this
      cases this
    | cons e r =>
      rw [hb] at hd hs
      exact hs d hd
  rw [tokens, String.toList_append, String.toList_append, List.append_assoc, lex_append hst, h]
  rfl

theorem separates_comma : Separates ", " ',' := by
  refine separates_of_lex (startsApart_cons (c := ',') (by decide) [' ']) fun r => ?_
  show lex (',' :: ' ' :: r) = _
  rw [lex_mark (by decide) (by decide), lex_blank (by decide) (by decide)]

theorem separates_colon : Separates ": " ':' := by
  refine separates_of_lex (startsApart_cons (c := ':') (by decide) [' ']) fun r => ?_
  show lex (':' :: ' ' :: r) = _
  rw [lex_mark (by decide) (by decide), lex_blank (by decide) (by decide)]

theorem separates_and : Separates " & " '&' := by
  refine separates_of_lex (startsApart_cons (c := ' ') (by decide) ['&', ' ']) fun r => ?_
  show lex (' ' :: '&' :: ' ' :: r) = _
  rw [lex_blank (by decide) (by decide), lex_mark (by decide) (by decide),
    lex_blank (by decide) (by decide)]

theorem separates_or : Separates " | " '|' := by
  refine separates_of_lex (startsApart_cons (c := ' ') (by decide) ['|', ' ']) fun r => ?_
  show lex (' ' :: '|' :: ' ' :: r) = _
  rw [lex_blank (by decide) (by decide), lex_mark (by decide) (by decide),
    lex_blank (by decide) (by decide)]

end AbiBindings
