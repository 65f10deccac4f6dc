import AbiBindings.Declaration.Import
import AbiBindings.Text.Split
import Mathlib.Data.List.Basic
import Mathlib.Data.List.TakeWhile

/-!
# Words in declarations

A word stands in a text as a longest run of word characters.  What a text is put between, and the
lines and blanks that it is laid out with, are no such characters at its ends, so the words of every
part of a declaration are words of the whole.

    w ∈ wordsOf text ↔ IsWordIn w text                                  (mem_wordsOf_iff)
    wordsOf s = (Text.lines s).flatMap wordsOf                          (wordsOf_eq_flatMap_lines)
    s ∈ items → KeepsWords s (between.intercalate items), and so on     (keepsWords_intercalate, …)
    s ∈ statements → KeepsWords s.text (sectionText statements)         (keepsWords_sectionText)
-/

namespace AbiBindings

/-! ## Words -/

/-- The text ends, if it is not empty, in a character of no word. -/
def EndsClear (s : String) : Prop := ∀ c ∈ s.toList.getLast?, isWordChar c = false

/-- The text starts, if it is not empty, with a character of no word. -/
def StartsClear (s : String) : Prop := ∀ c ∈ s.toList.head?, isWordChar c = false

/-- A longest run of word characters in a text. -/
structure IsWordIn (w text : String) : Prop where
  notEmpty : w ≠ ""
  chars : ∀ c ∈ w.toList, isWordChar c = true
  stands : ∃ before after, text = before ++ w ++ after ∧ EndsClear before ∧ StartsClear after

/-! ### Runs -/

/-- The runs of word characters in a text that hold something. -/
def wordsIn (s : List Char) : List (List Char) := (wordRuns s).filter (!·.isEmpty)

theorem wordRuns_ne_nil (s : List Char) : wordRuns s ≠ [] := by
  cases s with
  | nil => exact List.cons_ne_nil _ _
  | cons c r =>
    unfold wordRuns
    split
    · split
      · exact List.cons_ne_nil _ _
      · exact List.cons_ne_nil _ _
    · exact List.cons_ne_nil _ _

theorem wordRuns_cons_of_not {c : Char} (hc : isWordChar c = false) (s : List Char) :
    wordRuns (c :: s) = [] :: wordRuns s := by
  rw [wordRuns, hc]
  rfl

/-- Runs end at every other character. -/
theorem wordRuns_append {c : Char} (hc : isWordChar c = false) (s t : List Char) :
    wordRuns (s ++ c :: t) = wordRuns s ++ wordRuns t := by
  induction s with
  | nil => exact wordRuns_cons_of_not hc t
  | cons d s ih =>
    rw [List.cons_append, wordRuns, ih]
    conv => rhs; rw [wordRuns]
    split
    · cases hs : wordRuns s with
      | nil => exact absurd hs (wordRuns_ne_nil s)
      | cons w ws => rfl
    · rfl

theorem wordsIn_append {c : Char} (hc : isWordChar c = false) (s t : List Char) :
    wordsIn (s ++ c :: t) = wordsIn s ++ wordsIn t := by
  rw [wordsIn, wordRuns_append hc, List.filter_append]
  rfl

theorem wordRuns_of_chars {w : List Char} (h : ∀ c ∈ w, isWordChar c = true) :
    wordRuns w = [w] := by
  induction w with
  | nil => rfl
  | cons c w ih =>
    rw [List.forall_mem_cons] at h
    rw [wordRuns, h.1, ih h.2]
    rfl

theorem wordsIn_of_chars {w : List Char} (h : ∀ c ∈ w, isWordChar c = true) (hne : w ≠ []) :
    wordsIn w = [w] := by
  rw [wordsIn, wordRuns_of_chars h, List.filter_cons_of_pos (by simpa using hne)]
  rfl

/-- A word between texts that do not touch it. -/
theorem mem_wordsIn_of_apart {before w after : List Char} (h : ∀ c ∈ w, isWordChar c = true)
    (hne : w ≠ []) (hb : ∀ c ∈ before.getLast?, isWordChar c = false)
    (ha : ∀ c ∈ after.head?, isWordChar c = false) : w ∈ wordsIn (before ++ w ++ after) := by
  have hafter : w ∈ wordsIn (w ++ after) := by
    cases after with
    | nil => rw [List.append_nil, wordsIn_of_chars h hne]; exact List.mem_cons_self
    | cons c after =>
      rw [wordsIn_append (ha c rfl), wordsIn_of_chars h hne]
      exact List.mem_append_left _ List.mem_cons_self
  rw [List.append_assoc]
  cases hlast : before.getLast? with
  | none =>
    rw [List.getLast?_eq_none_iff.1 hlast]
    exact hafter
  | some c =>
    obtain ⟨s, rfl⟩ := List.getLast?_eq_some_iff.1 hlast
    rw [List.append_assoc, List.singleton_append, wordsIn_append (hb c hlast)]
    exact List.mem_append_right _ hafter

/-- A run that is not the first one stands behind a character that is of no word. -/
structure StandsBehind (w s : List Char) : Prop where
  chars : ∀ c ∈ w, isWordChar c = true
  apart : ∃ before after, s = before ++ w ++ after ∧ before ≠ [] ∧
    (∀ c ∈ before.getLast?, isWordChar c = false) ∧ ∀ c ∈ after.head?, isWordChar c = false

theorem StandsBehind.cons {w s : List Char} (h : StandsBehind w s) (c : Char) :
    StandsBehind w (c :: s) := by
  obtain ⟨before, after, rfl, hne, hb, ha⟩ := h.apart
  refine ⟨h.chars, c :: before, after, rfl, List.cons_ne_nil _ _, ?_, ha⟩
  rwa [List.getLast?_cons_of_ne_nil hne]

theorem head?_dropWhile_isWordChar (s : List Char) :
    ∀ c ∈ (s.dropWhile isWordChar).head?, isWordChar c = false := by
  intro c hc
  have hnot := List.head?_dropWhile_not isWordChar s
  rw [Option.mem_def.1 hc] at hnot
  simpa using hnot

/-- The first run is what the text starts with; every other one stands behind something. -/
theorem exists_wordRuns_eq (s : List Char) :
    ∃ ws, wordRuns s = s.takeWhile isWordChar :: ws ∧ ∀ w ∈ ws, StandsBehind w s := by
  induction s with
  | nil => exact ⟨[], rfl, fun w hw => absurd hw List.not_mem_nil⟩
  | cons c s ih =>
    obtain ⟨ws, hruns, hws⟩ := ih
    unfold wordRuns
    rw [hruns]
    -- The character makes the first run longer, or it ends it and the run is now behind it.
    split
    · rename_i hc
      rw [List.takeWhile_cons_of_pos hc]
      exact ⟨ws, rfl, fun w hw => (hws w hw).cons c⟩
    · rename_i hc
      rw [List.takeWhile_cons_of_neg hc]
      refine ⟨_, rfl, List.forall_mem_cons.2 ⟨⟨?_, [c], s.dropWhile isWordChar, ?_, ?_, ?_, ?_⟩,
        fun w hw => (hws w hw).cons c⟩⟩
      · exact fun d hd => List.mem_takeWhile_imp hd
      · rw [List.append_assoc, List.takeWhile_append_dropWhile]
        rfl
      · exact List.cons_ne_nil _ _
      · rintro d ⟨⟩
        exact Bool.eq_false_iff.2 hc
      · exact head?_dropWhile_isWordChar s

theorem mem_wordsIn_iff {w s : List Char} :
    w ∈ wordsIn s ↔ w ≠ [] ∧ (∀ c ∈ w, isWordChar c = true) ∧ ∃ before after,
      s = before ++ w ++ after ∧ (∀ c ∈ before.getLast?, isWordChar c = false) ∧
        ∀ c ∈ after.head?, isWordChar c = false := by
  constructor
  · intro h
    obtain ⟨hruns, hne⟩ := List.mem_filter.1 h
    refine ⟨by simpa using hne, ?_⟩
    obtain ⟨ws, hs, hws⟩ := exists_wordRuns_eq s
    rw [hs] at hruns
    rcases List.mem_cons.1 hruns with rfl | hw
    · exact ⟨fun c hc => List.mem_takeWhile_imp hc, [], s.dropWhile isWordChar,
        List.takeWhile_append_dropWhile.symm, (fun c hc => by cases hc),
        head?_dropWhile_isWordChar s⟩
    · obtain ⟨before, after, happend, -, hb, ha⟩ := (hws w hw).apart
      exact ⟨(hws w hw).chars, before, after, happend, hb, ha⟩
  · rintro ⟨hne, h, before, after, rfl, hb, ha⟩
    exact mem_wordsIn_of_apart h hne hb ha

/-- The words that are looked for in a text are its longest runs of word characters. -/
theorem mem_wordsOf_iff {w text : String} : w ∈ wordsOf text ↔ IsWordIn w text := by
  have hmem : w ∈ wordsOf text ↔ w.toList ∈ wordsIn text.toList := by
    rw [wordsOf, List.mem_map]
    constructor
    · rintro ⟨l, hl, rfl⟩
      rwa [String.toList_ofList]
    · intro h
      exact ⟨w.toList, h, String.ofList_toList⟩
  rw [hmem, mem_wordsIn_iff]
  constructor
  · rintro ⟨hne, h, before, after, htext, hb, ha⟩
    refine ⟨fun he => hne (by rw [he]; rfl), h, String.ofList before, String.ofList after,
      ?_, ?_, ?_⟩
    · rw [← String.toList_inj, htext]
      simp
    · rwa [EndsClear, String.toList_ofList]
    · rwa [StartsClear, String.toList_ofList]
  · rintro ⟨hne, h, before, after, rfl, hb, ha⟩
    refine ⟨fun he => hne (String.toList_eq_nil_iff.1 he), h, before.toList, after.toList, ?_,
      hb, ha⟩
    rw [String.toList_append, String.toList_append]

instance (w text : String) : Decidable (IsWordIn w text) :=
  decidable_of_iff (w ∈ wordsOf text) mem_wordsOf_iff

/-! ## Parts of texts -/

/-- The words of a part are words of the whole. -/
def KeepsWords (part whole : String) : Prop := ∀ w, IsWordIn w part → IsWordIn w whole

theorem KeepsWords.refl (s : String) : KeepsWords s s := fun _ h => h

theorem KeepsWords.trans {s t u : String} (h : KeepsWords s t) (h' : KeepsWords t u) :
    KeepsWords s u := fun w hw => h' w (h w hw)

/-! ### Separators -/

instance (s : String) : Decidable (EndsClear s) :=
  decidable_of_iff (s.toList.getLast?.all (!isWordChar ·) = true)
    (by simp [EndsClear, Option.all_eq_true])

instance (s : String) : Decidable (StartsClear s) :=
  decidable_of_iff (s.toList.head?.all (!isWordChar ·) = true)
    (by simp [StartsClear, Option.all_eq_true])

/-- A text that words cannot run through, from the left or from the right. -/
structure IsSeparator (s : String) : Prop where
  notEmpty : s ≠ ""
  startsClear : StartsClear s
  endsClear : EndsClear s

instance (s : String) : Decidable (IsSeparator s) :=
  decidable_of_iff (s ≠ "" ∧ StartsClear s ∧ EndsClear s)
    ⟨fun ⟨hne, hs, he⟩ => ⟨hne, hs, he⟩, fun ⟨hne, hs, he⟩ => ⟨hne, hs, he⟩⟩

theorem endsClear_empty : EndsClear "" := by
  intro c hc
  cases hc

theorem startsClear_empty : StartsClear "" := by
  intro c hc
  cases hc

theorem IsSeparator.endsClear_append {s : String} (h : IsSeparator s) (front : String) :
    EndsClear (front ++ s) := by
  have hne : s.toList ≠ [] := fun he => h.notEmpty (String.toList_eq_nil_iff.1 he)
  unfold EndsClear
  rw [String.toList_append, List.getLast?_append_of_ne_nil _ hne]
  exact h.endsClear

theorem IsSeparator.startsClear_append {s : String} (h : IsSeparator s) (back : String) :
    StartsClear (s ++ back) := by
  have hne : s.toList ≠ [] := fun he => h.notEmpty (String.toList_eq_nil_iff.1 he)
  unfold StartsClear
  rw [String.toList_append, List.head?_append_of_ne_nil _ hne]
  exact h.startsClear

/-- A part between texts that do not touch its words. -/
theorem keepsWords_between {before after : String} (hb : EndsClear before)
    (ha : StartsClear after) (s : String) : KeepsWords s (before ++ s ++ after) := by
  rintro w ⟨hne, h, front, back, rfl, hf, hk⟩
  refine ⟨hne, h, before ++ front, back ++ after, by simp only [String.append_assoc], ?_, ?_⟩
  · by_cases hfront : front = ""
    · rwa [hfront, String.append_empty]
    · have hlist : front.toList ≠ [] := fun he => hfront (String.toList_eq_nil_iff.1 he)
      unfold EndsClear
      rwa [String.toList_append, List.getLast?_append_of_ne_nil _ hlist]
  · by_cases hback : back = ""
    · rwa [hback, String.empty_append]
    · have hlist : back.toList ≠ [] := fun he => hback (String.toList_eq_nil_iff.1 he)
      unfold StartsClear
      rwa [String.toList_append, List.head?_append_of_ne_nil _ hlist]

theorem keepsWords_behind {before : String} (hb : EndsClear before) (s : String) :
    KeepsWords s (before ++ s) := by
  have h := keepsWords_between hb startsClear_empty s
  rwa [String.append_empty] at h

theorem keepsWords_before {after : String} (ha : StartsClear after) (s : String) :
    KeepsWords s (s ++ after) := by
  have h := keepsWords_between endsClear_empty ha s
  rwa [String.empty_append] at h

theorem keepsWords_intercalate {between : String} (hb : IsSeparator between) {items : List String}
    {s : String} (hs : s ∈ items) : KeepsWords s (between.intercalate items) := by
  induction items with
  | nil => cases hs
  | cons t rest ih =>
    cases rest with
    | nil =>
      rw [List.mem_singleton.1 hs, String.intercalate_singleton]
      exact .refl t
    | cons u rest =>
      rw [String.intercalate_cons_cons]
      rcases List.mem_cons.1 hs with rfl | hs
      · rw [String.append_assoc]
        exact keepsWords_before (hb.startsClear_append _) s
      · exact (ih hs).trans (keepsWords_behind (hb.endsClear_append t) _)

/-! ### Types -/

theorem keepsWords_bracketed {items : List String} {s : String} (hs : s ∈ items) :
    KeepsWords s (bracketed items) :=
  (keepsWords_intercalate (by decide) hs).trans (keepsWords_between (by decide) (by decide) _)

theorem keepsWords_braced {members : List String} {s : String} (hs : s ∈ members) :
    KeepsWords s (braced members) := by
  unfold braced
  rw [if_neg (by simpa using List.ne_nil_of_mem hs)]
  exact (keepsWords_intercalate (by decide) hs).trans (keepsWords_between (by decide) (by decide) _)

theorem keepsWords_arrayText (s : String) : KeepsWords s (arrayText s) := by
  unfold arrayText
  split
  · exact keepsWords_between (by decide) (by decide) s
  · exact keepsWords_before (by decide) s

theorem keepsWords_memberText (name type : String) : KeepsWords type (memberText name type) :=
  keepsWords_behind (IsSeparator.endsClear_append (by decide) name) type

section
variable {t u : TsType} {ts : List TsType} {f : Named TsType} {fs : List (Named TsType)}

theorem keepsWords_array : KeepsWords t.text (TsType.text (.array t)) := keepsWords_arrayText _

theorem keepsWords_tuple (ht : t ∈ ts) : KeepsWords t.text (TsType.text (.tuple ts)) := by
  rw [TsType.text, TsType.texts_eq_map]
  exact keepsWords_bracketed (List.mem_map_of_mem ht)

theorem keepsWords_object (hf : f ∈ fs) : KeepsWords f.type.text (TsType.text (.object fs)) := by
  rw [TsType.text, TsType.fieldTexts_eq_map]
  exact (keepsWords_memberText f.name _).trans (keepsWords_braced (List.mem_map_of_mem hf))

theorem keepsWords_left : KeepsWords t.text (TsType.text (.both t u)) := by
  rw [TsType.text, String.append_assoc]
  exact keepsWords_before (IsSeparator.startsClear_append (by decide) _) _

end

/-! ### Lines -/

/-- Lines cut a text where no word is. -/
theorem wordRuns_eq_flatMap_splitOn (s : List Char) :
    wordRuns s = (s.splitOn '\n').flatMap wordRuns := by
  induction s with
  | nil => rfl
  | cons c r ih =>
    obtain ⟨l, ls, hr, hcons⟩ := Text.splitOn_cons '\n' c r
    rw [hr, List.flatMap_cons] at ih
    rw [hcons]
    split
    · rename_i hc
      rw [wordRuns_cons_of_not (hc ▸ by decide), ih]
      rfl
    · rw [List.flatMap_cons, wordRuns, wordRuns, ih]
      split
      · cases hl : wordRuns l with
        | nil => exact absurd hl (wordRuns_ne_nil l)
        | cons w ws => rfl
      · rfl

theorem wordsIn_dropReturn (l : List Char) : wordsIn (Text.dropReturn l) = wordsIn l := by
  unfold Text.dropReturn
  split
  · rename_i hl
    obtain ⟨l, rfl⟩ := List.getLast?_eq_some_iff.1 hl
    rw [List.dropLast_concat, wordsIn_append (by decide)]
    exact (List.append_nil _).symm
  · rfl

theorem flatMap_wordsIn_endedLines (ls : List (List Char)) :
    (Text.endedLines ls).flatMap wordsIn = ls.flatMap wordsIn := by
  induction ls with
  | nil => rfl
  | cons l rest ih =>
    cases rest with
    | nil =>
      rw [Text.endedLines]
      split
      · rename_i hl
        rw [List.isEmpty_iff.1 hl]
        rfl
      · rfl
    | cons m rest =>
      rw [Text.endedLines, List.flatMap_cons, List.flatMap_cons, ih, wordsIn_dropReturn]
      exact List.cons_ne_nil _ _

/-- The words of a text are those of its lines. -/
theorem wordsOf_eq_flatMap_lines (s : String) : wordsOf s = (Text.lines s).flatMap wordsOf := by
  have hline (l : List Char) : wordsOf (String.ofList l) = (wordsIn l).map String.ofList := by
    rw [wordsOf, String.toList_ofList]
    rfl
  have hs : wordsIn s.toList = (s.toList.splitOn '\n').flatMap wordsIn := by
    rw [wordsIn, wordRuns_eq_flatMap_splitOn, List.filter_flatMap]
    rfl
  rw [Text.lines, List.flatMap_map]
  simp only [hline]
  rw [← List.map_flatMap, flatMap_wordsIn_endedLines, ← hs]
  rfl

theorem exists_line_of_isWordIn {w s : String} (h : IsWordIn w s) :
    ∃ l ∈ Text.lines s, IsWordIn w l := by
  simp only [← mem_wordsOf_iff] at h ⊢
  rw [wordsOf_eq_flatMap_lines] at h
  exact List.mem_flatMap.1 h

/-- Lines may be moved further in. -/
theorem keepsWords_lines {s : String} {texts : List String} (lead : String → String)
    (hlead : ∀ l, KeepsWords l (lead l)) (h : ∀ l ∈ Text.lines s, lead l ∈ texts) :
    KeepsWords s ("\n".intercalate texts) := by
  intro w hw
  obtain ⟨l, hl, hw⟩ := exists_line_of_isWordIn hw
  exact ((hlead l).trans (keepsWords_intercalate (by decide) (h l hl))) w hw

theorem keepsWords_blockText {members : List String} {s : String} (hs : s ∈ members) :
    KeepsWords s (blockText members) := by
  unfold blockText
  rw [if_neg (by simpa using List.ne_nil_of_mem hs)]
  refine KeepsWords.trans ?_ (keepsWords_between (by decide) (by decide) _)
  refine keepsWords_lines ("  " ++ ·) (fun l => keepsWords_behind (by decide) l) fun l hl => ?_
  exact List.mem_flatMap.2 ⟨s, hs, List.mem_map_of_mem hl⟩

theorem keepsWords_indent (s : String) : KeepsWords s (Text.indent s) := by
  refine keepsWords_lines (fun l => if l.isEmpty then "" else "  " ++ l) (fun l => ?_)
    fun l hl => List.mem_map_of_mem hl
  split
  · rename_i hl
    rw [String.isEmpty_iff.1 hl]
    exact .refl ""
  · exact keepsWords_behind (by decide) l

/-! ### Statements -/

theorem keepsWords_member (key : String) (body : AliasBody) {members : List (String × AliasBody)}
    (h : (key, body) ∈ members) : KeepsWords body.text (AliasBody.block members).text := by
  rw [AliasBody.text, AliasBody.memberTexts_eq_map]
  refine KeepsWords.trans ?_ (keepsWords_blockText (List.mem_map_of_mem h))
  exact (keepsWords_memberText key _).trans (keepsWords_before (by decide) _)

theorem keepsWords_alias (name : String) (body : AliasBody) :
    KeepsWords body.text (TypeAlias.text ⟨name, body⟩) :=
  keepsWords_between (IsSeparator.endsClear_append (by decide) _) (by decide) _

/-- A member of the object that an alias is for. -/
theorem keepsWords_aliasMember (key : String) (body : AliasBody) {name : String}
    {members : List (String × AliasBody)} (h : (key, body) ∈ members) :
    KeepsWords body.text (TypeAlias.text ⟨name, .block members⟩) :=
  (keepsWords_member key body h).trans (keepsWords_alias name _)

theorem keepsWords_module {name : String} {aliases : List TypeAlias} {a : TypeAlias}
    (ha : a ∈ aliases) : KeepsWords a.text (Statement.module name aliases).text := by
  have hparagraphs : KeepsWords a.text (paragraphs (aliases.map TypeAlias.text)) :=
    keepsWords_intercalate (by decide) (List.mem_map_of_mem ha)
  exact (hparagraphs.trans (keepsWords_indent _)).trans
    (keepsWords_between (IsSeparator.endsClear_append (by decide) _) (by decide) _)

theorem keepsWords_sectionText {statements : List Statement} {s : Statement}
    (hs : s ∈ statements) : KeepsWords s.text (sectionText statements) :=
  keepsWords_intercalate (by decide) (List.mem_map_of_mem hs)

end AbiBindings
