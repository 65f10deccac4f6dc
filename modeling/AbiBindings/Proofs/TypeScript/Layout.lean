import AbiBindings.Declaration.Layout
import AbiBindings.Proofs.TypeScript.Balance
import AbiBindings.Text.Decimal

/-!
# Layout of balanced texts

A file is laid out from its parts: they are joined, put between brackets, and indented line by line.
Indentation is the one step that goes into a text; a line of it ends outside of literals, so blanks
in front of the next line are plain, and so are the carriage returns that get lost.  What is laid
out from balanced parts is balanced, and what is laid out from parts that close no more brackets
than they open closes no more either.

    a scan of lines with leads goes as one of the text                  (run_ledLines_iff)
    parts are balanced → LaidOut part s → s is balanced                 (LaidOut.isBalanced)
    parts keep the depth → LaidOut part s → s keeps the depth           (LaidOut.keepsDepth)
    s ++ rest is balanced, rest keeps the depth if s does
      → s is balanced                                                   (Balanced.of_append)
    a statement shows what is laid out → its text is laid out           (laidOut_statement)
-/

namespace AbiBindings

/-! ## Joined texts -/

/-- A property of the empty text that texts keep when they are joined. -/
structure JoinKeeps (P : List Char → Prop) : Prop where
  nil : P []
  append {s t : List Char} (hs : P s) (ht : P t) : P (s ++ t)

theorem joinKeeps_balanced : JoinKeeps Balanced := ⟨.nil, Balanced.append⟩

theorem joinKeeps_literalBody : JoinKeeps LiteralBody := ⟨.nil, LiteralBody.append⟩

namespace JoinKeeps

variable {P : List Char → Prop}

theorem text (hP : JoinKeeps P) {s t : String} (hs : P s.toList) (ht : P t.toList) :
    P (s ++ t).toList := by
  rw [String.toList_append]
  exact hP.append hs ht

theorem flatMap {α : Type} {f : α → List Char} (hP : JoinKeeps P) {l : List α}
    (h : ∀ a ∈ l, P (f a)) : P (l.flatMap f) := by
  induction l with
  | nil => exact hP.nil
  | cons a l ih =>
    rw [List.flatMap_cons]
    exact hP.append (h a List.mem_cons_self) (ih fun b hb => h b (List.mem_cons_of_mem a hb))

theorem intercalate (hP : JoinKeeps P) {between : String} (hb : P between.toList)
    {items : List String} (h : ∀ s ∈ items, P s.toList) : P (between.intercalate items).toList := by
  induction items with
  | nil => exact hP.nil
  | cons s rest ih =>
    have hs := h s List.mem_cons_self
    have hrest := ih fun t ht => h t (List.mem_cons_of_mem s ht)
    cases rest with
    | nil =>
      rw [String.intercalate_singleton]
      exact hs
    | cons t rest =>
      rw [String.intercalate_cons_cons]
      exact hP.text (hP.text hs hb) hrest

end JoinKeeps

/-! ## Balanced strings -/

def IsBalanced (s : String) : Prop := Balanced s.toList

instance (s : String) : Decidable (IsBalanced s) := inferInstanceAs (Decidable (Balanced s.toList))

theorem IsBalanced.append {s t : String} (hs : IsBalanced s) (ht : IsBalanced t) :
    IsBalanced (s ++ t) :=
  joinKeeps_balanced.text hs ht

theorem isBalanced_intercalate {between : String} (hb : IsBalanced between) {items : List String}
    (h : ∀ s ∈ items, IsBalanced s) : IsBalanced (between.intercalate items) :=
  joinKeeps_balanced.intercalate hb h

theorem isBalanced_doubleQuoted {s : String} (h : LiteralBody s.toList) :
    IsBalanced (doubleQuoted s) := by
  rw [IsBalanced, doubleQuoted, String.toList_append, String.toList_append]
  exact .literal h .nil

/-! ### Brackets -/

/-- The first text opens what the second one closes. -/
def Encloses (before after : List Char) : Prop :=
  ∃ opened, Scan.run Scan.start before = some ⟨opened, .code⟩ ∧
    Scan.run ⟨opened, .code⟩ after = some Scan.start

theorem Balanced.enclosed {before after s : List Char} (h : Encloses before after)
    (hs : Balanced s) : Balanced (before ++ s ++ after) := by
  obtain ⟨opened, hb, ha⟩ := h
  rw [balanced_iff_run, List.append_assoc, Scan.run_append, hb, Option.bind_some,
    Scan.run_balanced hs, ha]

theorem encloses_square : Encloses "[".toList "]".toList := ⟨[.square], by decide, by decide⟩

theorem IsBalanced.enclosed {before after s : String} (h : Encloses before.toList after.toList)
    (hs : IsBalanced s) : IsBalanced (before ++ s ++ after) := by
  rw [IsBalanced, String.toList_append, String.toList_append]
  exact Balanced.enclosed h hs

/-! ### Safe texts -/

/-- A text that may stand in code as well as between quotes. -/
structure IsSafe (s : String) : Prop where
  balanced : IsBalanced s
  literal : LiteralBody s.toList

theorem isSafe_of_words {s : String} (h : ∀ c ∈ s.toList, isWordChar c = true) : IsSafe s :=
  ⟨balanced_of_plain fun c hc => delimiter?_of_isWordChar (h c hc),
    literalBody_of_chars (List.all_eq_true.2 fun c hc => isLiteralChar_of_isWordChar (h c hc))⟩

theorem IsSafe.append {s t : String} (hs : IsSafe s) (ht : IsSafe t) : IsSafe (s ++ t) :=
  ⟨hs.balanced.append ht.balanced, joinKeeps_literalBody.text hs.literal ht.literal⟩

theorem isWordChar_toString (n : Nat) : ∀ c ∈ (toString n).toList, isWordChar c = true := by
  intro c hc
  rw [Nat.toString_eq_repr, Nat.toList_repr] at hc
  have hd : c.isDigit = true := (Text.isNumeral_toDigits n).digits c hc
  simp [isWordChar, Char.isAlphanum, hd]

/-! ### Type expressions -/

theorem isBalanced_bracketed {items : List String} (h : ∀ s ∈ items, IsBalanced s) :
    IsBalanced (bracketed items) :=
  (isBalanced_intercalate (by decide) h).enclosed encloses_square

theorem isBalanced_braced {members : List String} (h : ∀ s ∈ members, IsBalanced s) :
    IsBalanced (braced members) := by
  unfold braced
  split
  · decide
  · exact (isBalanced_intercalate (by decide) h).enclosed ⟨[.curly], by decide, by decide⟩

theorem isBalanced_arrayText {element : String} (h : IsBalanced element) :
    IsBalanced (arrayText element) := by
  unfold arrayText
  split
  · exact h.enclosed ⟨[.round], by decide, by decide⟩
  · exact h.append (by decide)

theorem isBalanced_memberText {name type : String} (hn : IsBalanced name) (ht : IsBalanced type) :
    IsBalanced (memberText name type) :=
  (hn.append (by decide)).append ht

/-! ## Lines -/

/-- Lines, each with its end and with a lead in front of it. -/
def ledLines (lead : List Char → List Char) (lines : List (List Char)) : List Char :=
  lines.flatMap fun l => lead l ++ l ++ ['\n']

namespace Scan

variable {σ τ : Scan} {l : List Char}

theorem run_dropReturn_line_iff :
    run σ (Text.dropReturn l ++ ['\n']) = some τ ↔ run σ (l ++ ['\n']) = some τ := by
  unfold Text.dropReturn
  split
  · rename_i hl
    obtain ⟨l, rfl⟩ := List.getLast?_eq_some_iff.1 hl
    rw [List.dropLast_concat, run_line_iff rfl, run_line_iff rfl, run_line_iff rfl, and_assoc,
      and_self]
  · rfl

/-- Balanced leads go unnoticed. -/
theorem run_led {lead : List Char} (hlead : Balanced lead) (hσ : σ.mode = .code) (s : List Char) :
    run σ (lead ++ s) = run σ s := by
  obtain ⟨opened, _⟩ := σ
  cases hσ
  exact run_balanced hlead opened s

theorem run_nil_iff (hσ : σ.mode = .code) :
    run σ [] = some τ ↔ run σ [] = some τ ∧ τ.mode = .code :=
  ⟨fun h => ⟨h, Option.some.inj h ▸ hσ⟩, And.left⟩

/-- A scan of lines, with leads, goes as one of the text that the lines are from, if the last line
may end where it does. -/
theorem run_ledLines_iff {lead : List Char → List Char} (hlead : ∀ l, Balanced (lead l))
    (hσ : σ.mode = .code) {lines : List (List Char)} :
    run σ (ledLines lead (Text.endedLines lines)) = some τ ↔
      run σ (['\n'].intercalate lines) = some τ ∧ τ.mode = .code := by
  induction lines generalizing σ with
  | nil => exact run_nil_iff hσ
  | cons l rest ih =>
    cases rest with
    | nil =>
      rw [List.intercalate_singleton, Text.endedLines]
      split
      · rename_i hl
        rw [List.isEmpty_iff.1 hl]
        exact run_nil_iff hσ
      · rw [ledLines, List.flatMap_singleton, List.append_assoc, run_led (hlead l) hσ,
          run_line_iff rfl]
    | cons m rest =>
      show run σ (ledLines lead (Text.dropReturn l :: Text.endedLines (m :: rest))) = _ ↔ _
      rw [ledLines, List.flatMap_cons, ← ledLines, List.intercalate_cons_cons, List.append_assoc,
        List.append_assoc, run_led (hlead _) hσ, ← List.append_assoc]
      simp only [run_append_eq_some_iff (s := _ ++ _), run_dropReturn_line_iff]
      -- Both scans are in code behind this line, where the next lead is read.
      constructor
      · rintro ⟨ρ, hl, hrest⟩
        have hρ := ((run_line_iff rfl).1 hl).2
        obtain ⟨hrest, hτ⟩ := (ih hρ).1 hrest
        exact ⟨⟨ρ, hl, hrest⟩, hτ⟩
      · rintro ⟨⟨ρ, hl, hrest⟩, hτ⟩
        have hρ := ((run_line_iff rfl).1 hl).2
        exact ⟨ρ, hl, (ih hρ).2 ⟨hrest, hτ⟩⟩

end Scan

/-! ## Layouts -/

/-- A text that is made from parts and from balanced texts, by joining, by brackets around a text,
and by leads in front of its lines. -/
inductive LaidOut (part : List Char → Prop) : List Char → Prop where
  | part {s : List Char} (h : part s) : LaidOut part s
  | balanced {s : List Char} (h : Balanced s) : LaidOut part s
  | append {s t : List Char} (hs : LaidOut part s) (ht : LaidOut part t) : LaidOut part (s ++ t)
  | enclosed {before after s : List Char} (h : Encloses before after) (hs : LaidOut part s) :
    LaidOut part (before ++ s ++ after)
  | led {lead : List Char → List Char} (hlead : ∀ l, Balanced (lead l)) {lines : List (List Char)}
    (h : LaidOut part (['\n'].intercalate lines)) :
    LaidOut part (ledLines lead (Text.endedLines lines))

/-- Where a scan of the text goes through, all that was open is so behind it. -/
def KeepsDepth (s : List Char) : Prop :=
  ∀ ⦃σ τ : Scan⦄, σ.mode = .code → Scan.run σ s = some τ →
    τ.mode = .code ∧ σ.opened.length ≤ τ.opened.length

theorem keepsDepth_of_run {s : List Char} {τ : Scan} (h : Scan.run Scan.start s = some τ)
    (hτ : τ.mode = .code) : KeepsDepth s := by
  intro σ σ' hσ hs
  obtain ⟨hmode, hlength⟩ := Scan.run_length hs h hσ
  simp only [Scan.start, List.length_nil] at hlength
  exact ⟨hmode.trans hτ, by omega⟩

theorem KeepsDepth.append {s t : List Char} (hs : KeepsDepth s) (ht : KeepsDepth t) :
    KeepsDepth (s ++ t) := by
  intro σ τ hσ h
  obtain ⟨ρ, hρ, hτ⟩ := Scan.run_append_eq_some_iff.1 h
  obtain ⟨hmode, hopened⟩ := hs hσ hρ
  obtain ⟨hmode', hopened'⟩ := ht hmode hτ
  exact ⟨hmode', Nat.le_trans hopened hopened'⟩

theorem KeepsDepth.enclosed {before after s : List Char} (hopen : Encloses before after)
    (hs : KeepsDepth s) : KeepsDepth (before ++ s ++ after) := by
  intro σ τ hσ h
  obtain ⟨opened, hb, ha⟩ := hopen
  obtain ⟨ρ', h, hafter⟩ := Scan.run_append_eq_some_iff.1 h
  obtain ⟨ρ, hbefore, hinside⟩ := Scan.run_append_eq_some_iff.1 h
  -- The text behind closes as many brackets as the one in front opens.
  obtain ⟨hρ, hdeeper⟩ := Scan.run_length hbefore hb hσ
  obtain ⟨hρ', hkept⟩ := hs hρ hinside
  obtain ⟨hτ, hback⟩ := Scan.run_length hafter ha hρ'
  simp only [Scan.start, List.length_nil] at hdeeper hback
  exact ⟨hτ, by omega⟩

section
variable {part : List Char → Prop} {s : List Char}

theorem joinKeeps_laidOut : JoinKeeps (LaidOut part) := ⟨.balanced .nil, .append⟩

theorem LaidOut.isBalanced (hpart : ∀ p, part p → Balanced p) (h : LaidOut part s) :
    Balanced s := by
  induction h with
  | part h => exact hpart _ h
  | balanced h => exact h
  | append _ _ ihs iht => exact ihs.append iht
  | enclosed hopen _ ih => exact ih.enclosed hopen
  | led hlead _ ih =>
    rw [balanced_iff_run] at ih ⊢
    exact (Scan.run_ledLines_iff hlead rfl).2 ⟨ih, rfl⟩

theorem LaidOut.keepsDepth (hpart : ∀ p, part p → KeepsDepth p) (h : LaidOut part s) :
    KeepsDepth s := by
  induction h with
  | part h => exact hpart _ h
  | balanced h => exact keepsDepth_of_run (balanced_iff_run.1 h) rfl
  | append _ _ ihs iht => exact ihs.append iht
  | enclosed hopen _ ih => exact ih.enclosed hopen
  | led hlead _ ih =>
    intro σ τ hσ h
    exact ih hσ ((Scan.run_ledLines_iff hlead hσ).1 h).1

end

/-! ### First places -/

/-- The first line ends, and has no quote. -/
def UnquotedLine (s : List Char) : Prop := ∃ line after, '"' ∉ line ∧ s = line ++ '\n' :: after

theorem UnquotedLine.behind {p s : List Char} (h : UnquotedLine s) (hp : '"' ∉ p) :
    UnquotedLine (p ++ s) := by
  obtain ⟨line, after, hline, rfl⟩ := h
  refine ⟨p ++ line, after, ?_, (List.append_assoc _ _ _).symm⟩
  simp only [List.mem_append, not_or]
  exact ⟨hp, hline⟩

/-- A text at the start of a balanced one is balanced if nothing behind it closes more than what it
opens, and its literals have to be closed on the line. -/
theorem Balanced.of_append {s rest : List Char} (h : Balanced (s ++ rest))
    (hline : UnquotedLine rest) (hrest : KeepsDepth s → KeepsDepth rest) : Balanced s := by
  obtain ⟨τ, hs, hback⟩ := Scan.run_append_eq_some_iff.1 (balanced_iff_run.1 h)
  have hmode : τ.mode = .code := by
    by_contra hne
    obtain ⟨line, after, hquote, rfl⟩ := hline
    exact Scan.run_unclosed hne hquote rfl after hback
  obtain ⟨-, hkept⟩ := hrest (keepsDepth_of_run hs hmode) hmode hback
  have hopened : τ.opened = [] := List.length_eq_zero_iff.1 (Nat.le_zero.1 hkept)
  rw [balanced_iff_run, hs, Scan.start, ← hopened, ← hmode]

/-! ### Members -/

/-- Texts, each with a mark behind it. -/
def markedText (mark : String) (texts : List String) : List Char :=
  texts.flatMap fun t => t.toList ++ mark.toList

theorem toList_intercalate_append_mark (mark : String) {texts : List String} (h : texts ≠ []) :
    (mark.intercalate texts).toList ++ mark.toList = markedText mark texts := by
  induction texts with
  | nil => exact absurd rfl h
  | cons t rest ih =>
    cases rest with
    | nil => simp [markedText]
    | cons u rest =>
      have hrest := ih (List.cons_ne_nil _ _)
      rw [markedText, List.flatMap_cons, ← markedText, ← hrest, String.intercalate_cons_cons]
      simp

section
variable {part : List Char → Prop}

/-- A balanced string. -/
theorem LaidOut.text {s : String} (h : IsBalanced s) : LaidOut part s.toList := .balanced h

theorem LaidOut.join {s t : String} (hs : LaidOut part s.toList) (ht : LaidOut part t.toList) :
    LaidOut part (s ++ t).toList :=
  joinKeeps_laidOut.text hs ht

/-- Lines between two others, of which the first one opens a bracket. -/
theorem laidOut_enclosedLines {before : String} (hb : Encloses before.toList ['}'])
    {lines : List String} (h : LaidOut part (markedText "\n" lines)) :
    LaidOut part (before ++ "\n".intercalate lines ++ ("\n" ++ r"}")).toList := by
  have hended : LaidOut part (("\n".intercalate lines).toList ++ "\n".toList) := by
    by_cases hl : lines = []
    · rw [hl]
      exact .balanced (by decide)
    · rwa [toList_intercalate_append_mark "\n" hl]
  rw [String.toList_append, String.toList_append]
  simpa using LaidOut.enclosed hb hended

theorem laidOut_linesOf {lead : List Char → List Char} (hlead : ∀ l, Balanced (lead l))
    {s : String} (h : LaidOut part s.toList) :
    LaidOut part (ledLines lead (Text.endedLines (s.toList.splitOn '\n'))) := by
  refine .led hlead ?_
  rwa [List.intercalate_splitOn]

theorem laidOut_indentLines {s : String} (h : LaidOut part s.toList) :
    LaidOut part (markedText "\n" (Text.indentLines s)) := by
  have hlead (_ : List Char) : Balanced [' ', ' '] := by decide
  have hlines := laidOut_linesOf hlead h
  rw [markedText, Text.indentLines, Text.lines, List.flatMap_map, List.flatMap_map]
  simpa [ledLines] using hlines

theorem laidOut_blockText {members : List String} (h : ∀ m ∈ members, LaidOut part m.toList) :
    LaidOut part (blockText members).toList := by
  unfold blockText
  split
  · exact .text (by decide)
  refine laidOut_enclosedLines ⟨[.curly], by decide, by decide⟩ ?_
  rw [markedText, List.flatMap_assoc]
  exact joinKeeps_laidOut.flatMap fun m hm => laidOut_indentLines (h m hm)

/-- The lines of a text, those that hold something further in. -/
theorem laidOut_indent {before : String} (hb : Encloses before.toList ['}']) {s : String}
    (h : LaidOut part s.toList) :
    LaidOut part (before ++ Text.indent s ++ ("\n" ++ r"}")).toList := by
  refine laidOut_enclosedLines hb ?_
  have hlead (l : List Char) : Balanced (if l.isEmpty then [] else [' ', ' ']) := by
    split <;> decide
  have hlines := laidOut_linesOf hlead h
  rw [markedText, Text.lines, List.flatMap_map, List.flatMap_map]
  refine (congrArg (fun f => LaidOut part (List.flatMap f _)) (funext fun l => ?_)).mp hlines
  cases l <;> simp

end

/-! ### Statements -/

/-- All texts that the body of an alias shows are laid out from the parts. -/
inductive AliasBody.FromParts (part : List Char → Prop) : AliasBody → Prop where
  | type {text : String} (h : LaidOut part text.toList) : FromParts part (.type text)
  | block {members : List (String × AliasBody)} (hk : ∀ m ∈ members, LaidOut part m.1.toList)
    (hb : ∀ m ∈ members, FromParts part m.2) : FromParts part (.block members)

/-- All texts that an alias shows are laid out from the parts. -/
structure TypeAlias.FromParts (part : List Char → Prop) (a : TypeAlias) : Prop where
  name : LaidOut part a.name.toList
  body : a.body.FromParts part

/-- All texts that a statement shows are laid out from the parts. -/
inductive Statement.FromParts (part : List Char → Prop) : Statement → Prop where
  | single {a : TypeAlias} (h : a.FromParts part) : FromParts part (.alias a)
  | scope {name : String} {aliases : List TypeAlias} (hn : LaidOut part name.toList)
    (h : ∀ a ∈ aliases, a.FromParts part) : FromParts part (.module name aliases)

section
variable {part : List Char → Prop}

theorem laidOut_body {b : AliasBody} (h : b.FromParts part) : LaidOut part b.text.toList := by
  induction h with
  | type h => exact h
  | @block members hk _ ih =>
    rw [AliasBody.text, AliasBody.memberTexts_eq_map]
    refine laidOut_blockText (List.forall_mem_map.2 fun m hm => ?_)
    exact (((hk m hm).join (.text (by decide))).join (ih m hm)).join (.text (by decide))

theorem laidOut_alias {a : TypeAlias} (h : a.FromParts part) : LaidOut part a.text.toList :=
  ((((LaidOut.text (by decide : IsBalanced "export type ")).join h.name).join
    (.text (by decide))).join (laidOut_body h.body)).join (.text (by decide))

theorem laidOut_paragraphs {texts : List String} (h : ∀ t ∈ texts, LaidOut part t.toList) :
    LaidOut part (paragraphs texts).toList :=
  joinKeeps_laidOut.intercalate (.text (by decide)) h

theorem laidOut_statement {s : Statement} (h : s.FromParts part) :
    LaidOut part s.text.toList := by
  cases h with
  | single h => exact laidOut_alias h
  | @scope name aliases hn h =>
    have hhead := (LaidOut.text (by decide : IsBalanced "export declare namespace ")).join hn
    have haliases := laidOut_paragraphs (List.forall_mem_map.2 fun a ha => laidOut_alias (h a ha))
    have hbody : Encloses (r" {" ++ "\n").toList ['}'] := ⟨[.curly], by decide, by decide⟩
    have hgroup (a b c d e : String) : a ++ b ++ (c ++ d ++ e) = a ++ b ++ c ++ d ++ e := by
      simp only [String.append_assoc]
    have := hhead.join (laidOut_indent hbody haliases)
    rwa [hgroup] at this

theorem laidOut_sectionText {statements : List Statement}
    (h : ∀ s ∈ statements, s.FromParts part) : LaidOut part (sectionText statements).toList :=
  laidOut_paragraphs (List.forall_mem_map.2 fun s hs => laidOut_statement (h s hs))

end

/-- A section of statements that can be made from any parts. -/
theorem isBalanced_sectionText {statements : List Statement}
    (h : ∀ part, ∀ s ∈ statements, s.FromParts part) : IsBalanced (sectionText statements) :=
  (laidOut_sectionText (h fun _ => False)).isBalanced fun _ hp => hp.elim

theorem isBalanced_fileText_iff {sections : List String} (h : sections ≠ []) :
    IsBalanced (fileText sections) ↔ Balanced (markedText "\n\n" sections) := by
  have hmarked : (fileText sections).toList ++ ['\n'] =
      fileHeader.toList ++ markedText "\n\n" sections := by
    rw [← toList_intercalate_append_mark "\n\n" h, fileText, paragraphs, String.toList_append,
      String.toList_append]
    simp
  rw [IsBalanced, ← balanced_line_iff (rfl : endsLine '\n' = true), hmarked,
    balanced_append_iff (by decide : IsBalanced fileHeader)]

/-- Balanced sections at the top of a file tell nothing of the file. -/
theorem isBalanced_fileText_append_iff {front : List String} (h : ∀ t ∈ front, IsBalanced t)
    (t : String) (back : List String) : IsBalanced (fileText (front ++ t :: back)) ↔
      Balanced (t.toList ++ '\n' :: '\n' :: markedText "\n\n" back) := by
  have hfront : Balanced (markedText "\n\n" front) :=
    joinKeeps_balanced.flatMap fun t ht => Balanced.append (h t ht) (by decide)
  have hsplit : markedText "\n\n" (front ++ t :: back) =
      markedText "\n\n" front ++ (t.toList ++ '\n' :: '\n' :: markedText "\n\n" back) := by
    simp [markedText]
  rw [isBalanced_fileText_iff (by simp), hsplit, balanced_append_iff hfront]

end AbiBindings
