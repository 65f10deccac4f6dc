import AbiBindings.Declaration.Import
import Mathlib.Data.List.Basic

/-!
# Balanced texts

    text = { plain | quote body quote | open text close }
    body = { character | escape character }

Plain is whatever is no quote and no bracket, the two brackets around a text are a pair, and the
body of a literal stands on one line.  A scan from the left, which keeps the brackets that are open,
ends as it began exactly on the balanced texts.

    Balanced s → Balanced t → Balanced (s ++ t)                         (Balanced.append)
    Balanced s ↔ a scan of s ends as it began                           (balanced_iff_run)
-/

namespace AbiBindings

/-! ## Delimiters -/

/-- A pair of brackets. -/
inductive Bracket where
  | curly | square | round
  deriving DecidableEq

def Bracket.opening : Bracket → Char
  | .curly => '{'
  | .square => '['
  | .round => '('

def Bracket.closing : Bracket → Char
  | .curly => '}'
  | .square => ']'
  | .round => ')'

/-- What is not plain outside of literals. -/
inductive Delimiter where
  | quote
  | opens (k : Bracket)
  | closes (k : Bracket)

def Delimiter.char : Delimiter → Char
  | .quote => '"'
  | .opens k => k.opening
  | .closes k => k.closing

def delimiter? : Char → Option Delimiter
  | '"' => some .quote
  | '{' => some (.opens .curly)
  | '[' => some (.opens .square)
  | '(' => some (.opens .round)
  | '}' => some (.closes .curly)
  | ']' => some (.closes .square)
  | ')' => some (.closes .round)
  | _ => none

theorem delimiter?_eq_some_iff {c : Char} {m : Delimiter} : delimiter? c = some m ↔ c = m.char := by
  constructor
  · intro h
    unfold delimiter? at h
    split at h
    all_goals
      cases h
      try rfl
  · rintro rfl
    cases m with
    | quote => rfl
    | opens k | closes k => cases k <;> rfl

/-- A character that ends a line, or does so with the next one. -/
def endsLine (c : Char) : Bool := c == '\n' || c == '\r'

theorem delimiter?_of_endsLine {c : Char} (h : endsLine c = true) : delimiter? c = none := by
  rw [endsLine, Bool.or_eq_true, beq_iff_eq, beq_iff_eq] at h
  rcases h with rfl | rfl <;> rfl

/-! ## Grammar -/

/-- What may stand between the quotes of a literal. -/
inductive LiteralBody : List Char → Prop where
  | nil : LiteralBody []
  | char {c : Char} {s : List Char} (hq : c ≠ '"') (hb : c ≠ '\\') (hl : endsLine c = false)
    (h : LiteralBody s) : LiteralBody (c :: s)
  | escaped {c : Char} {s : List Char} (hl : endsLine c = false) (h : LiteralBody s) :
    LiteralBody ('\\' :: c :: s)

inductive Balanced : List Char → Prop where
  | nil : Balanced []
  | plain {c : Char} {s : List Char} (hc : delimiter? c = none) (h : Balanced s) : Balanced (c :: s)
  | literal {b s : List Char} (hb : LiteralBody b) (h : Balanced s) :
    Balanced ('"' :: (b ++ '"' :: s))
  | group {b s : List Char} (k : Bracket) (hb : Balanced b) (h : Balanced s) :
    Balanced (k.opening :: (b ++ k.closing :: s))

theorem LiteralBody.append {s t : List Char} (hs : LiteralBody s) (ht : LiteralBody t) :
    LiteralBody (s ++ t) := by
  induction hs with
  | nil => exact ht
  | char hq hb hl _ ih => exact .char hq hb hl ih
  | escaped hl _ ih => exact .escaped hl ih

theorem Balanced.append {s t : List Char} (hs : Balanced s) (ht : Balanced t) :
    Balanced (s ++ t) := by
  induction hs with
  | nil => exact ht
  | plain hc _ ih => exact .plain hc ih
  | literal hb _ ih =>
    rw [List.cons_append, List.append_assoc, List.cons_append]
    exact .literal hb ih
  | group k hb _ _ ih =>
    rw [List.cons_append, List.append_assoc, List.cons_append]
    exact .group k hb ih

theorem balanced_of_plain {s : List Char} (h : ∀ c ∈ s, delimiter? c = none) : Balanced s := by
  induction s with
  | nil => exact .nil
  | cons c s ih =>
    exact .plain (h c List.mem_cons_self) (ih fun d hd => h d (List.mem_cons_of_mem c hd))

/-! ### Words -/

/-- A character that literals hold as it is. -/
def isLiteralChar (c : Char) : Bool := c != '"' && c != '\\' && !endsLine c

theorem literalBody_of_chars {s : List Char} (h : s.all isLiteralChar = true) :
    LiteralBody s := by
  induction s with
  | nil => exact .nil
  | cons c s ih =>
    rw [List.all_cons, Bool.and_eq_true] at h
    have hc := h.1
    simp only [isLiteralChar, Bool.and_eq_true, bne_iff_ne, Bool.not_eq_true'] at hc
    exact .char hc.1.1 hc.1.2 hc.2 (ih h.2)

theorem delimiter?_of_isWordChar {c : Char} (h : isWordChar c = true) : delimiter? c = none := by
  cases hd : delimiter? c with
  | none => rfl
  | some m =>
    cases delimiter?_eq_some_iff.1 hd
    cases m with
    | quote => cases h
    | opens k | closes k => cases k <;> cases h

theorem isLiteralChar_of_isWordChar {c : Char} (h : isWordChar c = true) :
    isLiteralChar c = true := by
  by_contra hc
  simp only [isLiteralChar, endsLine, Bool.not_eq_true, Bool.and_eq_false_iff, bne_eq_false_iff_eq,
    Bool.not_eq_false', Bool.or_eq_true, beq_iff_eq] at hc
  rcases hc with (rfl | rfl) | rfl | rfl
  all_goals cases h

/-! ## Scan -/

/-- Where in a text a scan is. -/
inductive ScanMode where
  | code | literal | escape
  deriving DecidableEq

/-- What a scan knows of the text behind it: the brackets that are open, the last one first, and
where the text ended. -/
structure Scan where
  opened : List Bracket
  mode : ScanMode
  deriving DecidableEq

namespace Scan

/-- The scan of a character, unless it cannot stand there. -/
def step (σ : Scan) (c : Char) : Option Scan :=
  match σ.mode with
  | .code =>
    match delimiter? c with
    | none => some σ
    | some .quote => some ⟨σ.opened, .literal⟩
    | some (.opens k) => some ⟨k :: σ.opened, .code⟩
    | some (.closes k) =>
      if σ.opened.head? = some k then some ⟨σ.opened.tail, .code⟩ else none
  | .literal =>
    if endsLine c then none
    else if c = '"' then some ⟨σ.opened, .code⟩
    else if c = '\\' then some ⟨σ.opened, .escape⟩
    else some σ
  | .escape => if endsLine c then none else some ⟨σ.opened, .literal⟩

/-- The scan of a text. -/
def run (σ : Scan) (s : List Char) : Option Scan := s.foldlM step σ

def start : Scan := ⟨[], .code⟩

/-! ### Steps -/

/-- All that a step can do. -/
inductive Step (c : Char) : Scan → Scan → Prop where
  | plain {opened : List Bracket} (h : delimiter? c = none) :
    Step c ⟨opened, .code⟩ ⟨opened, .code⟩
  | quote {opened : List Bracket} (h : delimiter? c = some .quote) :
    Step c ⟨opened, .code⟩ ⟨opened, .literal⟩
  | opens {opened : List Bracket} {k : Bracket} (h : delimiter? c = some (.opens k)) :
    Step c ⟨opened, .code⟩ ⟨k :: opened, .code⟩
  | closes {opened : List Bracket} {k : Bracket} (h : delimiter? c = some (.closes k)) :
    Step c ⟨k :: opened, .code⟩ ⟨opened, .code⟩
  | char {opened : List Bracket} (hq : c ≠ '"') (hb : c ≠ '\\') (hl : endsLine c = false) :
    Step c ⟨opened, .literal⟩ ⟨opened, .literal⟩
  | unquote {opened : List Bracket} (h : c = '"') : Step c ⟨opened, .literal⟩ ⟨opened, .code⟩
  | escape {opened : List Bracket} (h : c = '\\') : Step c ⟨opened, .literal⟩ ⟨opened, .escape⟩
  | escaped {opened : List Bracket} (hl : endsLine c = false) :
    Step c ⟨opened, .escape⟩ ⟨opened, .literal⟩

section
variable {σ τ : Scan} {c : Char} {s t : List Char} {opened : List Bracket}

theorem step_eq_some_iff : step σ c = some τ ↔ Step c σ τ := by
  constructor
  · obtain ⟨opened, mode⟩ := σ
    intro h
    cases mode with
    | code =>
      simp only [step] at h
      split at h
      case h_1 hd =>
        cases h
        exact .plain hd
      case h_2 hd =>
        cases h
        exact .quote hd
      case h_3 k hd =>
        cases h
        exact .opens hd
      case h_4 k hd =>
        split at h
        · rename_i hk
          obtain ⟨ks, rfl⟩ := List.head?_eq_some_iff.1 hk
          cases h
          exact .closes hd
        · cases h
    | literal =>
      simp only [step] at h
      split at h
      · cases h
      rename_i hl
      rw [Bool.not_eq_true] at hl
      split at h
      · rename_i hq
        cases h
        exact .unquote hq
      rename_i hq
      split at h
      · rename_i hb
        cases h
        exact .escape hb
      · rename_i hb
        cases h
        exact .char hq hb hl
    | escape =>
      simp only [step] at h
      split at h
      · cases h
      · rename_i hl
        cases h
        exact .escaped (Bool.not_eq_true _ ▸ hl)
  · intro h
    cases h with
    | plain h | quote h | opens h | closes h => simp [step, h]
    | char hq hb hl => simp [step, hq, hb, hl]
    | unquote h | escape h =>
      subst h
      rfl
    | escaped hl => simp [step, hl]

/-- Only code goes over the end of a line. -/
theorem Step.endsLine (h : Step c σ τ) (hc : endsLine c = true) : σ.mode = .code ∧ τ = σ := by
  have hplain := delimiter?_of_endsLine hc
  cases h with
  | plain => exact ⟨rfl, rfl⟩
  | quote h | opens h | closes h =>
    rw [hplain] at h
    cases h
  | char _ _ hl | escaped hl =>
    rw [hc] at hl
    cases hl
  | unquote h | escape h =>
    subst h
    cases hc

/-- Only a quote ends a literal. -/
theorem Step.mode_ne_code (h : Step c σ τ) (hσ : σ.mode ≠ .code) (hc : c ≠ '"') :
    τ.mode ≠ .code := by
  cases h with
  | plain | quote | opens | closes => exact absurd rfl hσ
  | char | escape | escaped => simp
  | unquote h => exact absurd h hc

/-- Where a character leads, and by how many brackets more are open behind it. -/
def effect (c : Char) : ScanMode → ScanMode × Int
  | .code =>
    match delimiter? c with
    | none => (.code, 0)
    | some .quote => (.literal, 0)
    | some (.opens _) => (.code, 1)
    | some (.closes _) => (.code, -1)
  | .literal => if c = '"' then (.code, 0) else if c = '\\' then (.escape, 0) else (.literal, 0)
  | .escape => (.literal, 0)

theorem Step.effect (h : Step c σ τ) :
    τ.mode = (Scan.effect c σ.mode).1 ∧
      (τ.opened.length : Int) = σ.opened.length + (Scan.effect c σ.mode).2 := by
  cases h with
  | plain h | quote h | opens h => simp [Scan.effect, h]
  | closes h =>
    simp only [Scan.effect, h, List.length_cons, true_and]
    omega
  | char hq hb => simp [Scan.effect, hq, hb]
  | unquote h | escape h => simp [Scan.effect, h]
  | escaped => simp [Scan.effect]

/-! ### Runs -/

theorem run_append (σ : Scan) (s t : List Char) :
    run σ (s ++ t) = (run σ s).bind fun τ => run τ t := by
  rw [run, List.foldlM_append]
  rfl

theorem run_append_eq_some_iff :
    run σ (s ++ t) = some τ ↔ ∃ ρ, run σ s = some ρ ∧ run ρ t = some τ := by
  rw [run_append, Option.bind_eq_some_iff]

theorem run_cons_eq_some_iff : run σ (c :: s) = some τ ↔ ∃ ρ, Step c σ ρ ∧ run ρ s = some τ := by
  show (step σ c).bind (fun ρ => run ρ s) = some τ ↔ _
  simp only [Option.bind_eq_some_iff, step_eq_some_iff]

theorem Step.run (h : Step c σ τ) (s : List Char) : run σ (c :: s) = run τ s := by
  show (step σ c).bind (fun ρ => Scan.run ρ s) = _
  rw [step_eq_some_iff.2 h, Option.bind_some]

/-- Where a line ends, its scan is in code. -/
theorem run_line_iff (hc : endsLine c = true) :
    run σ (s ++ [c]) = some τ ↔ run σ s = some τ ∧ τ.mode = .code := by
  simp only [run_append_eq_some_iff, run_cons_eq_some_iff]
  constructor
  · rintro ⟨_, hs, _, hstep, hnil⟩
    cases hnil
    obtain ⟨hmode, rfl⟩ := hstep.endsLine hc
    exact ⟨hs, hmode⟩
  · rintro ⟨hs, hmode⟩
    obtain ⟨opened, _⟩ := τ
    cases hmode
    exact ⟨_, hs, _, .plain (delimiter?_of_endsLine hc), rfl⟩

/-- A literal that is not closed on its line is never closed. -/
theorem run_unclosed (hσ : σ.mode ≠ .code) (hs : '"' ∉ s) (hc : endsLine c = true)
    (r : List Char) : run σ (s ++ c :: r) ≠ some τ := by
  induction s generalizing σ with
  | nil =>
    intro h
    obtain ⟨_, hstep, -⟩ := run_cons_eq_some_iff.1 h
    exact hσ (hstep.endsLine hc).1
  | cons d s ih =>
    intro h
    rw [List.mem_cons, not_or] at hs
    obtain ⟨_, hstep, hrest⟩ := run_cons_eq_some_iff.1 h
    exact ih (hstep.mode_ne_code hσ (Ne.symm hs.1)) hs.2 hrest

/-- How many more brackets are open behind a text does not depend on the ones before it. -/
theorem run_length {σ' τ' : Scan} (h : run σ s = some τ) (h' : run σ' s = some τ')
    (hm : σ.mode = σ'.mode) :
    τ.mode = τ'.mode ∧
      τ.opened.length + σ'.opened.length = τ'.opened.length + σ.opened.length := by
  induction s generalizing σ σ' with
  | nil =>
    cases h
    cases h'
    exact ⟨hm, Nat.add_comm _ _⟩
  | cons c s ih =>
    obtain ⟨ρ, hstep, hrest⟩ := run_cons_eq_some_iff.1 h
    obtain ⟨ρ', hstep', hrest'⟩ := run_cons_eq_some_iff.1 h'
    obtain ⟨hρ, hlength⟩ := hstep.effect
    obtain ⟨hρ', hlength'⟩ := hstep'.effect
    rw [hm] at hρ hlength
    obtain ⟨hmode, hrest⟩ := ih hrest hrest' (hρ.trans hρ'.symm)
    exact ⟨hmode, by omega⟩

/-! ### Balanced texts -/

theorem run_literalBody {b : List Char} (hb : LiteralBody b) (r : List Char) :
    run ⟨opened, .literal⟩ (b ++ '"' :: r) = run ⟨opened, .code⟩ r := by
  induction hb with
  | nil => exact (Step.unquote rfl).run r
  | char hq hb hl _ ih => exact ((Step.char hq hb hl).run _).trans ih
  | escaped hl _ ih => exact ((Step.escape rfl).run _).trans (((Step.escaped hl).run _).trans ih)

theorem run_balanced (hs : Balanced s) (opened : List Bracket) (r : List Char) :
    run ⟨opened, .code⟩ (s ++ r) = run ⟨opened, .code⟩ r := by
  induction hs generalizing opened r with
  | nil => rfl
  | plain hc _ ih => exact ((Step.plain hc).run _).trans (ih opened r)
  | literal hb _ ih =>
    rw [List.cons_append, List.append_assoc, List.cons_append, (Step.quote rfl).run,
      run_literalBody hb, ih]
  | group k _ _ ihb ih =>
    have hopens : delimiter? k.opening = some (.opens k) := delimiter?_eq_some_iff.2 rfl
    have hcloses : delimiter? k.closing = some (.closes k) := delimiter?_eq_some_iff.2 rfl
    rw [List.cons_append, List.append_assoc, List.cons_append, (Step.opens hopens).run, ihb,
      (Step.closes hcloses).run, ih]

/-! ### What is left -/

/-- A text closes brackets, and has a balanced text before each of their ends and at its own. -/
inductive Closes : List Bracket → List Char → Prop where
  | nil {s : List Char} (h : Balanced s) : Closes [] s
  | cons {k : Bracket} {ks : List Bracket} {b r : List Char} (hb : Balanced b) (h : Closes ks r) :
    Closes (k :: ks) (b ++ k.closing :: r)

theorem Closes.prepend {p s : List Char} {ks : List Bracket}
    (hp : ∀ b, Balanced b → Balanced (p ++ b)) (h : Closes ks s) : Closes ks (p ++ s) := by
  cases h with
  | nil h => exact .nil (hp _ h)
  | cons hb h =>
    rw [← List.append_assoc]
    exact .cons (hp _ hb) h

/-- The end of a literal, and then a text that closes brackets. -/
def EndsLiteral (ks : List Bracket) (s : List Char) : Prop :=
  ∃ b r, s = b ++ '"' :: r ∧ LiteralBody b ∧ Closes ks r

/-- A text that ends all that is open where a scan is. -/
def Ends (σ : Scan) (s : List Char) : Prop :=
  match σ.mode with
  | .code => Closes σ.opened s
  | .literal => EndsLiteral σ.opened s
  | .escape => ∃ c r, s = c :: r ∧ endsLine c = false ∧ EndsLiteral σ.opened r

theorem Step.ends (hc : Step c σ τ) (h : Ends τ s) : Ends σ (c :: s) := by
  cases hc with
  | plain hd => exact Closes.prepend (p := [c]) (fun _ hb => .plain hd hb) h
  | quote hd =>
    cases delimiter?_eq_some_iff.1 hd
    obtain ⟨b, r, rfl, hb, hr⟩ := h
    have := hr.prepend (p := '"' :: (b ++ ['"'])) fun t ht => by
      rw [List.cons_append, List.append_assoc]
      exact .literal hb ht
    rwa [List.cons_append, List.append_assoc] at this
  | @opens _ k hd =>
    cases delimiter?_eq_some_iff.1 hd
    cases h with
    | @cons _ _ b r hb hr =>
      have := hr.prepend (p := k.opening :: (b ++ [k.closing])) fun t ht => by
        rw [List.cons_append, List.append_assoc]
        exact .group k hb ht
      rwa [List.cons_append, List.append_assoc] at this
  | closes hd =>
    cases delimiter?_eq_some_iff.1 hd
    exact Closes.cons .nil h
  | char hq hb hl =>
    obtain ⟨b, r, rfl, hbody, hr⟩ := h
    exact ⟨c :: b, r, rfl, .char hq hb hl hbody, hr⟩
  | unquote hq =>
    cases hq
    exact ⟨[], s, rfl, .nil, h⟩
  | escape hb =>
    cases hb
    obtain ⟨d, _, rfl, hd, b, r, rfl, hbody, hr⟩ := h
    exact ⟨'\\' :: d :: b, r, rfl, .escaped hd hbody, hr⟩
  | escaped hl => exact ⟨c, s, rfl, hl, h⟩

theorem ends_of_run (h : run σ s = some start) : Ends σ s := by
  induction s generalizing σ with
  | nil =>
    cases h
    exact .nil .nil
  | cons c s ih =>
    obtain ⟨ρ, hstep, hrest⟩ := run_cons_eq_some_iff.1 h
    exact hstep.ends (ih hrest)

end

end Scan

theorem balanced_iff_run {s : List Char} :
    Balanced s ↔ Scan.run Scan.start s = some Scan.start := by
  constructor
  · intro h
    have := Scan.run_balanced h [] []
    rwa [List.append_nil] at this
  · intro h
    cases Scan.ends_of_run h with
    | nil h => exact h

theorem balanced_append_iff {s t : List Char} (hs : Balanced s) :
    Balanced (s ++ t) ↔ Balanced t := by
  rw [balanced_iff_run, balanced_iff_run, Scan.start, Scan.run_balanced hs]

theorem balanced_line_iff {s : List Char} {c : Char} (hc : endsLine c = true) :
    Balanced (s ++ [c]) ↔ Balanced s := by
  rw [balanced_iff_run, balanced_iff_run, Scan.run_line_iff hc]
  exact and_iff_left rfl

instance (s : List Char) : Decidable (Balanced s) := decidable_of_iff _ balanced_iff_run.symm

end AbiBindings
