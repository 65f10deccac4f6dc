import AbiBindings.Proofs.TypeScript.Token
import AbiBindings.TypeScript.Type
import Mathlib.Data.List.Forall2

/-!
# The grammar of type expressions

    type    = part { "|" part }
    part    = operand { "&" operand }
    operand = primary { "[" "]" }
    primary = name | "(" type ")" | "[" types "]" | "{" fields "}"

`Phrase` says which tokens are a phrase of a level, and what it means; parentheses mean nothing of
their own.  The grammar is unambiguous: a phrase that cannot go on ends where it does, whatever
follows, and has one meaning.

    Phrase l ts e → Phrase l ts e' → e = e'                             (Phrase.unique)
    texts between separators are phrases between marks                  (phrases_intercalate)
-/

namespace AbiBindings

/-! ## Meanings -/

/-- What a type expression means.  Intersections and unions have two members at least. -/
inductive TsTree where
  | name (text : String)
  | array (element : TsTree)
  | tuple (elements : List TsTree)
  | object (fields : List (Named TsTree))
  | intersection (members : List TsTree)
  | union (members : List TsTree)

namespace TsTree

/-- The intersection of several types; one type stands for itself. -/
def both : List TsTree → TsTree
  | [e] => e
  | es => .intersection es

/-- The union of several types; one type stands for itself. -/
def either : List TsTree → TsTree
  | [e] => e
  | es => .union es

/-- Arrays of arrays of a type. -/
def arrays : Nat → TsTree → TsTree
  | 0, e => e
  | n + 1, e => .array (arrays n e)

end TsTree

/-! ## Grammar -/

/-- What binds more tightly comes first. -/
inductive Level where
  | primary | operand | part | type

/-- So many pairs of brackets. -/
def bracketPairs : Nat → List TsToken
  | 0 => []
  | n + 1 => .mark '[' :: .mark ']' :: bracketPairs n

mutual

/-- The phrases of a level, and what they mean. -/
inductive Phrase : Level → List TsToken → TsTree → Prop where
  | name {w : List Char} (h : isDottedName w = true) :
    Phrase .primary [.word w] (.name (String.ofList w))
  | group {ts : List TsToken} {e : TsTree} (h : Phrase .type ts e) :
    Phrase .primary (.mark '(' :: (ts ++ [.mark ')'])) e
  | tuple {ts : List TsToken} {es : List TsTree} (h : Phrases .type ',' ts es) :
    Phrase .primary (.mark '[' :: (ts ++ [.mark ']'])) (.tuple es)
  | emptyTuple : Phrase .primary [.mark '[', .mark ']'] (.tuple [])
  | object {ts : List TsToken} {fs : List (Named TsTree)} (h : Fields ts fs) :
    Phrase .primary (.mark '{' :: (ts ++ [.mark '}'])) (.object fs)
  | emptyObject : Phrase .primary [.mark '{', .mark '}'] (.object [])
  | operand {ts : List TsToken} {e : TsTree} (h : Phrase .primary ts e) (n : Nat) :
    Phrase .operand (ts ++ bracketPairs n) (.arrays n e)
  | part {ts : List TsToken} {es : List TsTree} (h : Phrases .operand '&' ts es) :
    Phrase .part ts (.both es)
  | type {ts : List TsToken} {es : List TsTree} (h : Phrases .part '|' ts es) :
    Phrase .type ts (.either es)

/-- One or more phrases of a level with marks between them. -/
inductive Phrases : Level → Char → List TsToken → List TsTree → Prop where
  | one {l : Level} {c : Char} {ts : List TsToken} {e : TsTree} (h : Phrase l ts e) :
    Phrases l c ts [e]
  | more {l : Level} {c : Char} {ts us : List TsToken} {e : TsTree} {es : List TsTree}
    (h : Phrase l ts e) (hr : Phrases l c us es) : Phrases l c (ts ++ .mark c :: us) (e :: es)

/-- One or more named types with commas between them. -/
inductive Fields : List TsToken → List (Named TsTree) → Prop where
  | one {w : List Char} {ts : List TsToken} {e : TsTree} (hw : isName w = true)
    (h : Phrase .type ts e) : Fields (.word w :: .mark ':' :: ts) [⟨String.ofList w, e⟩]
  | more {w : List Char} {ts us : List TsToken} {e : TsTree} {fs : List (Named TsTree)}
    (hw : isName w = true) (h : Phrase .type ts e) (hr : Fields us fs) :
    Fields (.word w :: .mark ':' :: (ts ++ .mark ',' :: us)) (⟨String.ofList w, e⟩ :: fs)

end

/-! ## Unambiguity -/

/-- A phrase of the level can go on with the mark. -/
def Level.goesOn : Level → Char → Bool
  | .primary, _ => false
  | .operand, c => c == '['
  | .part, c => c == '[' || c == '&'
  | .type, c => c == '[' || c == '&' || c == '|'

/-- Tokens that no phrase of the level goes on with. -/
def Ends (l : Level) (r : List TsToken) : Prop :=
  ∀ c, r.head? = some (.mark c) → l.goesOn c = false

theorem ends_nil (l : Level) : Ends l [] := by
  intro c h
  cases h

theorem ends_cons {l : Level} {c : Char} (h : l.goesOn c = false) (r : List TsToken) :
    Ends l (.mark c :: r) := by
  intro d hd
  cases hd
  exact h

theorem ends_primary (r : List TsToken) : Ends .primary r := fun _ _ => rfl

theorem Ends.operand {r : List TsToken} (h : Ends .part r) : Ends .operand r := by
  intro c hc
  have := h c hc
  simp only [Level.goesOn, Bool.or_eq_false_iff] at this
  exact this.1

theorem Ends.part {r : List TsToken} (h : Ends .type r) : Ends .part r := by
  intro c hc
  have := h c hc
  simp only [Level.goesOn, Bool.or_eq_false_iff] at this
  simp [Level.goesOn, this]

theorem Ends.ne {l : Level} {c : Char} {r : List TsToken} (h : Ends l r) (hc : l.goesOn c = true) :
    r.head? ≠ some (.mark c) := by
  intro he
  rw [h c he] at hc
  cases hc

theorem bracketPairs_append_inj {n m : Nat} {r r' : List TsToken} (hr : Ends .operand r)
    (hr' : Ends .operand r') (h : bracketPairs n ++ r = bracketPairs m ++ r') :
    n = m ∧ r = r' := by
  induction n generalizing m with
  | zero =>
    cases m with
    | zero => exact ⟨rfl, h⟩
    | succ m =>
      have hhead : r.head? = some (.mark '[') := by
        rw [show r = bracketPairs 0 ++ r from rfl, h]
        rfl
      exact absurd hhead (hr.ne rfl)
  | succ n ih =>
    cases m with
    | zero =>
      have hhead : r'.head? = some (.mark '[') := by
        rw [show r' = bracketPairs 0 ++ r' from rfl, ← h]
        rfl
      exact absurd hhead (hr'.ne rfl)
    | succ m =>
      obtain ⟨rfl, hrr⟩ := ih (List.cons.inj (List.cons.inj h).2).2
      exact ⟨rfl, hrr⟩

mutual

/-- No phrase starts with a closing bracket. -/
theorem Phrase.ne_close {l : Level} {ts : List TsToken} {e : TsTree} :
    Phrase l ts e → ∀ r s, ts ++ r ≠ .mark ']' :: s
  | .name _, r, s, h => by cases (List.cons.inj h).1
  | .group _, r, s, h => by cases (List.cons.inj h).1
  | .tuple _, r, s, h => by cases (List.cons.inj h).1
  | .emptyTuple, r, s, h => by cases (List.cons.inj h).1
  | .object _, r, s, h => by cases (List.cons.inj h).1
  | .emptyObject, r, s, h => by cases (List.cons.inj h).1
  | .operand hp n, r, s, h => by
    rw [List.append_assoc] at h
    exact hp.ne_close _ s h
  | .part hp, r, s, h => hp.ne_close r s h
  | .type hp, r, s, h => hp.ne_close r s h

theorem Phrases.ne_close {l : Level} {c : Char} {ts : List TsToken} {es : List TsTree} :
    Phrases l c ts es → ∀ r s, ts ++ r ≠ .mark ']' :: s
  | .one hp, r, s, h => hp.ne_close r s h
  | .more hp _, r, s, h => by
    rw [List.append_assoc] at h
    exact hp.ne_close _ s h

end

theorem enclosed_inj {a b : TsToken} {ts ts' r r' : List TsToken}
    (h : a :: (ts ++ [b]) ++ r = a :: (ts' ++ [b]) ++ r') : ts ++ b :: r = ts' ++ b :: r' := by
  simpa using h

theorem named_inj {w w' : List Char} {ts ts' r r' : List TsToken}
    (h : .word w :: .mark ':' :: ts ++ r = .word w' :: .mark ':' :: ts' ++ r') :
    w = w' ∧ ts ++ r = ts' ++ r' := by
  simpa using h

mutual

/-- The induction is on the first phrase. -/
theorem Phrase.append_inj {l : Level} {ts ts' : List TsToken} {e e' : TsTree}
    {r r' : List TsToken} : Phrase l ts e → Phrase l ts' e' → Ends l r → Ends l r' →
    ts ++ r = ts' ++ r' → e = e' ∧ r = r'
  | .name h, h', hr, hr', he => by
    cases h' with
    | name h' =>
      obtain ⟨hw, hrr⟩ := List.cons.inj he
      cases hw
      exact ⟨rfl, hrr⟩
    | group | tuple | emptyTuple | object | emptyObject => cases (List.cons.inj he).1
  | .group h, h', hr, hr', he => by
    cases h' with
    | group h' =>
      obtain ⟨hee, hrr⟩ := h.append_inj h' (ends_cons rfl r) (ends_cons rfl r') (enclosed_inj he)
      exact ⟨hee, (List.cons.inj hrr).2⟩
    | name | tuple | emptyTuple | object | emptyObject => cases (List.cons.inj he).1
  | .tuple h, h', hr, hr', he => by
    cases h' with
    | tuple h' =>
      obtain ⟨hee, hrr⟩ := h.append_inj h' rfl (ends_cons rfl r) (ends_cons rfl r')
        (by simp) (by simp) (enclosed_inj he)
      exact ⟨by rw [hee], (List.cons.inj hrr).2⟩
    | emptyTuple =>
      exact absurd (by simpa using he) (h.ne_close (.mark ']' :: r) r')
    | name | group | object | emptyObject => cases (List.cons.inj he).1
  | .emptyTuple, h', hr, hr', he => by
    cases h' with
    | tuple h' =>
      exact absurd (by simpa using he.symm) (h'.ne_close (.mark ']' :: r') r)
    | emptyTuple => exact ⟨rfl, (List.cons.inj (List.cons.inj he).2).2⟩
    | name | group | object | emptyObject => cases (List.cons.inj he).1
  | .object h, h', hr, hr', he => by
    cases h' with
    | object h' =>
      obtain ⟨hff, hrr⟩ := h.append_inj h' (ends_cons rfl r) (ends_cons rfl r')
        (by simp) (by simp) (enclosed_inj he)
      exact ⟨by rw [hff], (List.cons.inj hrr).2⟩
    | emptyObject =>
      have ht := (List.cons.inj he).2
      cases h with
      | one => cases (List.cons.inj ht).1
      | more => cases (List.cons.inj ht).1
    | name | group | tuple | emptyTuple => cases (List.cons.inj he).1
  | .emptyObject, h', hr, hr', he => by
    cases h' with
    | object h' =>
      have ht := (List.cons.inj he).2
      cases h' with
      | one => cases (List.cons.inj ht).1
      | more => cases (List.cons.inj ht).1
    | emptyObject => exact ⟨rfl, (List.cons.inj (List.cons.inj he).2).2⟩
    | name | group | tuple | emptyTuple => cases (List.cons.inj he).1
  | .operand h n, h', hr, hr', he => by
    cases h' with
    | operand h' m =>
      rw [List.append_assoc, List.append_assoc] at he
      obtain ⟨rfl, hb⟩ := h.append_inj h' (ends_primary _) (ends_primary _) he
      obtain ⟨rfl, hrr⟩ := bracketPairs_append_inj hr hr' hb
      exact ⟨rfl, hrr⟩
  | .part h, h', hr, hr', he => by
    cases h' with
    | part h' =>
      obtain ⟨hee, hrr⟩ := h.append_inj h' rfl hr.operand hr'.operand (hr.ne rfl) (hr'.ne rfl) he
      exact ⟨by rw [hee], hrr⟩
  | .type h, h', hr, hr', he => by
    cases h' with
    | type h' =>
      obtain ⟨hee, hrr⟩ := h.append_inj h' rfl hr.part hr'.part (hr.ne rfl) (hr'.ne rfl) he
      exact ⟨by rw [hee], hrr⟩

theorem Phrases.append_inj {l : Level} {c : Char} {ts ts' : List TsToken} {es es' : List TsTree}
    {r r' : List TsToken} : Phrases l c ts es → Phrases l c ts' es' → l.goesOn c = false →
    Ends l r → Ends l r' → r.head? ≠ some (.mark c) → r'.head? ≠ some (.mark c) →
    ts ++ r = ts' ++ r' → es = es' ∧ r = r'
  | .one h, h', hc, hr, hr', hm, hm', he => by
    cases h' with
    | one h' =>
      obtain ⟨rfl, hrr⟩ := h.append_inj h' hr hr' he
      exact ⟨rfl, hrr⟩
    | more h' _ =>
      rw [List.append_assoc] at he
      obtain ⟨-, hrr⟩ := h.append_inj h' hr (ends_cons hc _) he
      rw [hrr] at hm
      exact absurd rfl hm
  | .more h hs, h', hc, hr, hr', hm, hm', he => by
    rw [List.append_assoc] at he
    cases h' with
    | one h' =>
      obtain ⟨-, hrr⟩ := h.append_inj h' (ends_cons hc _) hr' he
      rw [← hrr] at hm'
      exact absurd rfl hm'
    | more h' hs' =>
      rw [List.append_assoc] at he
      obtain ⟨rfl, hrr⟩ := h.append_inj h' (ends_cons hc _) (ends_cons hc _) he
      obtain ⟨rfl, hrr⟩ := hs.append_inj hs' hc hr hr' hm hm' (List.cons.inj hrr).2
      exact ⟨rfl, hrr⟩

theorem Fields.append_inj {ts ts' : List TsToken} {fs fs' : List (Named TsTree)}
    {r r' : List TsToken} : Fields ts fs → Fields ts' fs' → Ends .type r → Ends .type r' →
    r.head? ≠ some (.mark ',') → r'.head? ≠ some (.mark ',') →
    ts ++ r = ts' ++ r' → fs = fs' ∧ r = r'
  | .one _ h, h', hr, hr', hm, hm', he => by
    cases h' with
    | one _ h' =>
      obtain ⟨rfl, ht⟩ := named_inj he
      obtain ⟨rfl, hrr⟩ := h.append_inj h' hr hr' ht
      exact ⟨rfl, hrr⟩
    | more _ h' _ =>
      obtain ⟨-, ht⟩ := named_inj he
      rw [List.append_assoc] at ht
      obtain ⟨-, hrr⟩ := h.append_inj h' hr (ends_cons rfl _) ht
      rw [hrr] at hm
      exact absurd rfl hm
  | .more _ h hs, h', hr, hr', hm, hm', he => by
    cases h' with
    | one _ h' =>
      obtain ⟨-, ht⟩ := named_inj he
      rw [List.append_assoc] at ht
      obtain ⟨-, hrr⟩ := h.append_inj h' (ends_cons rfl _) hr' ht
      rw [← hrr] at hm'
      exact absurd rfl hm'
    | more _ h' hs' =>
      obtain ⟨rfl, ht⟩ := named_inj he
      rw [List.append_assoc, List.append_assoc] at ht
      obtain ⟨rfl, hrr⟩ := h.append_inj h' (ends_cons rfl _) (ends_cons rfl _) ht
      obtain ⟨rfl, hrr⟩ := hs.append_inj hs' hr hr' hm hm' (List.cons.inj hrr).2
      exact ⟨rfl, hrr⟩

end

theorem Phrase.unique {l : Level} {ts : List TsToken} {e e' : TsTree} (h : Phrase l ts e)
    (h' : Phrase l ts e') : e = e' := (h.append_inj h' (ends_nil l) (ends_nil l) rfl).1

/-! ## Levels -/

theorem Phrase.toOperand {ts : List TsToken} {e : TsTree} (h : Phrase .primary ts e) :
    Phrase .operand ts e := by
  have := Phrase.operand h 0
  rwa [bracketPairs, List.append_nil] at this

theorem Phrase.toPart {ts : List TsToken} {e : TsTree} (h : Phrase .operand ts e) :
    Phrase .part ts e := .part (.one h)

theorem Phrase.toType {ts : List TsToken} {e : TsTree} (h : Phrase .operand ts e) :
    Phrase .type ts e := .type (.one h.toPart)

theorem bracketPairs_succ (n : Nat) :
    bracketPairs (n + 1) = bracketPairs n ++ [.mark '[', .mark ']'] := by
  induction n with
  | zero => rfl
  | succ n ih => exact congrArg (fun ts => .mark '[' :: .mark ']' :: ts) ih

/-- Brackets behind an operand make it an array. -/
theorem Phrase.array {ts : List TsToken} {e : TsTree} (h : Phrase .operand ts e) :
    Phrase .operand (ts ++ [.mark '[', .mark ']']) (.array e) := by
  cases h with
  | operand h n =>
    rw [List.append_assoc, ← bracketPairs_succ]
    exact .operand h (n + 1)

/-! ## Texts -/

theorem phrases_intercalate {between : String} {c : Char} (hs : Separates between c) {l : Level}
    {texts : List String} {es : List TsTree}
    (h : List.Forall₂ (fun s e => Phrase l (tokens s) e) texts es) (hne : texts ≠ []) :
    Phrases l c (tokens (between.intercalate texts)) es := by
  induction h with
  | nil => exact absurd rfl hne
  | cons hp hr ih =>
    cases hr with
    | nil =>
      rw [String.intercalate_singleton]
      exact .one hp
    | cons hq hr =>
      rw [String.intercalate_cons_cons, hs]
      exact .more hp (ih (List.cons_ne_nil _ _))

theorem tokens_memberText {name : String} (hn : isName name.toList = true) (type : String) :
    tokens (memberText name type) = .word name.toList :: .mark ':' :: tokens type := by
  rw [memberText, separates_colon, tokens, lex_name hn]
  rfl

theorem fields_intercalate {α : Type} {text : α → String} {us : List (Named α)}
    {fs : List (Named TsTree)}
    (h : List.Forall₂ (fun u f => isName u.name.toList = true ∧ u.name = f.name ∧
      Phrase .type (tokens (text u.type)) f.type) us fs) (hne : us ≠ []) :
    Fields (tokens (", ".intercalate (us.map fun u => memberText u.name (text u.type)))) fs := by
  induction h with
  | nil => exact absurd rfl hne
  | @cons u f us fs hp hr ih =>
    obtain ⟨hn, hname, hp⟩ := hp
    cases hr with
    | nil =>
      have hone := Fields.one hn hp
      rw [String.ofList_toList, hname] at hone
      rw [List.map_singleton, String.intercalate_singleton, tokens_memberText hn, hname]
      exact hone
    | cons hq hr =>
      have hmore := Fields.more hn hp (ih (List.cons_ne_nil _ _))
      rw [String.ofList_toList, hname, List.map_cons] at hmore
      rw [List.map_cons, List.map_cons, String.intercalate_cons_cons, separates_comma,
        tokens_memberText hn, hname]
      exact hmore

theorem tokens_empty : tokens "" = [] := by
  rw [tokens, String.toList_empty, lex]

/-- A text in brackets or parentheses. -/
theorem lex_enclosed {a b : Char} (haw : isWordPart a = false) (hab : Text.isBlank a = false)
    (hbw : isWordPart b = false) (hbb : Text.isBlank b = false) (s r : List Char) :
    lex (a :: (s ++ b :: r)) = .mark a :: (lex s ++ .mark b :: lex r) := by
  rw [lex_mark haw hab, lex_append (startsApart_cons hbw r), lex_mark hbw hbb]

theorem lex_brackets : lex ['[', ']'] = [.mark '[', .mark ']'] := by
  have h := lex_enclosed (a := '[') (b := ']') (by decide) (by decide) (by decide) (by decide) [] []
  rw [lex] at h
  exact h

theorem tokens_append_brackets (s : String) :
    tokens (s ++ "[]") = tokens s ++ [.mark '[', .mark ']'] := by
  rw [tokens, String.toList_append, show "[]".toList = ['[', ']'] from rfl,
    lex_append (startsApart_cons (by decide) _), lex_brackets]
  rfl

theorem tokens_group_append_brackets (s : String) :
    tokens ("(" ++ s ++ ")[]") =
      .mark '(' :: (tokens s ++ [.mark ')']) ++ [.mark '[', .mark ']'] := by
  have hs : ("(" ++ s ++ ")[]").toList = '(' :: (s.toList ++ ')' :: ['[', ']']) := by simp
  rw [tokens, hs, lex_enclosed (by decide) (by decide) (by decide) (by decide), lex_brackets]
  simp [tokens]

theorem tokens_bracketed (items : List String) :
    tokens (bracketed items) =
      .mark '[' :: (tokens (", ".intercalate items) ++ [.mark ']']) := by
  have hs : (bracketed items).toList = '[' :: ((", ".intercalate items).toList ++ [']']) := by
    simp [bracketed]
  rw [tokens, hs, lex_enclosed (by decide) (by decide) (by decide) (by decide), lex]
  rfl

theorem tokens_braced_nil : tokens (braced []) = [.mark '{', .mark '}'] := by
  show lex ['{', '}'] = _
  rw [lex_mark (by decide) (by decide), lex_mark (by decide) (by decide), lex]

theorem tokens_braced {members : List String} (h : members ≠ []) :
    tokens (braced members) =
      .mark '{' :: (tokens (", ".intercalate members) ++ [.mark '}']) := by
  have hs : (braced members).toList =
      '{' :: ' ' :: ((", ".intercalate members).toList ++ ' ' :: ['}']) := by
    simp [braced, h]
  rw [tokens, hs, lex_mark (by decide) (by decide), lex_blank (by decide) (by decide),
    lex_append (startsApart_cons (by decide) _), lex_blank (by decide) (by decide),
    lex_mark (by decide) (by decide), lex]
  rfl

end AbiBindings
