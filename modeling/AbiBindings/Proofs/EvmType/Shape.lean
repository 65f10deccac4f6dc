import AbiBindings.EvmType.Basic
import AbiBindings.Text.Decimal
import AbiBindings.Text.Split
import Mathlib.Data.Option.Basic

/-!
# What shapes tell apart

Two types have one shape exactly if they are the same but for spellings, given that no name holds a
character that shapes are written with.  A shape is read from the left: a word, which is a leaf or
the name of a struct, the components between parentheses, and the array sizes.  Whatever follows a
shape starts with a blank.

    shape t = shape t' ↔ erased t = erased t', with readable names      (shape_eq_iff)
    the same of structs, whose own name shapes leave out                (shape_struct_eq_iff)
-/

namespace AbiBindings

/-! ## Names -/

/-- A character that stands between the parts of a shape. -/
def isShapeDelimiter (c : Char) : Bool :=
  c == ' ' || c == ',' || c == '(' || c == ')' || c == '[' || c == ']'

/-- A text that shapes hold as it is. -/
def IsShapeWord (s : List Char) : Prop := ∀ c ∈ s, isShapeDelimiter c = false

/-- A struct's name that can be read out of a shape. -/
structure StructName.IsReadable (n : StructName) : Prop where
  owner : ∀ o, n.owner = some o → IsShapeWord o.toList
  identifier : IsShapeWord n.identifier.toList
  noDot : '.' ∉ n.identifier.toList
  notEmpty : n.identifier.toList ≠ []

namespace EvmType

mutual

/-- All names in a type can be read out of its shape. -/
def HasReadableNames : EvmType → Prop
  | .leaf _ _ => True
  | .array element _ _ => HasReadableNames element
  | .tuple components name _ =>
    (∀ n, name = some n → n.IsReadable) ∧ HaveReadableNames components

def HaveReadableNames : List (Named EvmType) → Prop
  | [] => True
  | ⟨name, t⟩ :: r => IsShapeWord name.toList ∧ HasReadableNames t ∧ HaveReadableNames r

end

mutual

/-- A type without the spellings it was read from. -/
def erased : EvmType → EvmType
  | .leaf kind _ => .leaf kind ""
  | .array element size _ => .array (erased element) size ""
  | .tuple components name _ => .tuple (erasedAll components) name ""

def erasedAll : List (Named EvmType) → List (Named EvmType)
  | [] => []
  | ⟨name, t⟩ :: r => ⟨name, erased t⟩ :: erasedAll r

end

end EvmType

/-! ## Words -/

/-- A text that starts with a delimiter, unless it is empty. -/
def StartsDelimited (s : List Char) : Prop := ∀ c ∈ s.head?, isShapeDelimiter c = true

theorem startsDelimited_cons {c : Char} (h : isShapeDelimiter c = true) (s : List Char) :
    StartsDelimited (c :: s) := by
  intro d hd
  rw [← Option.some.inj hd]
  exact h

/-- Words end where the first delimiter stands. -/
theorem word_append_inj {s s' r r' : List Char} (hs : IsShapeWord s) (hs' : IsShapeWord s')
    (hr : StartsDelimited r) (hr' : StartsDelimited r') (h : s ++ r = s' ++ r') :
    s = s' ∧ r = r' := by
  induction s generalizing s' with
  | nil =>
    cases s' with
    | nil => exact ⟨rfl, h⟩
    | cons c s' =>
      rw [List.nil_append, List.cons_append] at h
      have := hr c (by rw [h]; rfl)
      rw [hs' c List.mem_cons_self] at this
      cases this
  | cons c s ih =>
    cases s' with
    | nil =>
      rw [List.nil_append, List.cons_append] at h
      have := hr' c (by rw [← h]; rfl)
      rw [hs c List.mem_cons_self] at this
      cases this
    | cons c' s' =>
      obtain ⟨hc, ht⟩ := List.cons.inj h
      obtain ⟨hst, hrr⟩ := ih (fun d hd => hs d (List.mem_cons_of_mem _ hd))
        (fun d hd => hs' d (List.mem_cons_of_mem _ hd)) ht
      exact ⟨by rw [hc, hst], hrr⟩

theorem word_ne_delimiter {w r s : List Char} {c : Char} (hw : IsShapeWord w) (hne : w ≠ [])
    (hc : isShapeDelimiter c = true) : w ++ r ≠ c :: s := by
  intro h
  cases w with
  | nil => exact hne rfl
  | cons d w =>
    have hd := hw d List.mem_cons_self
    rw [(List.cons.inj h).1, hc] at hd
    cases hd

theorem isShapeWord_append {s r : List Char} (hs : IsShapeWord s) (hr : IsShapeWord r) :
    IsShapeWord (s ++ r) := by
  intro c hc
  rcases List.mem_append.1 hc with h | h
  · exact hs c h
  · exact hr c h

/-! ### Numbers -/

theorem isShapeWord_toString (n : Nat) : IsShapeWord (toString n).toList := by
  intro c hc
  rw [Nat.toString_eq_repr, Nat.toList_repr] at hc
  have hd := Nat.isDigit_of_mem_toDigits (by omega) (by omega) hc
  rw [Char.isDigit_iff_toNat] at hd
  have hne (d : Char) (h : d.toNat < 0x30 ∨ 0x39 < d.toNat) : (c == d) = false := by
    rw [beq_eq_false_iff_ne]
    rintro rfl
    obtain ⟨h0, h9⟩ := hd
    change 0x30 ≤ c.toNat at h0
    change c.toNat ≤ 0x39 at h9
    omega
  simp [isShapeDelimiter, hne ' ' (by decide), hne ',' (by decide), hne '(' (by decide),
    hne ')' (by decide), hne '[' (by decide), hne ']' (by decide)]

/-! ### Leaves -/

theorem isShapeWord_canonical (k : Leaf) : IsShapeWord k.canonical.toList := by
  have hword (s : String) (h : s.toList.all (fun c => !isShapeDelimiter c) = true) :
      IsShapeWord s.toList := by
    intro c hc
    simpa using List.all_eq_true.1 h c hc
  cases k with
  | address | bool | string | bytes => exact hword _ (by decide)
  | uint n | int n | fixedBytes n =>
    rw [Leaf.canonical, String.toList_append]
    exact isShapeWord_append (hword _ (by decide)) (isShapeWord_toString n)

theorem canonical_ne_nil (k : Leaf) : k.canonical.toList ≠ [] := by
  cases k <;> simp [Leaf.canonical]

theorem canonical_injective {k k' : Leaf} (h : k.canonical.toList = k'.canonical.toList) :
    k = k' := by
  cases k <;> cases k' <;> simp [Leaf.canonical] at h ⊢
  all_goals exact Text.toDigits_injective h

/-! ## Array sizes -/

/-- What array sizes add to a shape, the innermost one first. -/
def sizesText (sizes : List (Option Nat)) : List Char :=
  sizes.flatMap fun n => (arraySuffix n).toList

/-- The number between the brackets of a size. -/
def sizeDigits : Option Nat → List Char
  | some n => Nat.toDigits 10 n
  | none => []

theorem arraySuffix_toList (n : Option Nat) :
    (arraySuffix n).toList = '[' :: (sizeDigits n ++ [']']) := by
  cases n with
  | none => rfl
  | some n => simp [arraySuffix, sizeDigits]

theorem isShapeWord_sizeDigits (n : Option Nat) : IsShapeWord (sizeDigits n) := by
  cases n with
  | none => exact fun c hc => absurd hc List.not_mem_nil
  | some n =>
    have := isShapeWord_toString n
    rwa [Nat.toString_eq_repr, Nat.toList_repr] at this

theorem sizeDigits_injective {n m : Option Nat} (h : sizeDigits n = sizeDigits m) : n = m := by
  cases n with
  | none =>
    cases m with
    | none => rfl
    | some m => exact absurd h.symm Nat.toDigits_ne_nil
  | some n =>
    cases m with
    | none => exact absurd h Nat.toDigits_ne_nil
    | some m => rw [Text.toDigits_injective h]

/-- What may stand after a shape: nothing, or a blank and more. -/
def FollowsShape (r : List Char) : Prop := ∀ c ∈ r.head?, c = ' '

theorem FollowsShape.not_size {r s : List Char} (h : FollowsShape r) : r ≠ '[' :: s := by
  rintro rfl
  exact absurd (h '[' rfl) (by decide)

theorem FollowsShape.startsDelimited {r : List Char} (h : FollowsShape r) : StartsDelimited r := by
  intro c hc
  rw [h c hc]
  decide

theorem sizesText_cons (n : Option Nat) (sizes : List (Option Nat)) :
    sizesText (n :: sizes) = '[' :: (sizeDigits n ++ ']' :: sizesText sizes) := by
  rw [sizesText, List.flatMap_cons, arraySuffix_toList, List.cons_append, List.append_assoc]
  rfl

theorem sizes_append_inj {sizes sizes' : List (Option Nat)} {r r' : List Char}
    (hr : FollowsShape r) (hr' : FollowsShape r')
    (h : sizesText sizes ++ r = sizesText sizes' ++ r') : sizes = sizes' ∧ r = r' := by
  induction sizes generalizing sizes' with
  | nil =>
    cases sizes' with
    | nil => exact ⟨rfl, h⟩
    | cons m sizes' =>
      rw [sizesText_cons, List.cons_append] at h
      exact absurd h hr.not_size
  | cons n sizes ih =>
    cases sizes' with
    | nil =>
      rw [sizesText_cons, List.cons_append] at h
      exact absurd h.symm hr'.not_size
    | cons m sizes' =>
      simp only [sizesText_cons, List.cons_append, List.append_assoc] at h
      obtain ⟨hd, ht⟩ := word_append_inj (isShapeWord_sizeDigits n) (isShapeWord_sizeDigits m)
        (startsDelimited_cons (by decide) _) (startsDelimited_cons (by decide) _)
        (List.cons.inj h).2
      obtain ⟨hs, hrr⟩ := ih (List.cons.inj ht).2
      exact ⟨by rw [sizeDigits_injective hd, hs], hrr⟩

/-! ## Struct names -/

/-- The word in front of a tuple's components. -/
def nameChars : Option StructName → List Char
  | some n => n.text.toList
  | none => []

theorem text_toList (n : StructName) :
    n.text.toList = match n.owner with
      | some o => o.toList ++ '.' :: n.identifier.toList
      | none => n.identifier.toList := by
  unfold StructName.text StructName.qualified
  cases n.owner with
  | none => simp
  | some o => simp

theorem isShapeWord_nameChars {n : Option StructName} (h : ∀ m, n = some m → m.IsReadable) :
    IsShapeWord (nameChars n) := by
  cases n with
  | none => exact fun c hc => absurd hc List.not_mem_nil
  | some m =>
    have hm := h m rfl
    rw [nameChars, text_toList]
    cases ho : m.owner with
    | none => exact hm.identifier
    | some o =>
      refine isShapeWord_append (hm.owner o ho) fun c hc => ?_
      rcases List.mem_cons.1 hc with rfl | hc
      · decide
      · exact hm.identifier c hc

/-- A name is cut at its last dot. -/
theorem splitLast_text {n : StructName} (h : '.' ∉ n.identifier.toList) :
    Text.splitLast '.' n.text.toList = (n.owner.map String.toList, n.identifier.toList) := by
  rw [text_toList]
  cases n.owner with
  | none => exact Text.splitLast_of_not_mem h
  | some o => exact Text.splitLast_append h

theorem text_ne_nil {n : StructName} (h : n.IsReadable) : n.text.toList ≠ [] := by
  intro ht
  have hs := splitLast_text h.noDot
  rw [ht] at hs
  exact h.notEmpty (Prod.mk.inj hs).2.symm

theorem text_injective {n m : StructName} (hn : n.IsReadable) (hm : m.IsReadable)
    (h : n.text.toList = m.text.toList) : n = m := by
  have hs := splitLast_text hn.noDot
  rw [h, splitLast_text hm.noDot, Prod.mk.injEq] at hs
  cases n
  cases m
  rw [StructName.mk.injEq]
  refine ⟨String.toList_inj.1 hs.2.symm, ?_⟩
  exact Option.map_injective (fun _ _ => String.toList_inj.1) hs.1.symm

theorem nameChars_injective {n m : Option StructName} (hn : ∀ k, n = some k → k.IsReadable)
    (hm : ∀ k, m = some k → k.IsReadable) (h : nameChars n = nameChars m) : n = m := by
  cases n with
  | none =>
    cases m with
    | none => rfl
    | some m => exact absurd h.symm (text_ne_nil (hm m rfl))
  | some n =>
    cases m with
    | none => exact absurd h (text_ne_nil (hn n rfl))
    | some m => rw [text_injective (hn n rfl) (hm m rfl) h]

/-! ## Reading shapes -/

namespace EvmType

/-- What follows a component: others behind a comma, the parenthesis, and the rest of the text. -/
def restText : List (Named EvmType) → List Char → List Char
  | [], r => ')' :: r
  | ⟨name, t⟩ :: cs, r =>
    ',' :: ((shape t).toList ++ ' ' :: (name.toList ++ restText cs r))

/-- The components of a tuple, the parenthesis, and the rest of the text. -/
def bodyText : List (Named EvmType) → List Char → List Char
  | [], r => ')' :: r
  | ⟨name, t⟩ :: cs, r => (shape t).toList ++ ' ' :: (name.toList ++ restText cs r)

theorem body_toList (cs : List (Named EvmType)) (r : List Char) :
    (",".intercalate (shapes cs)).toList ++ ')' :: r = bodyText cs r := by
  induction cs with
  | nil => rfl
  | cons c cs ih =>
    cases cs with
    | nil => simp [shapes, bodyText, restText]
    | cons d ds =>
      have hr : restText (d :: ds) r = ',' :: bodyText (d :: ds) r := rfl
      rw [bodyText, hr, ← ih]
      simp [shapes]

theorem startsDelimited_rest (cs : List (Named EvmType)) (r : List Char) :
    StartsDelimited (restText cs r) := by
  cases cs with
  | nil => exact startsDelimited_cons (by decide) _
  | cons c cs => exact startsDelimited_cons (by decide) _

theorem body_of_rest {cs cs' : List (Named EvmType)} {r r' : List Char}
    (h : restText cs r = restText cs' r') : bodyText cs r = bodyText cs' r' := by
  cases cs with
  | nil =>
    cases cs' with
    | nil => exact h
    | cons c' cs' => exact absurd (List.cons.inj h).1 (by decide)
  | cons c cs =>
    cases cs' with
    | nil => exact absurd (List.cons.inj h).1 (by decide)
    | cons c' cs' => exact (List.cons.inj h).2

theorem shape_tuple_append (cs : List (Named EvmType)) (n : Option StructName) (spelling : String)
    (r : List Char) :
    (shape (.tuple cs n spelling)).toList ++ r = nameChars n ++ '(' :: bodyText cs r := by
  rw [← body_toList]
  cases n with
  | none => simp [shape, nameChars]
  | some m => simp [shape, nameChars]

/-- Arrays of arrays around a type, the innermost one first. -/
def wrap (t : EvmType) (sizes : List (Option Nat)) : EvmType :=
  sizes.foldl (fun t n => .array t n "") t

/-- A type that is no array. -/
def IsCore (t : EvmType) : Prop :=
  (∃ k spelling, t = .leaf k spelling) ∨ ∃ cs n spelling, t = .tuple cs n spelling

/-- Every type is a leaf or a tuple, in arrays. -/
theorem exists_core (t : EvmType) (h : t.HasReadableNames) :
    ∃ core sizes, IsCore core ∧ core.HasReadableNames ∧
      (∀ more, wrap t.erased more = wrap core.erased (sizes ++ more)) ∧
      ∀ more r, (shape t).toList ++ (sizesText more ++ r) =
        (shape core).toList ++ (sizesText (sizes ++ more) ++ r) := by
  match t, h with
  | .leaf k spelling, h =>
    exact ⟨.leaf k spelling, [], Or.inl ⟨_, _, rfl⟩, h, fun _ => rfl, fun _ _ => rfl⟩
  | .tuple cs n spelling, h =>
    exact ⟨.tuple cs n spelling, [], Or.inr ⟨_, _, _, rfl⟩, h, fun _ => rfl, fun _ _ => rfl⟩
  | .array element n spelling, h =>
    obtain ⟨core, sizes, hc, hn, hw, ht⟩ := exists_core element h
    refine ⟨core, sizes ++ [n], hc, hn, fun more => ?_, fun more r => ?_⟩
    · rw [List.append_assoc, List.singleton_append, ← hw]
      rfl
    · rw [List.append_assoc, List.singleton_append, ← ht, sizesText_cons, shape,
        String.toList_append, arraySuffix_toList]
      simp

/-! ## Comparison -/

theorem startsDelimited_sizes {sizes : List (Option Nat)} {r : List Char} (hr : FollowsShape r) :
    StartsDelimited (sizesText sizes ++ r) := by
  cases sizes with
  | nil => exact hr.startsDelimited
  | cons n sizes =>
    rw [sizesText_cons]
    exact startsDelimited_cons (by decide) _

/-- After a leaf there is no parenthesis. -/
theorem sizes_ne_body {sizes : List (Option Nat)} {r s : List Char} (hr : FollowsShape r) :
    sizesText sizes ++ r ≠ '(' :: s := by
  intro h
  cases sizes with
  | nil =>
    have hp : r = '(' :: s := h
    rw [hp] at hr
    exact absurd (hr '(' rfl) (by decide)
  | cons n sizes =>
    rw [sizesText_cons] at h
    exact absurd (List.cons.inj h).1 (by decide)

/-- No shape starts with the parenthesis that ends components. -/
theorem shape_ne_close {t : EvmType} (h : t.HasReadableNames) (s r : List Char) :
    (shape t).toList ++ s ≠ ')' :: r := by
  obtain ⟨core, sizes, hc, hn, -, ht⟩ := exists_core t h
  rw [show s = sizesText [] ++ s from rfl, ht]
  rcases hc with ⟨k, spelling, rfl⟩ | ⟨cs, n, spelling, rfl⟩
  · exact word_ne_delimiter (isShapeWord_canonical k) (canonical_ne_nil k) (by decide)
  · rw [shape_tuple_append]
    by_cases hname : nameChars n = []
    · rw [hname]
      intro he
      exact absurd (List.cons.inj he).1 (by decide)
    · exact word_ne_delimiter (isShapeWord_nameChars hn.1) hname (by decide)

mutual

/-- The induction is on the first type; the second one is taken apart as far as it is needed. -/
theorem shape_append_inj : (t : EvmType) → t.HasReadableNames → {t' : EvmType} →
    t'.HasReadableNames → {sizes sizes' : List (Option Nat)} → {r r' : List Char} →
    FollowsShape r → FollowsShape r' →
    (shape t).toList ++ (sizesText sizes ++ r) = (shape t').toList ++ (sizesText sizes' ++ r') →
    wrap t.erased sizes = wrap t'.erased sizes' ∧ r = r'
  | .leaf k spelling, _, t', hn', sizes, sizes', r, r', hr, hr', h => by
    obtain ⟨core, ms, hc, hn, hw, ht⟩ := exists_core t' hn'
    rw [ht] at h
    rw [hw]
    rcases hc with ⟨k', spelling', rfl⟩ | ⟨cs', n', spelling', rfl⟩
    · obtain ⟨hk, hs⟩ := word_append_inj (isShapeWord_canonical k) (isShapeWord_canonical k')
        (startsDelimited_sizes hr) (startsDelimited_sizes hr') h
      obtain ⟨hsizes, hrr⟩ := sizes_append_inj hr hr' hs
      rw [canonical_injective hk, hsizes]
      exact ⟨rfl, hrr⟩
    · rw [shape_tuple_append] at h
      obtain ⟨-, hs⟩ := word_append_inj (isShapeWord_canonical k) (isShapeWord_nameChars hn.1)
        (startsDelimited_sizes hr) (startsDelimited_cons (by decide) _) h
      exact absurd hs (sizes_ne_body hr)
  | .array element n spelling, hn, t', hn', sizes, sizes', r, r', hr, hr', h => by
    have he : (shape element).toList ++ (sizesText (n :: sizes) ++ r) =
        (shape t').toList ++ (sizesText sizes' ++ r') := by
      rw [← h, shape, String.toList_append, arraySuffix_toList, sizesText_cons]
      simp
    exact shape_append_inj element hn hn' hr hr' he
  | .tuple cs n spelling, hn, t', hn', sizes, sizes', r, r', hr, hr', h => by
    obtain ⟨core, ms, hc, hnc, hw, ht⟩ := exists_core t' hn'
    rw [ht, shape_tuple_append] at h
    rw [hw]
    rcases hc with ⟨k', spelling', rfl⟩ | ⟨cs', n', spelling', rfl⟩
    · obtain ⟨-, hs⟩ := word_append_inj (isShapeWord_nameChars hn.1) (isShapeWord_canonical k')
        (startsDelimited_cons (by decide) _) (startsDelimited_sizes hr') h
      exact absurd hs.symm (sizes_ne_body hr')
    · rw [shape_tuple_append] at h
      obtain ⟨hname, hs⟩ := word_append_inj (isShapeWord_nameChars hn.1)
        (isShapeWord_nameChars hnc.1) (startsDelimited_cons (by decide) _)
        (startsDelimited_cons (by decide) _) h
      obtain ⟨hcs, hs⟩ := body_inj cs hn.2 hnc.2 (List.cons.inj hs).2
      obtain ⟨hsizes, hrr⟩ := sizes_append_inj hr hr' hs
      rw [nameChars_injective hn.1 hnc.1 hname, hsizes, erased, erased, hcs]
      exact ⟨rfl, hrr⟩

theorem body_inj : (cs : List (Named EvmType)) → HaveReadableNames cs →
    {cs' : List (Named EvmType)} → HaveReadableNames cs' → {r r' : List Char} →
    bodyText cs r = bodyText cs' r' → erasedAll cs = erasedAll cs' ∧ r = r'
  | [], _, [], _, r, r', h => ⟨rfl, (List.cons.inj h).2⟩
  | [], _, ⟨name', t'⟩ :: cs', hn', r, r', h => absurd h.symm (shape_ne_close hn'.2.1 _ _)
  | ⟨name, t⟩ :: cs, hn, [], _, r, r', h => absurd h (shape_ne_close hn.2.1 _ _)
  | ⟨name, t⟩ :: cs, hn, ⟨name', t'⟩ :: cs', hn', r, r', h => by
    have hblank (s : List Char) : FollowsShape (' ' :: s) := fun c hc => (Option.some.inj hc).symm
    have he : (shape t).toList ++ (sizesText [] ++ ' ' :: (name.toList ++ restText cs r)) =
        (shape t').toList ++ (sizesText [] ++ ' ' :: (name'.toList ++ restText cs' r')) := h
    obtain ⟨ht, hrest⟩ := shape_append_inj t hn.2.1 hn'.2.1 (hblank _) (hblank _) he
    obtain ⟨hname, hrest⟩ := word_append_inj hn.1 hn'.1 (startsDelimited_rest _ _)
      (startsDelimited_rest _ _) (List.cons.inj hrest).2
    obtain ⟨hcs, hr⟩ := body_inj cs hn.2.2 hn'.2.2 (body_of_rest hrest)
    refine ⟨?_, hr⟩
    rw [erasedAll, erasedAll, hcs, String.toList_inj.1 hname]
    exact congrArg (fun u => ⟨name', u⟩ :: erasedAll cs') ht

end

mutual

theorem shape_erased : (t : EvmType) → shape t.erased = shape t
  | .leaf k _ => rfl
  | .array element n _ => by
    rw [erased, shape, shape, shape_erased element]
  | .tuple cs n _ => by
    have h := shapes_erasedAll cs
    cases n with
    | none => simp only [erased, shape, h]
    | some m => simp only [erased, shape, h]

theorem shapes_erasedAll : (cs : List (Named EvmType)) → shapes (erasedAll cs) = shapes cs
  | [] => rfl
  | ⟨name, t⟩ :: cs => by
    rw [erasedAll, shapes, shapes, shape_erased t, shapes_erasedAll cs]

end

mutual

theorem canonical_erased : (t : EvmType) → canonical t.erased = canonical t
  | .leaf _ _ => rfl
  | .array element _ _ => by rw [erased, canonical, canonical, canonical_erased element]
  | .tuple cs _ _ => by rw [erased, canonical, canonical, canonicals_erasedAll cs]

theorem canonicals_erasedAll : (cs : List (Named EvmType)) →
    canonicals (erasedAll cs) = canonicals cs
  | [] => rfl
  | ⟨_, t⟩ :: cs => by
    rw [erasedAll, canonicals, canonicals, canonical_erased t, canonicals_erasedAll cs]

end

theorem shape_eq_iff {t t' : EvmType} (h : t.HasReadableNames) (h' : t'.HasReadableNames) :
    shape t = shape t' ↔ t.erased = t'.erased := by
  constructor
  · intro he
    have hnil : FollowsShape [] := fun c hc => by cases hc
    have ht : (shape t).toList ++ (sizesText [] ++ []) =
        (shape t').toList ++ (sizesText [] ++ []) := by
      rw [he]
    exact (shape_append_inj t h h' hnil hnil ht).1
  · intro he
    rw [← shape_erased t, he, shape_erased]

theorem shape_struct_eq_iff {s s' : StructType} (h : HaveReadableNames s.components)
    (h' : HaveReadableNames s'.components) :
    s.shape = s'.shape ↔ erasedAll s.components = erasedAll s'.components := by
  unfold StructType.shape
  constructor
  · intro he
    have ht := congrArg String.toList he
    simp only [String.toList_append, List.append_assoc] at ht
    have hbody : bodyText s.components [] = bodyText s'.components [] := by
      rw [← body_toList, ← body_toList]
      exact List.append_cancel_left ht
    exact (body_inj s.components h h' hbody).1
  · intro he
    rw [← shapes_erasedAll s.components, he, shapes_erasedAll]

end EvmType

end AbiBindings
