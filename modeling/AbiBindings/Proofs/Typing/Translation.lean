import AbiBindings.Proofs.Checked
import AbiBindings.Proofs.TypeScript.Grammar
import AbiBindings.Typing

/-!
# What generated type expressions mean

`Translates` is the structure of a value's type as a type expression, without its text: a leaf is
what the table calls it, an array is an array of its element or a tuple of copies, and a tuple is an
object or a sequence of positions.  The text that is generated for a type reads as its translation
and as nothing else.  This rests on the parentheses of arrays: a text that shows no operator is an
operand.

    bucketFor? bits buckets = some b → IsBucketFor bits buckets b       (isBucketFor_of_bucketFor?)
    Reads text e → Reads (arrayText text) (.array e)                    (Reads.array)
    the text of a type reads as its translation                         (typeOf_reads_back)
-/

namespace AbiBindings

/-! ## Names -/

namespace EvmType

mutual

/-- Structs have dotted names, and components have names or none. -/
def hasTsNames : EvmType → Bool
  | .leaf _ _ => true
  | .array element _ _ => hasTsNames element
  | .tuple components name _ =>
    name.all (fun n => isDottedName n.text.toList) && haveTsNames components

def haveTsNames : List (Named EvmType) → Bool
  | [] => true
  | ⟨name, t⟩ :: r => (name.isEmpty || isName name.toList) && hasTsNames t && haveTsNames r

end

theorem name_of_haveTsNames {cs : List Component} (h : haveTsNames cs = true) {c : Component}
    (hc : c ∈ cs) : c.name = "" ∨ isName c.name.toList = true := by
  induction cs with
  | nil => cases hc
  | cons d r ih =>
    simp only [haveTsNames, Bool.and_eq_true, Bool.or_eq_true, String.isEmpty_iff] at h
    rcases List.mem_cons.1 hc with rfl | hc
    · exact h.1.1
    · exact ih h.2 hc

end EvmType

theorem StructName.qualified_eq (n : StructName) (suffix : String) :
    n.qualified suffix = n.text ++ suffix := by
  unfold text qualified
  cases n.owner with
  | none => simp
  | some o => simp [String.append_assoc]

/-! ### Leaves -/

/-- Dotted names joined by ` & `, and those joined by ` | `. -/
def unionText (alternatives : List (List String)) : String :=
  " | ".intercalate (alternatives.map fun ms => " & ".intercalate ms)

/-- The union of intersections of names. -/
def unionTree (alternatives : List (List String)) : TsTree :=
  .either (alternatives.map fun ms => .both (ms.map .name))

/-- What a leaf may be called: dotted names, joined. -/
structure IsUnionText (text : String) (alternatives : List (List String)) : Prop where
  text_eq : text = unionText alternatives
  notEmpty : alternatives ≠ []
  members : ∀ ms ∈ alternatives, ms ≠ [] ∧ ∀ n ∈ ms, isDottedName n.toList = true

/-- All names in a table. -/
def LeafNames.all (l : LeafNames) : List String :=
  l.plain.map (·.2) ++ l.integers.map (·.name)

/-- A typing by which leaves are called by joined names, and structs by names. -/
structure Typing.HasTsNames (y : Typing) (d : Direction) : Prop where
  leaves : ∀ name ∈ (y.leafNames d).all, ∃ alternatives, IsUnionText name alternatives
  suffix : ∀ c ∈ (y.suffix d).toList, isNameChar c = true

/-- The first bucket of those that hold the bits with the least maximum. -/
def IsBucketFor (bits : Nat) (buckets : List IntegerBucket) (b : IntegerBucket) : Prop :=
  bits ≤ b.maxBits ∧ ∃ before after, buckets = before ++ b :: after ∧
    (∀ x ∈ before, bits ≤ x.maxBits → b.maxBits < x.maxBits) ∧
    ∀ x ∈ after, bits ≤ x.maxBits → b.maxBits ≤ x.maxBits

/-- The name of a leaf in a table. -/
inductive IsLeafName (l : LeafNames) : Leaf → String → Prop where
  | address : IsLeafName l .address l.address
  | bool : IsLeafName l .bool l.boolean
  | string : IsLeafName l .string l.string
  | uint {bits : Nat} {b : IntegerBucket} (h : IsBucketFor bits l.integers b) :
    IsLeafName l (.uint bits) b.name
  | int {bits : Nat} {b : IntegerBucket} (h : IsBucketFor bits l.integers b) :
    IsLeafName l (.int bits) b.name
  | fixedBytes {size : Nat} : IsLeafName l (.fixedBytes size) l.bytes
  | bytes : IsLeafName l .bytes l.dynamicBytes

/-! ## Translation -/

mutual

/-- The type expression of a value's type. -/
inductive Translates (y : Typing) (d : Direction) (useStructs : Bool) :
    EvmType → TsTree → Prop where
  | leaf {kind : Leaf} {spelling name : String} {alternatives : List (List String)}
    (h : IsLeafName (y.leafNames d) kind name) (hn : IsUnionText name alternatives) :
    Translates y d useStructs (.leaf kind spelling) (unionTree alternatives)
  | array {element : EvmType} {size : Option Nat} {spelling : String} {e : TsTree}
    (h : Translates y d useStructs element e) (hs : ∀ n, size = some n → 64 < n) :
    Translates y d useStructs (.array element size spelling) (.array e)
  | copies {element : EvmType} {n : Nat} {spelling : String} {e : TsTree}
    (h : Translates y d useStructs element e) (hn : n ≤ 64) :
    Translates y d useStructs (.array element (some n) spelling) (.tuple (List.replicate n e))
  | struct {cs : List Component} {n : StructName} {spelling : String} (hs : useStructs = true) :
    Translates y d useStructs (.tuple cs (some n) spelling) (.name (n.text ++ y.suffix d))
  | inputObject {cs : List Component} {name : Option StructName} {spelling : String}
    {es : List (Named TsTree)} (hs : name = none ∨ useStructs = false) (hd : d = .input)
    (h : TranslateAll y d useStructs cs es) (hn : ∀ c ∈ cs, c.name ≠ "") :
    Translates y d useStructs (.tuple cs name spelling) (.object es)
  | inputPositions {cs : List Component} {name : Option StructName} {spelling : String}
    {es : List (Named TsTree)} (hs : name = none ∨ useStructs = false) (hd : d = .input)
    (h : TranslateAll y d useStructs cs es) (hn : ∃ c ∈ cs, c.name = "") :
    Translates y d useStructs (.tuple cs name spelling) (.tuple (es.map (·.type)))
  | outputBoth {cs : List Component} {name : Option StructName} {spelling : String}
    {es : List (Named TsTree)} (hs : name = none ∨ useStructs = false) (hd : d = .output)
    (h : TranslateAll y d useStructs cs es) (hn : ∃ c ∈ cs, c.name ≠ "") :
    Translates y d useStructs (.tuple cs name spelling)
      (.intersection [.tuple (es.map (·.type)), .object (es.filter fun e => !e.name.isEmpty)])
  | outputPositions {cs : List Component} {name : Option StructName} {spelling : String}
    {es : List (Named TsTree)} (hs : name = none ∨ useStructs = false) (hd : d = .output)
    (h : TranslateAll y d useStructs cs es) (hn : ∀ c ∈ cs, c.name = "") :
    Translates y d useStructs (.tuple cs name spelling) (.tuple (es.map (·.type)))

/-- The type expressions of components, in their order and with their names. -/
inductive TranslateAll (y : Typing) (d : Direction) (useStructs : Bool) :
    List Component → List (Named TsTree) → Prop where
  | nil : TranslateAll y d useStructs [] []
  | cons {c : Component} {cs : List Component} {e : TsTree} {es : List (Named TsTree)}
    (h : Translates y d useStructs c.type e) (hr : TranslateAll y d useStructs cs es) :
    TranslateAll y d useStructs (c :: cs) (⟨c.name, e⟩ :: es)

end

/-! ## Buckets -/

/-- The first bucket of a list with the least maximum. -/
def IsFirstLeast (buckets : List IntegerBucket) (b : IntegerBucket) : Prop :=
  ∃ before after, buckets = before ++ b :: after ∧
    (∀ x ∈ before, b.maxBits < x.maxBits) ∧ ∀ x ∈ after, b.maxBits ≤ x.maxBits

theorem IsFirstLeast.le_head {first b : IntegerBucket} {rest : List IntegerBucket}
    (h : IsFirstLeast (first :: rest) b) : b.maxBits ≤ first.maxBits := by
  obtain ⟨before, after, hl, hb, -⟩ := h
  cases before with
  | nil => rw [← (List.cons.inj hl).1]
  | cons y before =>
    have := hb y List.mem_cons_self
    rw [← (List.cons.inj hl).1] at this
    omega

/-- A wider bucket in front changes nothing. -/
theorem IsFirstLeast.cons_of_lt {first b : IntegerBucket} {l : List IntegerBucket}
    (h : IsFirstLeast l b) (hlt : b.maxBits < first.maxBits) : IsFirstLeast (first :: l) b := by
  obtain ⟨before, after, rfl, hb, ha⟩ := h
  refine ⟨first :: before, after, rfl, fun z hz => ?_, ha⟩
  rcases List.mem_cons.1 hz with rfl | hz
  · exact hlt
  · exact hb z hz

/-- Nor does a bucket behind the first one that is as wide. -/
theorem IsFirstLeast.insert {first b x : IntegerBucket} {rest : List IntegerBucket}
    (h : IsFirstLeast (first :: rest) b) (hx : first.maxBits ≤ x.maxBits) :
    IsFirstLeast (first :: x :: rest) b := by
  obtain ⟨before, after, hl, hb, ha⟩ := h
  cases before with
  | nil =>
    obtain ⟨rfl, rfl⟩ := List.cons.inj hl
    refine ⟨[], x :: rest, rfl, by simp, fun z hz => ?_⟩
    rcases List.mem_cons.1 hz with rfl | hz
    · exact hx
    · exact ha z hz
  | cons y before =>
    obtain ⟨rfl, rfl⟩ := List.cons.inj hl
    have hfirst := hb first List.mem_cons_self
    have hrest : IsFirstLeast (before ++ b :: after) b :=
      ⟨before, after, rfl, fun z hz => hb z (List.mem_cons_of_mem _ hz), ha⟩
    exact (hrest.cons_of_lt (by omega)).cons_of_lt hfirst

theorem isFirstLeast_foldl (first : IntegerBucket) (rest : List IntegerBucket) :
    IsFirstLeast (first :: rest) (rest.foldl IntegerBucket.better first) := by
  induction rest generalizing first with
  | nil => exact ⟨[], [], rfl, by simp, by simp⟩
  | cons x rest ih =>
    rw [List.foldl_cons]
    by_cases hx : x.maxBits < first.maxBits
    · rw [IntegerBucket.better, if_pos hx]
      have hle := (ih x).le_head
      exact (ih x).cons_of_lt (by omega)
    · rw [IntegerBucket.better, if_neg hx]
      exact (ih first).insert (by omega)

theorem isBucketFor_of_bucketFor? {bits : Nat} {buckets : List IntegerBucket} {b : IntegerBucket}
    (h : bucketFor? bits buckets = some b) : IsBucketFor bits buckets b := by
  unfold bucketFor? at h
  split at h
  · cases h
  · rename_i first rest hl
    cases h
    obtain ⟨before, after, hsplit, hb, ha⟩ := isFirstLeast_foldl first rest
    rw [hsplit] at hl
    obtain ⟨l₁, l₂, rfl, hl₁, hl₂⟩ := List.filter_eq_append_iff.1 hl
    obtain ⟨l₃, l₄, rfl, hl₃, hbits, hl₄⟩ := List.filter_eq_cons_iff.1 hl₂
    refine ⟨by simpa using hbits, l₁ ++ l₃, l₄, by simp, ?_, ?_⟩
    · intro x hx hxb
      rcases List.mem_append.1 hx with hx | hx
      · exact hb x (by rw [← hl₁]; exact List.mem_filter.2 ⟨hx, by simpa using hxb⟩)
      · exact absurd (by simpa using hxb) (hl₃ x hx)
    · intro x hx hxb
      exact ha x (by rw [← hl₄]; exact List.mem_filter.2 ⟨hx, by simpa using hxb⟩)

theorem isLeafName_of_nameOf {l : LeafNames} {spelling name : String} {k : Leaf}
    (h : l.nameOf spelling k = .ok name) : IsLeafName l k name := by
  have hint {bits : Nat} (h : l.integer bits spelling = .ok name) :
      ∃ b, name = b.name ∧ IsBucketFor bits l.integers b := by
    unfold LeafNames.integer LeafNames.integer? at h
    cases hb : bucketFor? bits l.integers with
    | none =>
      rw [hb] at h
      cases h
    | some b =>
      rw [hb] at h
      cases h
      exact ⟨b, rfl, isBucketFor_of_bucketFor? hb⟩
  cases k with
  | address | bool | string | fixedBytes | bytes =>
    cases h
    constructor
  | uint bits =>
    obtain ⟨b, rfl, hb⟩ := hint h
    exact .uint hb
  | int bits =>
    obtain ⟨b, rfl, hb⟩ := hint h
    exact .int hb

theorem mem_all_of_isLeafName {l : LeafNames} {name : String} {k : Leaf}
    (h : IsLeafName l k name) : name ∈ l.all := by
  cases h with
  | uint h | int h =>
    obtain ⟨-, before, after, hl, -⟩ := h
    refine List.mem_append_right _ (List.mem_map.2 ⟨_, ?_, rfl⟩)
    rw [hl]
    exact List.mem_append_right _ List.mem_cons_self
  | address | bool | string | fixedBytes | bytes => simp [LeafNames.all, LeafNames.plain]

/-! ## Reading -/

/-- A text reads as an operand, or as a type whose text shows an operator. -/
inductive Reads (text : String) (e : TsTree) : Prop where
  | operand (h : Phrase .operand (tokens text) e)
  | shown (h : Phrase .type (tokens text) e) (hs : showsOperator text = true)

theorem Reads.type {text : String} {e : TsTree} (h : Reads text e) :
    Phrase .type (tokens text) e := by
  cases h with
  | operand h => exact h.toType
  | shown h _ => exact h

/-! ### Operators -/

theorem hasInfix_eq_true_iff {p s : List Char} : hasInfix p s = true ↔ p <:+: s := by
  induction s with
  | nil => rw [hasInfix, List.isEmpty_iff, List.infix_nil]
  | cons c s ih =>
    rw [hasInfix, Bool.or_eq_true, ih, List.isPrefixOf_iff_prefix, List.infix_cons_iff]

theorem hasInfix_append (p a b : String) : hasInfix p.toList (a ++ p ++ b).toList = true := by
  rw [hasInfix_eq_true_iff, String.toList_append, String.toList_append]
  exact List.infix_append _ _ _

theorem showsOperator_and (a b : String) : showsOperator (a ++ " & " ++ b) = true := by
  rw [showsOperator, hasInfix_append, Bool.true_or]

theorem showsOperator_or (a b : String) : showsOperator (a ++ " | " ++ b) = true := by
  rw [showsOperator, hasInfix_append " | ", Bool.or_true]

/-! ### Names -/

theorem phrase_name {n : String} (h : isDottedName n.toList = true) :
    Phrase .operand (tokens n) (.name n) := by
  rw [tokens, lex_dottedName h]
  have hname := Phrase.name h
  rw [String.ofList_toList] at hname
  exact hname.toOperand

theorem phrase_union {text : String} {alternatives : List (List String)}
    (h : IsUnionText text alternatives) : Phrase .type (tokens text) (unionTree alternatives) := by
  rw [h.text_eq, unionText, unionTree]
  refine .type (phrases_intercalate separates_or ?_ (by simpa using h.notEmpty))
  rw [List.forall₂_map_left_iff, List.forall₂_map_right_iff, List.forall₂_same]
  intro ms hms
  obtain ⟨hne, hn⟩ := h.members ms hms
  refine .part (phrases_intercalate separates_and ?_ hne)
  rw [List.forall₂_map_right_iff, List.forall₂_same]
  exact fun n hm => phrase_name (hn n hm)

/-- Several names show an operator between them. -/
theorem reads_union {text : String} {alternatives : List (List String)}
    (h : IsUnionText text alternatives) : Reads text (unionTree alternatives) := by
  have htype := phrase_union h
  obtain ⟨htext, hne, hm⟩ := h
  match alternatives with
  | [] => exact absurd rfl hne
  | ms :: ms' :: rest =>
    refine .shown htype ?_
    rw [htext, unionText, List.map_cons, List.map_cons, String.intercalate_cons_cons]
    exact showsOperator_or _ _
  | [ms] =>
    have hone : text = " & ".intercalate ms := by
      rw [htext, unionText, List.map_singleton, String.intercalate_singleton]
    obtain ⟨hms, hn⟩ := hm ms List.mem_cons_self
    match ms with
    | [] => exact absurd rfl hms
    | n :: n' :: rest =>
      refine .shown htype ?_
      rw [hone, String.intercalate_cons_cons]
      exact showsOperator_and _ _
    | [n] =>
      rw [hone, String.intercalate_singleton]
      exact .operand (phrase_name (hn n List.mem_cons_self))

/-! ### Arrays -/

/-- An array's element stands in parentheses wherever it has to. -/
theorem Reads.array {text : String} {e : TsTree} (h : Reads text e) :
    Reads (arrayText text) (.array e) := by
  unfold arrayText
  cases hs : showsOperator text with
  | true =>
    rw [if_pos rfl]
    refine .operand ?_
    rw [tokens_group_append_brackets]
    exact (Phrase.group h.type).toOperand.array
  | false =>
    rw [if_neg Bool.false_ne_true]
    cases h with
    | operand h =>
      refine .operand ?_
      rw [tokens_append_brackets]
      exact h.array
    | shown _ hshown =>
      rw [hs] at hshown
      cases hshown

/-! ### Tuples -/

theorem phrase_tuple {texts : List String} {es : List TsTree}
    (h : List.Forall₂ Reads texts es) : Phrase .primary (tokens (bracketed texts)) (.tuple es) := by
  rw [tokens_bracketed]
  cases texts with
  | nil =>
    cases h
    rw [show ", ".intercalate [] = "" from rfl, tokens_empty]
    exact .emptyTuple
  | cons text rest =>
    refine .tuple (phrases_intercalate separates_comma ?_ (List.cons_ne_nil _ _))
    exact h.imp fun _ _ hr => hr.type

theorem forall₂_replicate {α β : Type} {R : α → β → Prop} {a : α} {b : β} (h : R a b) (n : Nat) :
    List.Forall₂ R (List.replicate n a) (List.replicate n b) := by
  induction n with
  | zero => exact .nil
  | succ n ih => exact .cons h ih

/-- Types that read as the types of fields, under their names. -/
def ReadAll (us : List (Named TsType)) (es : List (Named TsTree)) : Prop :=
  List.Forall₂ (fun u e => u.name = e.name ∧ Reads (TsType.text u.type) e.type) us es

theorem ReadAll.tuple {us : List (Named TsType)} {es : List (Named TsTree)} (h : ReadAll us es) :
    Phrase .primary (tokens (TsType.text (.tuple (us.map (·.type)))))
      (.tuple (es.map (·.type))) := by
  rw [TsType.text, TsType.texts_eq_map]
  refine phrase_tuple ?_
  rw [List.map_map, List.forall₂_map_left_iff, List.forall₂_map_right_iff]
  exact h.imp fun _ _ hr => hr.2

theorem ReadAll.object {us : List (Named TsType)} {es : List (Named TsTree)} (h : ReadAll us es)
    (hn : ∀ u ∈ us, isName u.name.toList = true) :
    Phrase .primary (tokens (TsType.text (.object us))) (.object es) := by
  rw [TsType.text, TsType.fieldTexts_eq_map]
  cases us with
  | nil =>
    cases h
    rw [List.map_nil, tokens_braced_nil]
    exact .emptyObject
  | cons u rest =>
    rw [tokens_braced (by simp)]
    refine .object (fields_intercalate ?_ (List.cons_ne_nil _ _))
    rw [List.forall₂_and_left]
    exact ⟨hn, h.imp fun _ _ hr => ⟨hr.1, hr.2.type⟩⟩

/-- The fields with names read as those with names. -/
theorem ReadAll.filter {us : List (Named TsType)} {es : List (Named TsTree)} (h : ReadAll us es) :
    ReadAll (us.filter fun u => !u.name.isEmpty) (es.filter fun e => !e.name.isEmpty) := by
  refine List.rel_filter (fun u e hr => ?_) h
  dsimp only
  rw [hr.1]

/-- Positions with named components on top. -/
theorem reads_both {left right : TsType} {e f : TsTree}
    (hl : Phrase .primary (tokens left.text) e) (hr : Phrase .primary (tokens right.text) f) :
    Reads (TsType.text (.both left right)) (.intersection [e, f]) := by
  rw [TsType.text]
  refine .shown ?_ (showsOperator_and _ _)
  rw [separates_and]
  exact .type (.one (.part (.more hl.toOperand (.one hr.toOperand))))

/-! ## Types -/

section
variable {y : Typing} {d : Direction} {useStructs : Bool}

/-- What is asked of the components of a tuple that is spelled out, once they are translated. -/
structure Translated (y : Typing) (d : Direction) (useStructs : Bool) (cs : List Component)
    (us : List (Named TsType)) (es : List (Named TsTree)) : Prop where
  all : TranslateAll y d useStructs cs es
  reads : ReadAll us es
  names : us.map (·.name) = cs.map (·.name)

theorem Translated.nil : Translated y d useStructs [] [] [] := ⟨.nil, .nil, rfl⟩

theorem Translated.cons {c : Component} {cs : List Component} {u : TsType}
    {us : List (Named TsType)} {e : TsTree} {es : List (Named TsTree)}
    (ht : Translates y d useStructs c.type e) (hr : Reads u.text e)
    (h : Translated y d useStructs cs us es) :
    Translated y d useStructs (c :: cs) (⟨c.name, u⟩ :: us) (⟨c.name, e⟩ :: es) :=
  ⟨.cons ht h.all, .cons ⟨rfl, hr⟩ h.reads, by rw [List.map_cons, List.map_cons, h.names]⟩

section
variable {cs : List Component} {us : List (Named TsType)} {es : List (Named TsTree)}
  {name : Option StructName}

theorem Translated.exists_component (h : Translated y d useStructs cs us es) {u : Named TsType}
    (hu : u ∈ us) : ∃ c ∈ cs, c.name = u.name := by
  have hmem : u.name ∈ us.map (·.name) := List.mem_map.2 ⟨u, hu, rfl⟩
  rw [h.names] at hmem
  exact List.mem_map.1 hmem

theorem Translated.exists_type (h : Translated y d useStructs cs us es) {c : Component}
    (hc : c ∈ cs) : ∃ u ∈ us, u.name = c.name := by
  have hmem : c.name ∈ cs.map (·.name) := List.mem_map.2 ⟨c, hc, rfl⟩
  rw [← h.names] at hmem
  exact List.mem_map.1 hmem

theorem Translated.isName_of_ne (h : Translated y d useStructs cs us es)
    (hn : ∀ c ∈ cs, c.name = "" ∨ isName c.name.toList = true) {u : Named TsType} (hu : u ∈ us)
    (hne : u.name ≠ "") : isName u.name.toList = true := by
  obtain ⟨c, hc, he⟩ := h.exists_component hu
  rw [← he] at hne ⊢
  exact (hn c hc).resolve_left hne

theorem Translated.exists_input (spelling : String) (h : Translated y .input useStructs cs us es)
    (hs : name = none ∨ useStructs = false)
    (hn : ∀ c ∈ cs, c.name = "" ∨ isName c.name.toList = true) :
    ∃ e, Translates y .input useStructs (.tuple cs name spelling) e ∧
      Reads (TsType.text (inputTuple us)) e := by
  rw [inputTuple]
  cases hany : us.any (·.name.isEmpty) with
  | true =>
    obtain ⟨u, hu, he⟩ := List.any_eq_true.1 hany
    obtain ⟨c, hc, hcu⟩ := h.exists_component hu
    refine ⟨_, .inputPositions hs rfl h.all ⟨c, hc, ?_⟩, .operand h.reads.tuple.toOperand⟩
    rw [hcu, ← String.isEmpty_iff]
    exact he
  | false =>
    have hall : ∀ u ∈ us, u.name ≠ "" := by
      simpa [List.any_eq_false, String.isEmpty_iff] using hany
    refine ⟨_, .inputObject hs rfl h.all fun c hc => ?_,
      .operand (h.reads.object fun u hu => h.isName_of_ne hn hu (hall u hu)).toOperand⟩
    obtain ⟨u, hu, he⟩ := h.exists_type hc
    rw [← he]
    exact hall u hu

theorem Translated.exists_output (spelling : String) (h : Translated y .output useStructs cs us es)
    (hs : name = none ∨ useStructs = false)
    (hn : ∀ c ∈ cs, c.name = "" ∨ isName c.name.toList = true) :
    ∃ e, Translates y .output useStructs (.tuple cs name spelling) e ∧
      Reads (TsType.text (outputTuple us)) e := by
  rw [outputTuple]
  cases hf : (us.filter fun u => !u.name.isEmpty).isEmpty with
  | true =>
    rw [List.isEmpty_iff, List.filter_eq_nil_iff] at hf
    refine ⟨_, .outputPositions hs rfl h.all fun c hc => ?_, .operand h.reads.tuple.toOperand⟩
    obtain ⟨u, hu, he⟩ := h.exists_type hc
    rw [← he]
    simpa using hf u hu
  | false =>
    obtain ⟨u, hu, hne⟩ : ∃ u ∈ us, u.name ≠ "" := by simpa using hf
    obtain ⟨c, hc, he⟩ := h.exists_component hu
    refine ⟨_, .outputBoth hs rfl h.all ⟨c, hc, by rwa [he]⟩,
      reads_both h.reads.tuple (h.reads.filter.object fun v hv => ?_)⟩
    obtain ⟨hv, hne⟩ := List.mem_filter.1 hv
    exact h.isName_of_ne hn hv (by simpa using hne)

/-- A tuple that is spelled out reads as its translation. -/
theorem Translated.exists_tuple (spelling : String) (h : Translated y d useStructs cs us es)
    (hs : name = none ∨ useStructs = false)
    (hn : ∀ c ∈ cs, c.name = "" ∨ isName c.name.toList = true) :
    ∃ e, Translates y d useStructs (.tuple cs name spelling) e ∧
      Reads (TsType.text (tupleType d us)) e := by
  cases d with
  | input => exact h.exists_input spelling hs hn
  | output => exact h.exists_output spelling hs hn

end

/-- An array reads as its translation if its element does. -/
theorem exists_array {element : EvmType} {u : TsType} {e : TsTree} (size : Option Nat)
    (spelling : String) (ht : Translates y d useStructs element e) (hr : Reads u.text e) :
    ∃ e, Translates y d useStructs (.array element size spelling) e ∧
      Reads (TsType.text (arrayType size u)) e := by
  cases size with
  | none => exact ⟨_, .array ht (by simp), hr.array⟩
  | some n =>
    rw [arrayType]
    by_cases hn : n ≤ maxTupleLength
    · rw [if_pos hn, TsType.text, TsType.texts_eq_map, List.map_replicate]
      exact ⟨_, .copies ht hn, .operand (phrase_tuple (forall₂_replicate hr n)).toOperand⟩
    · rw [if_neg hn]
      refine ⟨_, .array ht fun m hm => ?_, hr.array⟩
      cases hm
      exact Nat.lt_of_not_le hn

theorem typeOf_struct (cs : List Component) (n : StructName) (spelling : String) :
    y.typeOf d true (.tuple cs (some n) spelling) = .ok (.named (n.qualified (y.suffix d))) := rfl

theorem typeOf_spelledOut {cs : List Component} {name : Option StructName} {spelling : String}
    (h : name = none ∨ useStructs = false) :
    y.typeOf d useStructs (.tuple cs name spelling) =
      (y.typesOf d useStructs cs).map (tupleType d) := by
  rcases h with rfl | rfl
  · cases useStructs <;> rfl
  · cases name <;> rfl

/-- A struct is referred to by a dotted name. -/
theorem reads_struct {n : StructName} (hn : isDottedName n.text.toList = true)
    (hsuffix : ∀ c ∈ (y.suffix d).toList, isNameChar c = true) :
    Reads (n.qualified (y.suffix d)) (.name (n.text ++ y.suffix d)) := by
  rw [StructName.qualified_eq]
  refine .operand (phrase_name ?_)
  rw [String.toList_append]
  exact isDottedName_append hn hsuffix

mutual

theorem exists_translation (hy : y.HasTsNames d) : (t : EvmType) → t.hasTsNames = true →
    {u : TsType} → y.typeOf d useStructs t = .ok u →
    ∃ e, Translates y d useStructs t e ∧ Reads u.text e
  | .leaf kind spelling, _, u, h => by
    obtain ⟨name, hname, rfl⟩ := map_eq_ok_iff.1 h
    have hleaf := isLeafName_of_nameOf hname
    obtain ⟨alternatives, ha⟩ := hy.leaves name (mem_all_of_isLeafName hleaf)
    exact ⟨_, .leaf hleaf ha, reads_union ha⟩
  | .array element size spelling, hn, u, h => by
    obtain ⟨v, hv, rfl⟩ := map_eq_ok_iff.1 h
    obtain ⟨e, ht, hr⟩ := exists_translation hy element hn hv
    exact exists_array size spelling ht hr
  | .tuple cs name spelling, hn, u, h => by
    rw [EvmType.hasTsNames, Bool.and_eq_true] at hn
    by_cases hs : name = none ∨ useStructs = false
    · rw [typeOf_spelledOut hs] at h
      obtain ⟨us, hus, rfl⟩ := map_eq_ok_iff.1 h
      obtain ⟨es, hes⟩ := exists_translations hy cs hn.2 hus
      exact hes.exists_tuple spelling hs fun c hc => EvmType.name_of_haveTsNames hn.2 hc
    · obtain ⟨hname, hstructs⟩ := not_or.1 hs
      rw [Bool.not_eq_false] at hstructs
      obtain ⟨n, rfl⟩ := Option.ne_none_iff_exists'.1 hname
      rw [hstructs, typeOf_struct] at h
      cases h
      exact ⟨_, .struct hstructs, reads_struct hn.1 hy.suffix⟩

theorem exists_translations (hy : y.HasTsNames d) : (cs : List (Named EvmType)) →
    EvmType.haveTsNames cs = true → {us : List (Named TsType)} → y.typesOf d useStructs cs = .ok us →
    ∃ es, Translated y d useStructs cs us es
  | [], _, us, h => by
    cases h
    exact ⟨[], .nil⟩
  | ⟨name, t⟩ :: rest, hn, us, h => by
    simp only [EvmType.haveTsNames, Bool.and_eq_true] at hn
    obtain ⟨u, hu, h⟩ := bind_eq_ok_iff.1 h
    obtain ⟨vs, hvs, h⟩ := bind_eq_ok_iff.1 h
    cases h
    obtain ⟨e, ht, hr⟩ := exists_translation hy t hn.1.2 hu
    obtain ⟨es, hes⟩ := exists_translations hy rest hn.2 hvs
    exact ⟨_, hes.cons (c := ⟨name, t⟩) ht hr⟩

end

/-- The text of a type reads as one type expression, the translation of the type. -/
theorem typeOf_reads_back (hy : y.HasTsNames d) {t : EvmType} (ht : t.hasTsNames = true)
    {text : String} (h : (y.typeOf d useStructs t).map TsType.text = .ok text) :
    ∃ e, Translates y d useStructs t e ∧ ∀ e', Phrase .type (tokens text) e' ↔ e' = e := by
  obtain ⟨u, hu, rfl⟩ := map_eq_ok_iff.1 h
  obtain ⟨e, he, hr⟩ := exists_translation hy t ht hu
  refine ⟨e, he, fun e' => ⟨fun h' => h'.unique hr.type, ?_⟩⟩
  rintro rfl
  exact hr.type

end

/-- A table by which addresses are passed in two ways. -/
def addressable : LeafNames where
  address := "string | Addressable"
  boolean := "boolean"
  string := "string"
  bytes := "BytesLike"
  dynamicBytes := "BytesLike"
  integers := [⟨48, "number"⟩, ⟨256, "ethers.BigNumberish"⟩]

/-- The parentheses around a union, and around all that shows one. -/
theorem typeOf_reads_back_addressable :
    ∃ e, Translates ⟨⟨addressable, addressable, []⟩, "Struct", "StructOutput"⟩ .input true
        (.array (.tuple [⟨"to", .array (.leaf .address "address") none "address[]"⟩,
          ⟨"amount", .leaf (.uint 256) "uint256"⟩] none "tuple") none "tuple[]") e ∧
      ∀ e', Phrase .type (tokens
        "({ to: (string | Addressable)[], amount: ethers.BigNumberish })[]") e' ↔ e' = e := by
  have hname {n : String} (h : isDottedName n.toList = true) :
      ∃ alternatives, IsUnionText n alternatives := by
    refine ⟨[[n]], by simp [unionText], by simp, ?_⟩
    simpa using h
  refine typeOf_reads_back ⟨fun name hn => ?_, List.all_eq_true.1 (by decide +kernel)⟩
    (by decide +kernel) (by decide +kernel)
  have hcases : name = "string | Addressable" ∨ isDottedName name.toList = true := by
    revert name
    decide +kernel
  rcases hcases with rfl | h
  · exact ⟨[["string"], ["Addressable"]], by decide +kernel, by simp, by decide +kernel⟩
  · exact hname h

end AbiBindings
