import AbiBindings.Proofs.Checked
import AbiBindings.Struct.Collection
import AbiBindings.Struct.Namespaces

/-!
# What a collection of structs holds

A visit meets the structs of a type in the order in which they are written.  It keeps the first one
of each name that is not known yet, and goes on up to the first one whose shape is not that of its
name, which it reports.

    visit t known = registerAll (structsIn t) known                 (visit_eq_registerAll)
    what registerAll does                                           (filters_registerAll)
    ofTypes ts = .ok ks ↔ ks are the first of each name, and every
      name has one shape                                            (ofTypes_eq_ok_iff)
-/

namespace AbiBindings

/-! ## Structs in a type -/

namespace EvmType

mutual

/-- The structs in a type at any depth, outer ones first. -/
def structsIn : EvmType → List StructType
  | .leaf _ _ => []
  | .array element _ _ => structsIn element
  | .tuple components none _ => structsInAll components
  | .tuple components (some name) spelling =>
    ⟨name, components, spelling⟩ :: structsInAll components

def structsInAll : List (Named EvmType) → List StructType
  | [] => []
  | ⟨_, t⟩ :: r => structsIn t ++ structsInAll r

end

theorem structsInAll_eq_flatMap (cs : List (Named EvmType)) :
    structsInAll cs = cs.flatMap fun c => structsIn c.type := by
  induction cs with
  | nil => rfl
  | cons c r ih => rw [structsInAll, ih, List.flatMap_cons]

end EvmType

/-! ## The first of each name -/

section
variable {seen : List StructName} {l : List StructType}

/-- It only matters which names were seen. -/
theorem firstOfEachName_congr {seen' : List StructName} (h : ∀ n, n ∈ seen ↔ n ∈ seen') :
    firstOfEachName seen l = firstOfEachName seen' l := by
  induction l generalizing seen seen' with
  | nil => rfl
  | cons s rest ih =>
    unfold firstOfEachName
    by_cases hs : s.name ∈ seen
    · rw [if_pos hs, if_pos ((h _).1 hs), ih h]
    · rw [if_neg hs, if_neg (mt (h _).2 hs)]
      refine congrArg (s :: ·) (ih fun n => ?_)
      rw [List.mem_cons, List.mem_cons, h]

theorem of_mem_firstOfEachName {k : StructType} (h : k ∈ firstOfEachName seen l) :
    k ∈ l ∧ k.name ∉ seen := by
  induction l generalizing seen with
  | nil => cases h
  | cons s rest ih =>
    unfold firstOfEachName at h
    split at h
    · exact ⟨List.mem_cons_of_mem _ (ih h).1, (ih h).2⟩
    · rename_i hs
      rcases List.mem_cons.1 h with rfl | h
      · exact ⟨List.mem_cons_self, hs⟩
      · obtain ⟨hl, hn⟩ := ih h
        exact ⟨List.mem_cons_of_mem _ hl, fun hk => hn (List.mem_cons_of_mem _ hk)⟩

theorem nodup_firstOfEachName : ((firstOfEachName seen l).map (·.name)).Nodup := by
  induction l generalizing seen with
  | nil => exact List.nodup_nil
  | cons s rest ih =>
    unfold firstOfEachName
    split
    · exact ih
    · rw [List.map_cons, List.nodup_cons]
      refine ⟨fun h => ?_, ih⟩
      obtain ⟨k, hk, hn⟩ := List.mem_map.1 h
      exact (of_mem_firstOfEachName hk).2 (hn ▸ List.mem_cons_self)

/-- A list without a repeated name keeps all its structs. -/
theorem firstOfEachName_of_nodup (h : (l.map (·.name)).Nodup)
    (hs : ∀ s ∈ l, s.name ∉ seen) : firstOfEachName seen l = l := by
  induction l generalizing seen with
  | nil => rfl
  | cons s rest ih =>
    rw [List.map_cons, List.nodup_cons] at h
    rw [firstOfEachName, if_neg (hs s List.mem_cons_self), ih h.2]
    intro r hr hmem
    rcases List.mem_cons.1 hmem with he | hmem
    · exact h.1 (he ▸ List.mem_map_of_mem hr)
    · exact hs r (List.mem_cons_of_mem _ hr) hmem

end

namespace StructCollection

open EvmType

/-! ## Names -/

/-- The struct that a name stands for: the first one of the name. -/
def firstNamed? (known : List StructType) (n : StructName) : Option StructType :=
  known.find? fun k => k.name == n

/-- The name of a struct stands for one of its shape. -/
def Knows (known : List StructType) (s : StructType) : Prop :=
  ∃ k, firstNamed? known s.name = some k ∧ k.shape = s.shape

/-- Structs of one name have one shape. -/
def OneShapePerName (l : List StructType) : Prop :=
  ∀ a ∈ l, ∀ b ∈ l, a.name = b.name → a.shape = b.shape

section
variable {known l : List StructType} {n : StructName} {k : StructType}

theorem mem_of_firstNamed? (h : firstNamed? known n = some k) : k ∈ known ∧ k.name = n := by
  refine ⟨List.mem_of_find?_eq_some h, ?_⟩
  have := List.find?_some h
  exact beq_iff_eq.1 this

theorem firstNamed?_eq_none_iff : firstNamed? known n = none ↔ n ∉ known.map (·.name) := by
  simp [firstNamed?]

theorem exists_firstNamed? (h : n ∈ known.map (·.name)) : ∃ k, firstNamed? known n = some k :=
  Option.ne_none_iff_exists'.1 (mt firstNamed?_eq_none_iff.1 (not_not_intro h))

/-- Where no name is repeated, every struct is what its name stands for. -/
theorem firstNamed?_of_nodup (h : (known.map (·.name)).Nodup) (hk : k ∈ known) :
    firstNamed? known k.name = some k := by
  induction known with
  | nil => cases hk
  | cons s rest ih =>
    rw [List.map_cons, List.nodup_cons] at h
    rw [firstNamed?, List.find?_cons]
    rcases List.mem_cons.1 hk with rfl | hk
    · rw [beq_self_eq_true]
    · have hne : s.name ≠ k.name := fun he => h.1 (he ▸ List.mem_map_of_mem hk)
      rw [beq_eq_false_iff_ne.2 hne]
      exact ih h.2 hk

/-- A name stands for the same struct when only the first of each name is kept. -/
theorem firstNamed?_firstOfEachName {seen : List StructName} (hn : n ∉ seen) :
    firstNamed? (firstOfEachName seen l) n = firstNamed? l n := by
  induction l generalizing seen with
  | nil => rfl
  | cons s rest ih =>
    unfold firstOfEachName
    by_cases hs : s.name = n
    · rw [if_neg (hs ▸ hn), firstNamed?, firstNamed?, List.find?_cons, List.find?_cons, hs,
        beq_self_eq_true]
    · have hrest : firstNamed? (s :: rest) n = firstNamed? rest n := by
        rw [firstNamed?, List.find?_cons, beq_eq_false_iff_ne.2 hs]
        rfl
      rw [hrest]
      split
      · exact ih hn
      · rw [firstNamed?, List.find?_cons, beq_eq_false_iff_ne.2 hs]
        refine ih ?_
        rw [List.mem_cons, not_or]
        exact ⟨Ne.symm hs, hn⟩

theorem mem_names_firstOfEachName {seen : List StructName} (hn : n ∉ seen) :
    n ∈ (firstOfEachName seen l).map (·.name) ↔ n ∈ l.map (·.name) := by
  rw [← not_iff_not, ← firstNamed?_eq_none_iff, firstNamed?_firstOfEachName hn,
    firstNamed?_eq_none_iff]

/-- What a name stands for stays when more structs are added. -/
theorem firstNamed?_of_extends {after : List StructType} (h : firstNamed? known n = some k)
    (hp : known <+: after) : firstNamed? after n = some k := by
  obtain ⟨more, rfl⟩ := hp
  rw [firstNamed?] at h ⊢
  rw [List.find?_append, h]
  rfl

end

theorem Knows.mono {known after : List StructType} {s : StructType} (h : Knows known s)
    (hp : known <+: after) : Knows after s := by
  obtain ⟨k, hk, hs⟩ := h
  exact ⟨k, firstNamed?_of_extends hk hp, hs⟩

theorem oneShapePerName_iff {l : List StructType} :
    OneShapePerName l ↔ ∀ s ∈ l, Knows (firstOfEachName [] l) s := by
  constructor
  · intro h s hs
    obtain ⟨k, hk⟩ := exists_firstNamed? (List.mem_map_of_mem (f := (·.name)) hs)
    obtain ⟨hmem, hn⟩ := mem_of_firstNamed? hk
    exact ⟨k, by rwa [firstNamed?_firstOfEachName List.not_mem_nil], h k hmem s hs hn⟩
  · intro h a ha b hb hn
    obtain ⟨k, hk, hka⟩ := h a ha
    obtain ⟨k', hk', hkb⟩ := h b hb
    rw [← hn, hk] at hk'
    rw [← hka, ← hkb, Option.some.inj hk']

/-! ## One after the other -/

/-- Meets structs one after the other, up to the first clash. -/
def registerAll : List StructType → List StructType → Visit
  | [], known => (known, none)
  | s :: rest, known => andThen (register s known) (registerAll rest)

/-- The structs that are met in this way, the one that clashes included. -/
def metOf : List StructType → List StructType → List StructType
  | [], _ => []
  | s :: rest, known =>
    s :: match register s known with
      | (k, none) => metOf rest k
      | (_, some _) => []

theorem andThen_assoc (v : Visit) (f g : List StructType → Visit) :
    andThen (andThen v f) g = andThen v fun k => andThen (f k) g := by
  obtain ⟨k, clash⟩ := v
  cases clash <;> rfl

theorem registerAll_append (a b known : List StructType) :
    registerAll (a ++ b) known = andThen (registerAll a known) (registerAll b) := by
  induction a generalizing known with
  | nil => rfl
  | cons s rest ih =>
    rw [List.cons_append, registerAll, registerAll, andThen_assoc]
    exact congrArg _ (funext ih)

mutual

/-- A visit is about the structs in the type, whatever stands between them. -/
theorem visit_eq_registerAll : (t : EvmType) → (known : List StructType) →
    visit t known = registerAll (structsIn t) known
  | .leaf _ _, _ => rfl
  | .array element _ _, known => visit_eq_registerAll element known
  | .tuple cs none _, known => visitComponents_eq_registerAll cs known
  | .tuple cs (some n) spelling, known => by
    rw [visit, visitWith, structsIn, registerAll]
    exact congrArg _ (funext (visitComponents_eq_registerAll cs))

theorem visitComponents_eq_registerAll : (cs : List (Named EvmType)) →
    (known : List StructType) →
      visitComponentsWith register cs known = registerAll (structsInAll cs) known
  | [], _ => rfl
  | ⟨_, t⟩ :: cs, known => by
    rw [visitComponentsWith, structsInAll, registerAll_append, ← visit_eq_registerAll t]
    exact congrArg _ (funext (visitComponents_eq_registerAll cs))

end

theorem visitAll_eq_registerAll (types : List EvmType) (known : List StructType) :
    visitAll types known = registerAll (types.flatMap structsIn) known := by
  unfold visitAll
  induction types generalizing known with
  | nil => rfl
  | cons t rest ih =>
    rw [visitAllWith, List.flatMap_cons, registerAll_append, ← visit_eq_registerAll]
    exact congrArg _ (funext ih)

/-! ## What is kept -/

/-- What is known after structs were met without a clash: the first of each new name is added. -/
def withFirsts (known met : List StructType) : List StructType :=
  known ++ firstOfEachName (known.map (·.name)) met

/-- What meeting structs in this order does while others are known: which of them are met, and how
it ends. -/
inductive Filters (known nodes : List StructType) : List StructType → Visit → Prop where
  /-- All are met, and each has the shape that its name stands for. -/
  | all (h : ∀ s ∈ nodes, Knows (withFirsts known nodes) s) :
    Filters known nodes nodes (withFirsts known nodes, none)
  /-- After some that have, one is met whose name stands for another shape; it adds nothing, and
  nothing behind it is met. -/
  | upTo {before after : List StructType} {s k : StructType} (hn : nodes = before ++ s :: after)
    (h : ∀ b ∈ before, Knows (withFirsts known before) b)
    (hk : firstNamed? (withFirsts known before) s.name = some k) (hs : k.shape ≠ s.shape) :
    Filters known nodes (before ++ [s])
      (withFirsts known before, some ⟨s.name, k.shape, s.shape⟩)

section
variable {known : List StructType} {s : StructType}

@[simp] theorem withFirsts_nil (known : List StructType) : withFirsts known [] = known :=
  List.append_nil known

theorem withFirsts_empty (met : List StructType) : withFirsts [] met = firstOfEachName [] met :=
  rfl

theorem withFirsts_extends (known met : List StructType) : known <+: withFirsts known met :=
  List.prefix_append _ _

theorem withFirsts_cons_of_new (hs : s.name ∉ known.map (·.name)) (met : List StructType) :
    withFirsts known (s :: met) = withFirsts (known ++ [s]) met := by
  rw [withFirsts, withFirsts, firstOfEachName, if_neg hs, List.append_assoc]
  refine congrArg (known ++ s :: ·) (firstOfEachName_congr fun n => ?_)
  simp [or_comm]

theorem withFirsts_cons_of_known (hs : s.name ∈ known.map (·.name)) (met : List StructType) :
    withFirsts known (s :: met) = withFirsts known met := by
  rw [withFirsts, withFirsts, firstOfEachName, if_pos hs]

theorem withFirsts_append (known a b : List StructType) :
    withFirsts known (a ++ b) = withFirsts (withFirsts known a) b := by
  induction a generalizing known with
  | nil => rw [List.nil_append, withFirsts_nil]
  | cons s rest ih =>
    rw [List.cons_append]
    by_cases hs : s.name ∈ known.map (·.name)
    · rw [withFirsts_cons_of_known hs, withFirsts_cons_of_known hs, ih]
    · rw [withFirsts_cons_of_new hs, withFirsts_cons_of_new hs, ih]

/-! ### Steps -/

theorem register_of_new (h : firstNamed? known s.name = none) :
    register s known = (known ++ [s], none) := by
  rw [firstNamed?] at h
  rw [register, h]

theorem register_of_known {k : StructType} (h : firstNamed? known s.name = some k) :
    register s known =
      (known, if k.shape = s.shape then none else some ⟨s.name, k.shape, s.shape⟩) := by
  rw [firstNamed?] at h
  rw [register, h]
  rfl

/-- A struct that goes well stands in front of what follows. -/
theorem Filters.cons {after nodes met : List StructType} {v : Visit}
    (hw : ∀ l, withFirsts known (s :: l) = withFirsts after l) (hs : Knows after s)
    (h : Filters after nodes met v) : Filters known (s :: nodes) (s :: met) v := by
  have hknows (l : List StructType) (hl : ∀ b ∈ l, Knows (withFirsts after l) b) :
      ∀ b ∈ s :: l, Knows (withFirsts known (s :: l)) b := by
    rw [hw]
    intro b hb
    rcases List.mem_cons.1 hb with rfl | hb
    · exact hs.mono (withFirsts_extends _ _)
    · exact hl b hb
  cases h with
  | all h =>
    rw [← hw]
    exact .all (hknows _ h)
  | upTo hn h hk hne =>
    rw [← hw] at hk ⊢
    exact .upTo (congrArg (s :: ·) hn) (hknows _ h) hk hne

theorem filters_registerAll (nodes known : List StructType) :
    Filters known nodes (metOf nodes known) (registerAll nodes known) := by
  induction nodes generalizing known with
  | nil =>
    have h : Filters known [] [] (withFirsts known [], none) := .all fun _ hs => by cases hs
    rwa [withFirsts_nil] at h
  | cons s rest ih =>
    rw [registerAll, metOf]
    cases hk : firstNamed? known s.name with
    | none =>
      rw [register_of_new hk]
      have hs : s.name ∉ known.map (·.name) := firstNamed?_eq_none_iff.1 hk
      refine Filters.cons (withFirsts_cons_of_new hs) ⟨s, ?_, rfl⟩ (ih (known ++ [s]))
      rw [firstNamed?] at hk ⊢
      rw [List.find?_append, hk]
      simp
    | some k =>
      rw [register_of_known hk]
      by_cases hshape : k.shape = s.shape
      · rw [if_pos hshape]
        have hs : s.name ∈ known.map (·.name) := by
          obtain ⟨hmem, hn⟩ := mem_of_firstNamed? hk
          exact hn ▸ List.mem_map_of_mem hmem
        exact Filters.cons (withFirsts_cons_of_known hs) ⟨k, hk, hshape⟩ (ih known)
      · rw [if_neg hshape]
        have h : Filters known (s :: rest) ([] ++ [s])
            (withFirsts known [], some ⟨s.name, k.shape, s.shape⟩) :=
          .upTo rfl (fun _ hb => by cases hb) (by rwa [withFirsts_nil]) hshape
        rwa [withFirsts_nil] at h

end

/-! ## Collections -/

section
variable {types : List EvmType} {structs : List StructType}

theorem ofTypes_eq (types : List EvmType) :
    ofTypes types = match visitAll types [] with
      | (known, none) => .ok known
      | (_, some clash) => .error clash := by
  rw [ofTypes, show [] = (Indexed.empty : Collected).items from rfl, ← listed_visitAll]
  obtain ⟨known, clash⟩ := Collected.visitAll Indexed.empty types
  cases clash <;> rfl

theorem ofTypes_eq_ok_iff :
    ofTypes types = .ok structs ↔
      OneShapePerName (types.flatMap structsIn) ∧
        structs = firstOfEachName [] (types.flatMap structsIn) := by
  rw [ofTypes_eq, visitAll_eq_registerAll, oneShapePerName_iff]
  generalize types.flatMap structsIn = nodes
  have hf := filters_registerAll nodes []
  generalize metOf nodes [] = met at hf
  generalize registerAll nodes [] = v at hf ⊢
  cases hf with
  | all h =>
    rw [← withFirsts_empty]
    constructor
    · intro he
      exact ⟨h, (Except.ok.inj he).symm⟩
    · rintro ⟨-, rfl⟩
      rfl
  | @upTo before after s k hn h hk hs =>
    constructor
    · intro he
      cases he
    · -- The first clash is with a struct in front of it.
      rintro ⟨hall, -⟩
      obtain ⟨k', hk', hshape⟩ := hall s (hn ▸ List.mem_append_right _ List.mem_cons_self)
      have hp : withFirsts [] before <+: firstOfEachName [] nodes := by
        rw [← withFirsts_empty, hn, withFirsts_append]
        exact withFirsts_extends _ _
      cases hk'.symm.trans (firstNamed?_of_extends hk hp)
      exact absurd hshape hs

theorem knows_of_ofTypes (h : ofTypes types = .ok structs) {t : EvmType} (ht : t ∈ types)
    {s : StructType} (hs : s ∈ structsIn t) : Knows structs s := by
  obtain ⟨hone, rfl⟩ := ofTypes_eq_ok_iff.1 h
  exact oneShapePerName_iff.1 hone s (List.mem_flatMap.2 ⟨t, ht, hs⟩)

theorem exists_type_of_mem (h : ofTypes types = .ok structs) {k : StructType}
    (hk : k ∈ structs) : ∃ t ∈ types, k ∈ structsIn t := by
  obtain ⟨-, rfl⟩ := ofTypes_eq_ok_iff.1 h
  exact List.mem_flatMap.1 (of_mem_firstOfEachName hk).1

end

end StructCollection

end AbiBindings
