import AbiBindings.Generation.Artifact
import AbiBindings.Proofs.Artifact.Path
import AbiBindings.Proofs.Checked
import AbiBindings.Proofs.Name.TypeName

/-!
# Places of declaration files

A `Place` is a directory of proper segments and the name of a type.  Every artifact that has a place
at all has one of this form.  The path of a place is read back as the place, and it is the path of
no index file.

    placeArtifact root path = .ok text → ∃ p : Place, text = p.path …   (exists_place)
    ModulePath.parse p.path = .ok p.modulePath                          (parse_path)
    p.path = q.path → p = q                                             (path_injective)
-/

namespace AbiBindings

open Text

/-! ## Stems -/

theorem mem_of_mem_fileStem {fileName : String} {c : Char} (h : c ∈ (fileStem fileName).toList) :
    c ∈ fileName.toList := by
  unfold fileStem at h
  split at h
  · exact h
  · exact h
  · rename_i stem _ hs
    rw [String.toList_ofList] at h
    unfold splitLast at hs
    split at hs
    · cases hs
    · rename_i b before hd
      cases hs
      have : c ∈ b :: before := List.mem_cons_of_mem _ (List.mem_reverse.1 h)
      rw [← hd] at this
      exact List.mem_reverse.1 ((List.dropWhile_suffix _).mem this)

theorem fileStem_append {name : String} (h : IsTypeName name.toList) (extension : String)
    (he : '.' ∉ extension.toList) : fileStem (name ++ "." ++ extension) = name := by
  have hl : (name ++ "." ++ extension).toList = name.toList ++ '.' :: extension.toList := by
    simp [String.toList_append]
  obtain ⟨c, r, hn, -⟩ := h.head
  unfold fileStem
  rw [hl, splitLast_append he, hn]
  show String.ofList (c :: r) = name
  rw [← hn, String.ofList_toList]

theorem slash_not_mem_of_typeName {raw name : String} (h : typeName raw = .ok name)
    (hr : '/' ∉ raw.toList) : '/' ∉ name.toList := by
  obtain ⟨l, hl, rfl⟩ := Option.map_eq_some_iff.1 (typeName_eq_ok_iff.1 h)
  rw [String.toList_ofList]
  intro hm
  rcases mem_typeNameChars? hl hm with hp | ⟨hraw, -⟩
  · exact hp.ne (by decide) rfl
  · exact hr hraw

/-! ## Places -/

/-- The place of a declaration file. -/
structure Place where
  directory : DirectoryPath
  name : String
  isSegment : ∀ s ∈ directory, IsSegment s
  isTypeName : IsTypeName name.toList
  noSlash : '/' ∉ name.toList

namespace Place

/-- The path of a place, below the output directory. -/
def path (p : Place) : String := declarationPath p.directory p.name

/-- What a path is read as. -/
def modulePath (p : Place) : ModulePath := ⟨p.directory, p.name ++ ".ts"⟩

theorem eq_of_eq {p q : Place} (hd : p.directory = q.directory) (hn : p.name = q.name) : p = q := by
  cases p
  cases q
  cases hd
  cases hn
  rfl

theorem fileName_isSegment (p : Place) : IsSegment (p.name ++ ".ts") := by
  obtain ⟨c, r, hn, -⟩ := p.isTypeName.head
  constructor
  · have hne (s : String) (hs : s.toList.length ≤ 3) : p.name ++ ".ts" ≠ s := by
      rintro rfl
      rw [String.toList_append, hn, List.length_append] at hs
      simp at hs
    have h0 := hne "" (by decide)
    have h1 := hne "." (by decide)
    have h2 := hne ".." (by decide)
    simp [isModuleSegment, h0, h1, h2]
  · exact noSlash_append p.noSlash (by decide)

theorem fileStem_fileName (p : Place) : fileStem (p.name ++ ".ts") = p.name := by
  have h := fileStem_append p.isTypeName "ts" (by decide)
  rwa [String.append_assoc] at h

theorem isSegment_of_mem (p : Place) {s : String} (h : s ∈ p.directory ++ [p.name ++ ".ts"]) :
    IsSegment s := by
  rcases List.mem_append.1 h with h | h
  · exact p.isSegment s h
  · rw [List.mem_singleton.1 h]
    exact p.fileName_isSegment

theorem pathSegments_path (p : Place) : pathSegments p.path = p.directory ++ [p.name ++ ".ts"] :=
  pathSegments_file fun _ hs => (p.isSegment_of_mem hs).noSlash

theorem parse_path (p : Place) : ModulePath.parse p.path = .ok p.modulePath := by
  have hall : (p.directory ++ [p.name ++ ".ts"]).all isModuleSegment = true :=
    List.all_eq_true.2 fun s hs => (p.isSegment_of_mem hs).names
  unfold ModulePath.parse
  rw [pathSegments_path]
  simp only [List.getLast?_append, List.getLast?_singleton, Option.some_or, hall, if_true,
    List.dropLast_concat]
  rfl

theorem noSlash_of_mem_directory (p : Place) {s : String} (h : s ∈ p.directory) :
    '/' ∉ s.toList := (p.isSegment s h).noSlash

theorem path_injective {p q : Place} (h : p.path = q.path) : p = q := by
  obtain ⟨hd, hn⟩ := (file_eq_file_iff (fun _ => p.noSlash_of_mem_directory)
    p.fileName_isSegment.noSlash (fun _ => q.noSlash_of_mem_directory)
    q.fileName_isSegment.noSlash).1 h
  exact eq_of_eq hd ((String.append_left_inj _).1 hn)

/-! ### Index files -/

theorem upperChar_i : upperChar 'i' = ['I'] := by
  decide +kernel

/-- No type is called like an index file: the small letter in front is not its own upper case. -/
theorem name_ne_index (p : Place) : p.name ≠ "index" := by
  intro h
  obtain ⟨c, r, hn, hu, -⟩ := p.isTypeName.head
  rw [h] at hn
  have hc : 'i' = c := (List.cons.inj hn).1
  rw [← hc, upperChar_i] at hu
  exact absurd hu (by decide)

theorem fileName_ne_index (p : Place) : p.name ++ ".ts" ≠ "index.ts" := by
  intro h
  apply p.name_ne_index
  rw [← p.fileStem_fileName, h]
  decide +kernel

theorem path_ne_index (p : Place) {d : DirectoryPath} (hd : ∀ s ∈ d, IsSegment s) :
    p.path ≠ d.file "index.ts" := by
  intro h
  exact p.fileName_ne_index ((file_eq_file_iff (fun _ => p.noSlash_of_mem_directory)
    p.fileName_isSegment.noSlash (fun s hs => (hd s hs).noSlash) (by decide)).1 h).2

end Place

/-! ## Artifacts -/

theorem slash_not_mem_of_contractNameOf {path name : String}
    (h : contractNameOf path = .ok name) : '/' ∉ name.toList := by
  unfold contractNameOf artifactStem? at h
  split at h
  · rename_i stem hs
    split at hs
    · rename_i s hlast
      cases hs
      have hs := isSegment_of_mem_pathParts (List.mem_of_getLast? hlast)
      exact slash_not_mem_of_typeName h fun hm => hs.noSlash (mem_of_mem_fileStem hm)
    · cases hs
  · cases h

theorem isTypeName_of_contractNameOf {path name : String} (h : contractNameOf path = .ok name) :
    IsTypeName name.toList := by
  unfold contractNameOf at h
  split at h
  · exact isTypeName_of_typeName h
  · cases h

theorem placeArtifact_eq_ok_iff {root : List PathPart} {path text : String} :
    placeArtifact root path = .ok text ↔
      ∃ name d, contractNameOf path = .ok name ∧ outputDirectoryOf root path = .ok d ∧
        declarationPath d name = text := by
  unfold placeArtifact
  simp only [bind_eq_ok_iff, pure, Except.pure, Except.ok.injEq]
  constructor
  · rintro ⟨name, hn, d, hd, ht⟩
    exact ⟨name, d, hn, hd, ht⟩
  · rintro ⟨name, d, hn, hd, ht⟩
    exact ⟨name, hn, d, hd, ht⟩

theorem exists_place {root : List PathPart} {path text : String}
    (h : placeArtifact root path = .ok text) :
    ∃ p : Place, text = p.path ∧ contractNameOf path = .ok p.name := by
  obtain ⟨name, d, hn, hd, rfl⟩ := placeArtifact_eq_ok_iff.1 h
  exact ⟨⟨d, name, fun s hs => isSegment_of_outputDirectoryOf hd hs,
    isTypeName_of_contractNameOf hn, slash_not_mem_of_contractNameOf hn⟩, rfl, hn⟩

end AbiBindings
