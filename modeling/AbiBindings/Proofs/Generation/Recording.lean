import AbiBindings.Generation.Run
import AbiBindings.Proofs.Generation.Draft
import Mathlib.Data.List.Basic
import Mathlib.Logic.Function.Basic

/-!
# Runs that are recorded

Where every artifact is read from given contents and every text is kept, a run is a function: it
does nothing, fails with the draft, or stores the files of the draft.

    isNeeded → files = .ok fs → the output is that of storing fs        (record_generate_ok)
    isNeeded → files = .error e → nothing is written                    (record_generate_error)
    not isNeeded → the output stays                                     (record_generate_idle)
-/

namespace AbiBindings

/-! ## Recording -/

/-- Texts by path. -/
abbrev Output := String → Option String

/-- Before the first run. -/
def Output.empty : Output := fun _ => none

/-- Actions that read artifacts from given contents and keep what they write. -/
abbrev Recording := ReaderT Contents (StateM Output)

/-- A path is that of a directory or lies inside of it. -/
def isWithin (directory path : String) : Bool :=
  path == directory || (directory ++ "/").toList.isPrefixOf path.toList

instance : FileAccess Recording where
  readText path := return (← read) path
  writeText path text := do
    modify fun out => Function.update out path (some text)
    return .ok ()
  makeDirectories _ := return .ok ()
  isThere path := return .ok ((← get) path).isSome
  removeDirectory directory := do
    modify fun out path => if isWithin directory path then none else out path
    return .ok ()

/-- What an action gives, and the output that it leaves. -/
def record {α : Type} (a : Recording α) (read : Contents) (out : Output) : α × Output :=
  (a.run read).run out

/-- The output with some files stored below a directory, the first one first. -/
def store (directory : String) : List GeneratedFile → Output → Output
  | [], out => out
  | f :: rest, out =>
    store directory rest (Function.update out (pathBelow directory f.path) (some f.contents))

/-! ## Actions -/

variable {α β : Type} {read : Contents} {out : Output}

@[simp] theorem record_pure (a : α) : record (pure a) read out = (a, out) := rfl

@[simp] theorem record_bind (a : Recording α) (f : α → Recording β) :
    record (a >>= f) read out = record (f (record a read out).1) read (record a read out).2 := rfl

theorem record_writeFile (directory : String) (f : GeneratedFile) :
    record (writeFile directory f) read out =
      (.ok (), Function.update out (pathBelow directory f.path) (some f.contents)) := rfl

theorem record_writeFiles (directory : String) (files : List GeneratedFile) :
    record (writeFiles directory files) read out =
      (⟨files.map (·.path), none⟩, store directory files out) := by
  induction files generalizing out with
  | nil => rfl
  | cons f rest ih =>
    rw [writeFiles, record_bind, record_writeFile]
    dsimp only
    rw [record_bind, ih]
    rfl

theorem record_readTexts (paths : List String) :
    record (paths.mapM fun path => return (path, ← FileAccess.readText path) :
        Recording (List (String × Except FileFault String))) read out =
      (paths.map fun path => (path, read path), out) := by
  induction paths generalizing out with
  | nil => rfl
  | cons path rest ih =>
    rw [List.mapM_cons, record_bind]
    show record ((rest.mapM _) >>= _) read out = _
    rw [record_bind, ih]
    rfl

/-- A snapshot holds the contents of the paths that it is taken of. -/
theorem exists_record_snapshot (read : Contents) (out : Output) (paths : List String) :
    ∃ taken, record (snapshot paths) read out = (taken, out) ∧
      ∀ path ∈ paths, taken path = read path := by
  refine ⟨_, by rw [snapshot, record_bind, record_readTexts]; rfl, ?_⟩
  intro path h
  dsimp only
  rw [List.lookup_graph read h]
  rfl

/-! ## Runs -/

section
variable {c : Config} {t : Target} {r : Request} {files : List GeneratedFile} {e : Diagnostic}

theorem record_generate_idle (read : Contents) (out : Output) (hn : r.isNeeded c = false) :
    (record (generate c t r) read out).1.result = .ok ⟨0, []⟩ ∧
      (record (generate c t r) read out).1.written = [] ∧
      (record (generate c t r) read out).2 = out := by
  rw [generate, hn]
  exact ⟨rfl, rfl, rfl⟩

/-- A run that is needed fails with its draft, or stores the files of its draft. -/
theorem exists_record_generate (read : Contents) (out : Output) (hn : r.isNeeded c = true) :
    ∃ log, record (generate c t r) read out =
      match (Draft.make c t r read).files with
      | .error e => (⟨.error e, [], log⟩, out)
      | .ok files => (⟨.ok ⟨files.length, (Draft.make c t r read).failures⟩,
          files.map (·.path), log⟩, store c.outputDirectory files out) := by
  obtain ⟨taken, hs, ht⟩ := exists_record_snapshot read out (r.attempted c t)
  have hd : Draft.make c t r taken = Draft.make c t r read := Draft.make_congr ht
  rw [generate, hn, Bool.not_true, if_neg Bool.false_ne_true, record_bind]
  rw [Request.attempted] at hs
  rw [hs]
  dsimp only
  rw [hd]
  cases (Draft.make c t r read).files with
  | error e => exact ⟨_, rfl⟩
  | ok files =>
    dsimp only
    rw [record_bind, record_writeFiles]
    exact ⟨_, rfl⟩

theorem record_generate_ok (out : Output) (hn : r.isNeeded c = true)
    (h : (Draft.make c t r read).files = .ok files) :
    (record (generate c t r) read out).1.result =
        .ok ⟨files.length, (Draft.make c t r read).failures⟩ ∧
      (record (generate c t r) read out).1.written = files.map (·.path) ∧
      (record (generate c t r) read out).2 = store c.outputDirectory files out := by
  obtain ⟨log, hg⟩ := exists_record_generate (t := t) read out hn
  rw [hg, h]
  exact ⟨rfl, rfl, rfl⟩

theorem record_generate_error (out : Output) (hn : r.isNeeded c = true)
    (h : (Draft.make c t r read).files = .error e) :
    (record (generate c t r) read out).1.result = .error e ∧
      (record (generate c t r) read out).1.written = [] ∧
      (record (generate c t r) read out).2 = out := by
  obtain ⟨log, hg⟩ := exists_record_generate (t := t) read out hn
  rw [hg, h]
  exact ⟨rfl, rfl, rfl⟩

/-- A run that is needed and ends well has files to store. -/
theorem exists_files_of_result {o : Outcome} (hn : r.isNeeded c = true)
    (h : (record (generate c t r) read out).1.result = .ok o) :
    ∃ files, (Draft.make c t r read).files = .ok files := by
  cases hf : (Draft.make c t r read).files with
  | ok files => exact ⟨files, rfl⟩
  | error e =>
    rw [(record_generate_error out hn hf).1] at h
    cases h

end

/-! ## Stored files -/

theorem pathBelow_injective {directory p q : String}
    (h : pathBelow directory p = pathBelow directory q) : p = q := by
  unfold pathBelow at h
  split at h
  · exact (String.append_right_inj _).1 h
  · rw [String.append_assoc, String.append_assoc] at h
    exact (String.append_right_inj _).1 ((String.append_right_inj _).1 h)

variable {directory : String} {files : List GeneratedFile}

theorem store_of_not_mem {path : String}
    (h : ∀ f ∈ files, path ≠ pathBelow directory f.path) :
    store directory files out path = out path := by
  induction files generalizing out with
  | nil => rfl
  | cons f rest ih =>
    rw [store, ih fun g hg => h g (List.mem_cons_of_mem _ hg),
      Function.update_of_ne (h f List.mem_cons_self)]

theorem isSome_store_iff {path : String} :
    (store directory files out path).isSome = true ↔
      (out path).isSome = true ∨ ∃ f ∈ files, path = pathBelow directory f.path := by
  induction files generalizing out with
  | nil => simp [store]
  | cons f rest ih =>
    rw [store, ih]
    by_cases hp : path = pathBelow directory f.path
    · rw [hp, Function.update_self]
      simp
    · rw [Function.update_of_ne hp]
      simp [hp]

/-- Files that agree at each path are all there in the end, in whichever order they are stored. -/
theorem store_of_mem (h : OneFilePerPath files) {f : GeneratedFile} (hf : f ∈ files) :
    store directory files out (pathBelow directory f.path) = some f.contents := by
  induction files generalizing out with
  | nil => cases hf
  | cons g rest ih =>
    have hrest : OneFilePerPath rest := h.subset fun a ha => List.mem_cons_of_mem _ ha
    by_cases hm : f ∈ rest
    · exact ih hrest hm
    · have hfg : f = g := (List.mem_cons.1 hf).resolve_right hm
      have hn : ∀ a ∈ rest, pathBelow directory f.path ≠ pathBelow directory a.path := by
        intro a ha he
        rw [h f hf a (List.mem_cons_of_mem _ ha) (pathBelow_injective he)] at hm
        exact hm ha
      rw [store, store_of_not_mem hn, hfg, Function.update_self]

/-- Storing only some files is enough if the others are there already. -/
theorem store_eq_of_rest {part : List GeneratedFile} (h : OneFilePerPath files)
    (hs : ∀ f ∈ part, f ∈ files)
    (hr : ∀ f ∈ files, f ∈ part ∨ out (pathBelow directory f.path) = some f.contents) :
    store directory part out = store directory files out := by
  have hpart : OneFilePerPath part := h.subset hs
  funext path
  by_cases hm : ∃ f ∈ files, path = pathBelow directory f.path
  · obtain ⟨f, hf, rfl⟩ := hm
    rw [store_of_mem h hf]
    by_cases hp : ∃ g ∈ part, pathBelow directory f.path = pathBelow directory g.path
    · obtain ⟨g, hg, he⟩ := hp
      rw [he, store_of_mem hpart hg, h f hf g (hs g hg) (pathBelow_injective he)]
    · rcases hr f hf with hfp | ho
      · exact absurd ⟨f, hfp, rfl⟩ hp
      · rw [store_of_not_mem fun g hg he => hp ⟨g, hg, he⟩, ho]
  · rw [store_of_not_mem fun f hf he => hm ⟨f, hs f hf, he⟩,
      store_of_not_mem fun f hf he => hm ⟨f, hf, he⟩]

end AbiBindings
