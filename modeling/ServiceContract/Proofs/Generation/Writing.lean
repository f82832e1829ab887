import Mathlib.Data.List.TakeWhile
import ServiceContract.Proofs.Generation.Placement

/-!
# Writing a run

A run is written to the folder that its path leads to. If one of the artifacts has no place, those
before it have been written: a run that fails leaves the folder as it was just if those were there
already.
-/

namespace ServiceContract

variable {f root : Folder} {here : List String} {run : Nat} {as : List Artifact}

namespace Folder

/-! ## Folders with artifacts -/

theorem withArtifacts_append (f : Folder) (as bs : List Artifact) :
    f.withArtifacts (as ++ bs) = (f.withArtifacts as).withArtifacts bs := List.foldl_append

theorem get?_withArtifacts_of_notMem {name : String} (h : name ∉ as.map (·.path)) :
    (f.withArtifacts as).get? name = f.get? name := by
  induction as generalizing f with
  | nil => rfl
  | cons a rest ih =>
      rw [List.map_cons, List.mem_cons, not_or] at h
      exact (ih h.2).trans (get?_put_of_ne _ _ h.1)

theorem get?_withArtifacts {a : Artifact} (hnodup : (as.map (·.path)).Nodup) (ha : a ∈ as) :
    (f.withArtifacts as).get? a.path = some (.file a.content) := by
  induction as generalizing f with
  | nil => cases ha
  | cons b rest ih =>
      obtain ⟨hb, hrest⟩ := List.nodup_cons.mp hnodup
      rcases List.mem_cons.mp ha with rfl | ha
      · exact (get?_withArtifacts_of_notMem hb).trans (get?_put_self _ _ _)
      · exact ih hrest ha

theorem mem_names_withArtifacts {name : String} :
    name ∈ (f.withArtifacts as).names ↔ name ∈ as.map (·.path) ∨ name ∈ f.names := by
  induction as generalizing f with
  | nil => simp [withArtifacts]
  | cons a rest ih =>
      have hrest : name ∈ (f.withArtifacts (a :: rest)).names ↔
          name ∈ rest.map (·.path) ∨ name ∈ (f.put a.path (.file a.content)).names := ih
      rw [hrest, mem_names_put, List.map_cons, List.mem_cons, or_left_comm, or_assoc]

theorem IsDirectory.withArtifacts (hf : f.IsDirectory)
    (has : ∀ a ∈ as, Folder.fits a.path) : (f.withArtifacts as).IsDirectory := by
  induction as generalizing f with
  | nil => exact hf
  | cons a rest ih =>
      obtain ⟨ha, hrest⟩ := List.forall_mem_cons.mp has
      exact ih (hf.put ha _) hrest

/-- Only files come with artifacts, and only links give way to them. -/
theorem keeps_withArtifacts (hplace : ∀ a ∈ as, a.hasPlace f run)
    (hlinks : ∀ a ∈ as, ∀ target, f.get? a.path ≠ some (.link target)) :
    f.Keeps (f.withArtifacts as) := by
  refine keeps_of_get? ?_
  intro name e hget hfile
  have hname : name ∉ as.map (·.path) := by
    intro hmem
    obtain ⟨a, ha, rfl⟩ := List.mem_map.mp hmem
    cases e with
    | file content => exact hfile content rfl
    | link target => exact hlinks a ha target hget
    | folder inner => simpa [Artifact.hasPlace, hget] using hplace a ha
  rw [get?_withArtifacts_of_notMem hname, hget]

theorem withArtifacts_eq_self_iff (hnodup : (as.map (·.path)).Nodup) :
    f.withArtifacts as = f ↔ ∀ a ∈ as, f.get? a.path = some (.file a.content) := by
  constructor
  · intro h a ha
    rw [← h, get?_withArtifacts hnodup ha]
  · intro h
    induction as with
    | nil => rfl
    | cons a rest ih =>
        obtain ⟨ha, hrest⟩ := List.forall_mem_cons.mp h
        rw [withArtifacts, List.foldl_cons, put_of_get? ha]
        exact ih (List.nodup_cons.mp hnodup).2 hrest

theorem modify_eq_self_iff {f' : Folder} (h : root.at? here = some (.folder f)) :
    root.modify (fun _ => f') here = root ↔ f' = f := by
  constructor
  · intro hroot
    have hat := at?_modify (fun _ => f') h
    rw [hroot, h] at hat
    cases hat
    rfl
  · rintro rfl
    exact modify_self h

end Folder

namespace Specification

variable {s : Specification} {c : Configuration} {baseName folder : String}

/-- Whether a folder holds nothing under the temporary names of a run. -/
def IsClear (s : Specification) (c : Configuration) (baseName : String) (f : Folder) (run : Nat) :
    Prop :=
  ∀ g, s.generate c baseName = .ok g → ∀ a ∈ g.artifacts, f.get? (temporaryName run a.path) = none

theorem isClear_of_generate {g : Generation} (hg : s.generate c baseName = .ok g)
    (h : ∀ a ∈ g.artifacts, (f.get? (temporaryName run a.path)).isNone) :
    s.IsClear c baseName f run := by
  intro g' hg' a ha
  obtain rfl := Except.ok.inj (hg.symm.trans hg')
  exact Option.isNone_iff_eq_none.mp (h a ha)

theorem IsClear.isReady (h : s.IsClear c baseName f run) {g : Generation}
    (hg : s.generate c baseName = .ok g) : ∀ a ∈ g.artifacts, a.IsReady f run :=
  fun a ha => ⟨isFileName_of_mem_artifacts hg ha, exists_path_eq hg ha, h g hg a ha⟩

theorem writeTo_of_error {e : GenerationError} (hg : s.generate c baseName = .error e) :
    (s.writeTo Folder.storage c baseName folder run).run root = pure (.error e, root) := by
  simp only [writeTo, hg, StateT.run_pure]

/-- A run that is built takes the steps of placing its artifacts in the folder. -/
theorem writeTo_run {g : Generation} (hopen : root.openAt folder = .ok (here, f))
    (hg : s.generate c baseName = .ok g) :
    (s.writeTo Folder.storage c baseName folder run).run root =
      (placeAll (Folder.performAt here) run g.artifacts >>= fun r =>
        pure (r.map fun () => g)).run root := by
  let location : Folder.storage.Location := here
  have hmake : (Folder.storage.makeFolder folder).run root = pure (.ok location, root) := by
    simp only [Folder.storage, StateT.run_bind, StateT.run_get, pure_bind,
      Folder.makeAll_of_openAt hopen, StateT.run_set, StateT.run_pure, hopen]
    rfl
  have hname : folder ≠ "" := (Folder.openAt_eq_ok.mp hopen).1
  simp only [writeTo, hg, writeAll, if_neg hname, StateT.run_bind, hmake, pure_bind,
    StateT.run_pure]
  rfl

/-- A run writes its artifacts up to the first that has no place. -/
theorem writeTo_of_ok {g : Generation} (hopen : root.openAt folder = .ok (here, f))
    (hg : s.generate c baseName = .ok g) (hclear : s.IsClear c baseName f run) :
    (s.writeTo Folder.storage c baseName folder run).run root =
      pure ((fun () => g) <$> Folder.placeOutcome f run g.artifacts, root.modify
        (fun _ => f.withArtifacts (g.artifacts.takeWhile (·.hasPlace f run))) here) := by
  have hat := Folder.at?_of_openAt hopen
  rw [writeTo_run hopen hg, StateT.run_bind, Folder.placeAll_run hat (hclear.isReady hg)]
  rfl

/-- A run is written if all of its artifacts have a place. -/
theorem writeTo_of_hasPlace {g : Generation} (hopen : root.openAt folder = .ok (here, f))
    (hg : s.generate c baseName = .ok g) (hclear : s.IsClear c baseName f run)
    (hplace : ∀ a ∈ g.artifacts, a.hasPlace f run) :
    (s.writeTo Folder.storage c baseName folder run).run root =
      pure (.ok g, root.modify (fun _ => f.withArtifacts g.artifacts) here) := by
  rw [writeTo_of_ok hopen hg hclear, Folder.placeOutcome_eq_ok.mpr hplace,
    List.takeWhile_eq_self_iff.mpr hplace]
  rfl

/-- A run that is written has a place for all of its artifacts. -/
theorem writeTo_eq_ok {root' : Folder} {g : Generation}
    (hopen : root.openAt folder = .ok (here, f)) (hclear : s.IsClear c baseName f run)
    (h : (s.writeTo Folder.storage c baseName folder run).run root = (.ok g, root')) :
    s.generate c baseName = .ok g ∧ (∀ a ∈ g.artifacts, a.hasPlace f run) ∧
      root' = root.modify (fun _ => f.withArtifacts g.artifacts) here := by
  cases hg : s.generate c baseName with
  | error e =>
      rw [writeTo_of_error hg] at h
      cases h
  | ok g' =>
      rw [writeTo_of_ok hopen hg hclear] at h
      obtain ⟨houtcome, rfl⟩ := Prod.mk.inj h
      obtain ⟨_, hplace, rfl⟩ := map_eq_ok.mp houtcome
      have hall := Folder.placeOutcome_eq_ok.mp hplace
      rw [List.takeWhile_eq_self_iff.mpr hall]
      exact ⟨rfl, hall, rfl⟩

/-- A run that fails once it has been built stops at the first artifact without a place, and leaves
the folder as it was just if all before that one were there already. -/
theorem writeTo_eq_error {root' : Folder} {e : GenerationError}
    (hopen : root.openAt folder = .ok (here, f)) (hclear : s.IsClear c baseName f run)
    (h : (s.writeTo Folder.storage c baseName folder run).run root = (.error e, root')) :
    (s.generate c baseName = .error e ∧ root' = root) ∨
      ∃ g placed a rest, s.generate c baseName = .ok g ∧ g.artifacts = placed ++ a :: rest ∧
        (∀ b ∈ placed, b.hasPlace f run) ∧ ¬ a.hasPlace f run ∧ e = .io ("write " ++ a.path) ∧
        root' = root.modify (fun _ => f.withArtifacts placed) here ∧
        (root' = root ↔ ∀ b ∈ placed, f.get? b.path = some (.file b.content)) := by
  cases hg : s.generate c baseName with
  | error e' =>
      rw [writeTo_of_error hg] at h
      cases h
      exact .inl ⟨rfl, rfl⟩
  | ok g =>
      rw [writeTo_of_ok hopen hg hclear] at h
      obtain ⟨houtcome, rfl⟩ := Prod.mk.inj h
      obtain ⟨placed, a, rest, has, hplaced, ha, he, htake⟩ :=
        Folder.placeOutcome_eq_error (map_eq_error.mp houtcome)
      have hnodup : (placed.map (·.path)).Nodup := by
        have hall := artifacts_nodup hg
        rw [has, List.map_append] at hall
        exact (List.nodup_append.mp hall).1
      rw [htake]
      refine .inr ⟨g, placed, a, rest, rfl, has, hplaced, ha, he, rfl, ?_⟩
      rw [Folder.modify_eq_self_iff (Folder.at?_of_openAt hopen),
        Folder.withArtifacts_eq_self_iff hnodup]

/-! ## A folder in the way -/

/-- A folder with a folder where the contract of a run should go. -/
def blockedFolder : Folder := [("base.yaml", .folder [])]

def blockedRoot : Folder := [("out", .folder blockedFolder)]

/-- What is left of the run: its agreements. -/
def blockedRootAfter : Folder :=
  [("out", .folder [("base.yaml", .folder []), ("base-sla.yaml",
    .file (Yaml.render (Agreement.document goldShop.agreementTemplates)).toUTF8)])]

theorem openAt_out (f : Folder) : Folder.openAt [("out", .folder f)] "out" = .ok (["out"], f) :=
  Folder.openAt_of_get? (isPlain_of_isFileName (by decide)) (by decide) rfl

theorem openAt_blockedRoot : blockedRoot.openAt "out" = .ok (["out"], blockedFolder) := openAt_out _

theorem isClear_blockedFolder : goldShop.IsClear {} "base" blockedFolder 1 :=
  isClear_of_generate generate_goldShop (by decide +kernel)

theorem writeTo_blockedRoot :
    (goldShop.writeTo Folder.storage {} "base" "out" 1).run blockedRoot =
      (.error (.io "write base.yaml"), blockedRootAfter) := by
  have houtcome : Folder.placeOutcome blockedFolder 1 goldShopRun.artifacts =
      .error (.io "write base.yaml") := by decide +kernel
  have htake : goldShopRun.artifacts.takeWhile (·.hasPlace blockedFolder 1) =
      [⟨"base-sla.yaml", Yaml.render (Agreement.document goldShop.agreementTemplates)⟩] := by
    decide +kernel
  rw [writeTo_of_ok openAt_blockedRoot generate_goldShop isClear_blockedFolder, houtcome, htake]
  rfl

theorem writeTo_changes_blockedRoot :
    (goldShop.writeTo Folder.storage {} "base" "out" 1).run blockedRoot =
      (.error (.io "write base.yaml"), blockedRootAfter) ∧ blockedRootAfter ≠ blockedRoot := by
  refine ⟨writeTo_blockedRoot, ?_⟩
  intro h
  simp [blockedRootAfter, blockedRoot, blockedFolder] at h

theorem writeTo_eq_error_blockedRoot :
    (goldShop.generate {} "base" = .error (.io "write base.yaml") ∧
        blockedRootAfter = blockedRoot) ∨
      ∃ g placed a rest, goldShop.generate {} "base" = .ok g ∧
        g.artifacts = placed ++ a :: rest ∧ (∀ b ∈ placed, b.hasPlace blockedFolder 1) ∧
        ¬ a.hasPlace blockedFolder 1 ∧
        GenerationError.io "write base.yaml" = .io ("write " ++ a.path) ∧
        blockedRootAfter =
          blockedRoot.modify (fun _ => blockedFolder.withArtifacts placed) ["out"] ∧
        (blockedRootAfter = blockedRoot ↔
          ∀ b ∈ placed, blockedFolder.get? b.path = some (.file b.content)) :=
  writeTo_eq_error openAt_blockedRoot isClear_blockedFolder writeTo_blockedRoot

end Specification

end ServiceContract
