import ServiceContract.Proofs.Generation.Links
import ServiceContract.Proofs.Generation.Verification

/-!
# Runs in one folder

Runs are written one after another into a folder that is empty at first. A run whose files no later
run has written over is refused just for the files of other runs that have the names of its own, so
that what earlier runs of the same base name have left is always noticed.
-/

namespace ServiceContract

/-- A run: what it is made from, the number in its temporary names, and what comes of it. -/
structure Run where
  specification : Specification
  configuration : Configuration
  baseName : String
  number : Nat
  generation : Generation

namespace Run

variable {r : Run} {name folder : String} {root root' : Folder} {here : List String}
  {as : List Artifact}

def paths (r : Run) : List String := r.generation.artifacts.map (·.path)

def Generates (r : Run) : Prop :=
  r.specification.generate r.configuration r.baseName = .ok r.generation

/-- Writing the run to a folder succeeds, and takes the files from one state to another. -/
def Writes (r : Run) (folder : String) (root root' : Folder) : Prop :=
  (r.specification.writeTo Folder.storage r.configuration r.baseName folder r.number).run root =
    (.ok r.generation, root')

def verify (r : Run) (folder : String) : StateM Folder (Except GenerationError Unit) :=
  r.specification.verifyIn Folder.storage r.configuration r.baseName folder

/-! ## Names -/

/-- Every file of a run has one of the names that are its own. -/
theorem Generates.isRunName (hg : r.Generates) (h : name ∈ r.paths) :
    IsRunName r.baseName name := by
  rcases List.mem_cons.mp ((Specification.paths_perm hg).mem_iff.mp h) with rfl | h
  · exact .inl rfl
  · rcases List.mem_append.mp h with h | h
    · exact .inr (.inl (Specification.mem_agreementFile.mp h).2)
    · obtain ⟨t, -, rfl⟩ := List.mem_map.mp h
      exact .inr (.inr ⟨t.name, rfl⟩)

/-! ## One run -/

/-- What runs have left does not stand in the way of the next one, which adds its artifacts. -/
theorem Writes.step (has : ∀ a ∈ as, ∃ stem, a.path = stem ++ ".yaml")
    (hopen : root.openAt folder = .ok (here, Folder.withArtifacts [] as))
    (hw : r.Writes folder root root') :
    r.Generates ∧ (∀ a ∈ r.generation.artifacts, Folder.fits a.path) ∧
      root' = root.modify
        (fun _ => Folder.withArtifacts [] (as ++ r.generation.artifacts)) here := by
  have hclear : r.specification.IsClear r.configuration r.baseName (Folder.withArtifacts [] as)
      r.number := by
    intro g hg a ha
    rw [Folder.get?_withArtifacts_of_notMem]
    · rfl
    · intro hmem
      obtain ⟨b, hb, he⟩ := List.mem_map.mp hmem
      obtain ⟨stem, hstem⟩ := has b hb
      exact temporaryName_ne r.number a.path stem (he.symm.trans hstem)
  obtain ⟨hg, hplace, rfl⟩ := Specification.writeTo_eq_ok hopen hclear hw
  refine ⟨hg, fun a ha => Artifact.fits_of_hasPlace (hplace a ha), ?_⟩
  rw [Folder.withArtifacts_append]

end Run

/-! ## Many runs -/

/-- Runs are written to a folder one after another. -/
inductive Written (folder : String) (root : Folder) : List Run → Folder → Prop where
  | nil : Written folder root [] root
  | snoc {rs : List Run} {r : Run} {root₁ root₂ : Folder} :
      Written folder root rs root₁ → r.Writes folder root₁ root₂ →
        Written folder root (rs ++ [r]) root₂

/-- The artifacts of runs, those of later runs behind those of earlier ones. -/
def artifactsOf (rs : List Run) : List Artifact := rs.flatMap (·.generation.artifacts)

theorem mem_paths_artifactsOf {rs : List Run} {name : String} :
    name ∈ (artifactsOf rs).map (·.path) ↔ ∃ r ∈ rs, name ∈ r.paths := by
  rw [artifactsOf, List.map_flatMap, List.mem_flatMap]
  rfl

/-- What runs leave of a folder that was empty: their artifacts, later ones in the place of earlier
ones, and nothing else. -/
structure Leaves (root : Folder) (here : List String) (rs : List Run) (root' : Folder) : Prop where
  generates : ∀ r ∈ rs, r.Generates
  isDirectory : (Folder.withArtifacts [] (artifactsOf rs)).IsDirectory
  eq_modify : root' = root.modify (fun _ => Folder.withArtifacts [] (artifactsOf rs)) here

section

variable {root root' : Folder} {folder : String} {here : List String} {rs : List Run}

/-- The path to the folder does not go through anything in it, since nothing was. -/
theorem Leaves.openAt (hopen : root.openAt folder = .ok (here, []))
    (h : Leaves root here rs root') :
    root'.openAt folder = .ok (here, Folder.withArtifacts [] (artifactsOf rs)) := by
  have hat := Folder.at?_of_openAt hopen
  have hleads : root.LeadsTo folder here := by
    rw [Folder.LeadsTo, Folder.modify_self hat]
    exact hopen
  rw [h.eq_modify]
  exact hleads.openAt_modify hat _

theorem Written.leaves (hopen : root.openAt folder = .ok (here, []))
    (h : Written folder root rs root') : Leaves root here rs root' := by
  induction h with
  | nil =>
      refine ⟨by simp, ⟨List.nodup_nil, ?_⟩, ?_⟩
      · intro name hname
        cases List.mem_mergeSort.mp hname
      · exact (Folder.modify_self (Folder.at?_of_openAt hopen)).symm
  | @snoc rs r root₁ root₂ _ hw ih =>
      -- no file that is there has a temporary name, since all of them end as files of runs do
      have hyaml : ∀ a ∈ artifactsOf rs, ∃ stem, a.path = stem ++ ".yaml" := by
        intro a ha
        obtain ⟨q, hq, ha⟩ := List.mem_flatMap.mp ha
        exact Specification.exists_path_eq (ih.generates q hq) ha
      obtain ⟨hg, hfits, hroot⟩ := hw.step hyaml (ih.openAt hopen)
      have hall : artifactsOf (rs ++ [r]) = artifactsOf rs ++ r.generation.artifacts := by
        simp [artifactsOf]
      refine ⟨?_, ?_, ?_⟩
      · intro q hq
        rcases List.mem_append.mp hq with hq | hq
        · exact ih.generates q hq
        · exact List.mem_singleton.mp hq ▸ hg
      · rw [hall, Folder.withArtifacts_append]
        exact ih.isDirectory.withArtifacts hfits
      · rw [hall, hroot, ih.eq_modify, Folder.modify_modify (Folder.at?_of_openAt hopen)]

/-! ## Verifying one of them -/

/-- A file of some run that has a name of another one, and that the other one does not have. -/
structure IsStray (rs : List Run) (r : Run) (name : String) : Prop where
  mem : ∃ q ∈ rs, name ∈ q.paths
  isRunName : IsRunName r.baseName name
  notMem : name ∉ r.paths

theorem isUnexpected_iff_isStray {r : Run} {name : String} :
    IsUnexpected (Folder.withArtifacts [] (artifactsOf rs)) r.baseName r.generation.artifacts name ↔
      IsStray rs r name := by
  have hmem : name ∈ (Folder.withArtifacts [] (artifactsOf rs)).names ↔
      ∃ q ∈ rs, name ∈ q.paths := by
    rw [Folder.mem_names_withArtifacts, mem_paths_artifactsOf, or_iff_left]
    intro hname
    cases List.mem_mergeSort.mp hname
  have hne : (∀ a ∈ r.generation.artifacts, a.path ≠ name) ↔ name ∉ r.paths := by
    simp [Run.paths]
  constructor
  · rintro ⟨h₁, h₂, h₃⟩
    exact ⟨hmem.mp h₁, h₂, hne.mp h₃⟩
  · rintro ⟨h₁, h₂, h₃⟩
    exact ⟨hmem.mpr h₁, h₂, hne.mpr h₃⟩

/-- A run that no later one has written over is refused for stray files only. -/
theorem Written.verify_refusesLeast (before : List Run) {after : List Run} {r : Run}
    (hopen : root.openAt folder = .ok (here, []))
    (h : Written folder root (before ++ r :: after) root')
    (hkept : ∀ q ∈ after, r.paths.Disjoint q.paths) :
    ∃ verdict, (r.verify folder).run root' = (verdict, root') ∧
      RefusesLeast (IsStray (before ++ r :: after) r) verdict := by
  have hleaves := h.leaves hopen
  have hg : r.Generates := hleaves.generates r (by simp)
  have hall : artifactsOf (before ++ r :: after) =
      artifactsOf before ++ r.generation.artifacts ++ artifactsOf after := by
    simp [artifactsOf]
  -- the bytes of the run stand in the place of earlier ones, and no later run has the path
  have hin : ∀ a ∈ r.generation.artifacts,
      a.IsIn (Folder.withArtifacts [] (artifactsOf (before ++ r :: after))) := by
    intro a ha
    have hnot : a.path ∉ (artifactsOf after).map (·.path) := by
      rw [mem_paths_artifactsOf]
      rintro ⟨q, hq, hmem⟩
      exact hkept q hq (List.mem_map_of_mem ha) hmem
    rw [Artifact.IsIn, hall, Folder.withArtifacts_append, Folder.withArtifacts_append,
      Folder.get?_withArtifacts_of_notMem hnot,
      Folder.get?_withArtifacts (Specification.artifacts_nodup hg) ha]
  exact ⟨_, Specification.verifyIn_run (hleaves.openAt hopen),
    (Specification.verdict_refusesLeast hleaves.isDirectory hg hin).congr
      fun _ => isUnexpected_iff_isStray⟩

/-! ## Runs for one base name -/

/-- A path of an earlier run that the last one does not have. -/
structure IsLeftover (earlier : List Run) (last : Run) (name : String) : Prop where
  mem : ∃ r ∈ earlier, name ∈ r.paths
  notMem : name ∉ last.paths

/-- After runs for one base name the last is accepted just if it has the paths of all others, and
refused for the least that it does not have. -/
theorem verify_noticesLeftovers {earlier : List Run} {last : Run} {baseName : String}
    (hopen : root.openAt folder = .ok (here, []))
    (hwritten : Written folder root (earlier ++ [last]) root')
    (hbase : ∀ r ∈ earlier ++ [last], r.baseName = baseName) :
    ∃ verdict, (last.verify folder).run root' = (verdict, root') ∧
      (verdict = .ok () ↔ ∀ r ∈ earlier, r.paths ⊆ last.paths) ∧
      ∀ e, verdict = .error e → ∃ name, IsLeftover earlier last name ∧
        (∀ n, IsLeftover earlier last n → name ≤ n) ∧ e = .unexpectedArtifact name := by
  have hgenerates := (hwritten.leaves hopen).generates
  have hstray : ∀ name, IsStray (earlier ++ [last]) last name ↔ IsLeftover earlier last name := by
    intro name
    constructor
    · rintro ⟨⟨r, hr, hmem⟩, -, hnot⟩
      rcases List.mem_append.mp hr with hr | hr
      · exact ⟨⟨r, hr, hmem⟩, hnot⟩
      · exact absurd (List.mem_singleton.mp hr ▸ hmem) hnot
    · rintro ⟨⟨r, hr, hmem⟩, hnot⟩
      have hr' : r ∈ earlier ++ [last] := List.mem_append_left _ hr
      have hname := (hgenerates r hr').isRunName hmem
      rw [hbase r hr', ← hbase last (by simp)] at hname
      exact ⟨⟨r, hr', hmem⟩, hname, hnot⟩
  obtain ⟨verdict, hrun, hleast⟩ := hwritten.verify_refusesLeast earlier hopen (by simp)
  have hleast := hleast.congr hstray
  refine ⟨verdict, hrun, hleast.eq_ok_iff.trans ?_, hleast.of_error⟩
  constructor
  · intro h r hr path hpath
    by_contra hnot
    exact h path ⟨⟨r, hr, hpath⟩, hnot⟩
  · rintro h name ⟨⟨r, hr, hpath⟩, hnot⟩
    exact hnot (h r hr hpath)

end

/-! ## Small runs -/

/-- A specification without any templates. -/
def plainShop : Specification := { Specification.goldShop with agreementTemplates := [] }

def plainShopContract : Value :=
  .map [("openapi", .text "3.0.1"),
    ("info", .map [("title", .text "Shop"), ("version", .text "1.0")]),
    ("tags", .list []), ("paths", .map []), ("components", .map [("schemas", .map [])])]

/-- Its run for a base name has the contract only. -/
def plainShopRun (baseName : String) : Run where
  specification := plainShop
  configuration := {}
  baseName := baseName
  number := 1
  generation := ⟨[⟨Contract.fileName baseName, Yaml.render plainShopContract⟩],
    plainShop.findings {}, []⟩

theorem generates_plainShopRun {baseName : String}
    (h : isFileName (Contract.fileName baseName)) : (plainShopRun baseName).Generates := by
  have hmodel : plainShop.model = .ok ⟨.empty, []⟩ := by decide
  have hviolations :
      Specification.contractViolations {} (Yaml.render plainShopContract) = .ok [] := by
    decide +kernel
  exact Specification.generate_eq_ok.mpr ⟨⟨.empty, []⟩, [], plainShopContract, {
    model_eq := hmodel
    bundles_eq := by rfl
    contract_eq := by rfl
    findings_eq := rfl
    violations_eq := hviolations
    accepted := nofun
    artifacts_eq := (List.mergeSort_singleton _).symm
    names_ok := checkNames_eq_ok.mpr ⟨by simpa [plainShopRun] using h, by simp [plainShopRun]⟩ }⟩

/-- The run for the same base name that has agreements besides. -/
def agreedShopRun : Run := ⟨Specification.goldShop, {}, "base", 1, Specification.goldShopRun⟩

/-- The files once runs have been written. -/
def runsRoot (rs : List Run) : Folder :=
  [("out", .folder (Folder.withArtifacts [] (artifactsOf rs)))]

theorem openAt_runsRoot (rs : List Run) :
    (runsRoot rs).openAt "out" = .ok (["out"], Folder.withArtifacts [] (artifactsOf rs)) :=
  Specification.openAt_out _

theorem Run.Generates.writes {r : Run} {rs : List Run} (hg : r.Generates)
    (hready : ∀ a ∈ r.generation.artifacts,
      ((Folder.withArtifacts [] (artifactsOf rs)).get? (temporaryName r.number a.path)).isNone ∧
        a.hasPlace (Folder.withArtifacts [] (artifactsOf rs)) r.number) :
    r.Writes "out" (runsRoot rs) (runsRoot (rs ++ [r])) := by
  have hclear := Specification.isClear_of_generate hg fun a ha => (hready a ha).1
  have hroot : runsRoot (rs ++ [r]) = (runsRoot rs).modify (fun _ =>
      (Folder.withArtifacts [] (artifactsOf rs)).withArtifacts r.generation.artifacts) ["out"] := by
    rw [← Folder.withArtifacts_append, runsRoot, artifactsOf, List.flatMap_append,
      List.flatMap_singleton]
    rfl
  rw [hroot]
  exact Specification.writeTo_of_hasPlace (openAt_runsRoot rs) hg hclear fun a ha =>
    (hready a ha).2

theorem written_agreedShopRun :
    Written "out" (runsRoot []) [agreedShopRun, plainShopRun "base"]
      (runsRoot [agreedShopRun, plainShopRun "base"]) := by
  have hfirst : agreedShopRun.Writes "out" (runsRoot []) (runsRoot [agreedShopRun]) :=
    Run.Generates.writes Specification.generate_goldShop (by decide +kernel)
  have hsecond : (plainShopRun "base").Writes "out" (runsRoot [agreedShopRun])
      (runsRoot [agreedShopRun, plainShopRun "base"]) :=
    (generates_plainShopRun (by decide)).writes (by decide +kernel)
  exact .snoc (.snoc .nil hfirst) hsecond

/-- The file of the agreements is noticed. -/
theorem verify_noticesLeftovers_agreedShop :
    Written "out" (runsRoot []) [agreedShopRun, plainShopRun "base"]
      (runsRoot [agreedShopRun, plainShopRun "base"]) ∧
    ((plainShopRun "base").verify "out").run (runsRoot [agreedShopRun, plainShopRun "base"]) =
      (.error (.unexpectedArtifact "base-sla.yaml"),
        runsRoot [agreedShopRun, plainShopRun "base"]) := by
  have hbase : ∀ r ∈ [agreedShopRun] ++ [plainShopRun "base"], r.baseName = "base" := by decide
  obtain ⟨verdict, hrun, haccepted, hrefused⟩ :=
    verify_noticesLeftovers (openAt_runsRoot []) written_agreedShopRun hbase
  refine ⟨written_agreedShopRun, ?_⟩
  rw [hrun]
  cases verdict with
  | ok _ => exact absurd (haccepted.mp rfl) (by decide)
  | error e =>
      obtain ⟨name, ⟨⟨r, hr, hmem⟩, hnot⟩, -, rfl⟩ := hrefused e rfl
      rw [List.mem_singleton.mp hr] at hmem
      have hpaths : agreedShopRun.paths = ["base-sla.yaml", "base.yaml"] := rfl
      have hlast : (plainShopRun "base").paths = ["base.yaml"] := by decide
      rw [hpaths] at hmem
      rw [hlast, List.mem_singleton] at hnot
      obtain rfl : name = "base-sla.yaml" := by simpa [hnot] using hmem
      rfl

end ServiceContract
