import ServiceContract.Proofs.Generation.Writing

/-!
# Verifying a run

A folder is accepted just if it holds the artifacts of the run byte for byte and nothing else that
belongs to it. What a refusal names does not depend on the order in which the folder is listed, and
a folder that a run has been written to is refused only for what was there before.
-/

namespace ServiceContract

variable {f f' root : Folder} {here : List String} {baseName : String} {a : Artifact}
  {as : List Artifact} {run : Nat}

/-! ## Names of a run -/

/-- The names that files of a run for a base name can have. -/
def IsRunName (baseName name : String) : Prop :=
  name = baseName ++ ".yaml" ∨ name = baseName ++ "-sla.yaml" ∨
    ∃ template, name = baseName ++ "-openslo-" ++ template ++ ".yaml"

theorem belongsToRun_iff {name : String} :
    belongsToRun baseName name ↔ IsRunName baseName name := by
  -- the ending is looked for after the mark, so that the two do not overlap
  have hbundle : ((baseName ++ Reliability.fileMark).toList.isPrefixOf name.toList &&
      Reliability.fileEnding.toList.isSuffixOf
        (name.toList.drop (baseName ++ Reliability.fileMark).toList.length)) = true ↔
      ∃ template, name = baseName ++ "-openslo-" ++ template ++ ".yaml" := by
    rw [Bool.and_eq_true, List.isPrefixOf_iff_prefix, List.isSuffixOf_iff_suffix]
    constructor
    · rintro ⟨⟨rest, hrest⟩, hsuffix⟩
      rw [← hrest, List.drop_left] at hsuffix
      obtain ⟨template, rfl⟩ := hsuffix
      refine ⟨String.ofList template, String.toList_inj.mp ?_⟩
      rw [← hrest]
      simp [Reliability.fileMark, Reliability.fileEnding]
    · rintro ⟨template, rfl⟩
      have htext : (baseName ++ "-openslo-" ++ template ++ ".yaml").toList =
          (baseName ++ Reliability.fileMark).toList ++
            (template.toList ++ Reliability.fileEnding.toList) := by
        simp [Reliability.fileMark, Reliability.fileEnding]
      rw [htext, List.drop_left]
      exact ⟨List.prefix_append _ _, List.suffix_append _ _⟩
  simp only [belongsToRun, Bool.or_eq_true, decide_eq_true_eq, hbundle, or_assoc]
  rfl

/-- A name in a folder that belongs to a run, but to none of its artifacts. -/
structure IsUnexpected (f : Folder) (baseName : String) (as : List Artifact) (name : String) :
    Prop where
  mem : name ∈ f.names
  isRunName : IsRunName baseName name
  ne : ∀ a ∈ as, a.path ≠ name

theorem mem_staleNames {name : String} :
    name ∈ staleNames f baseName as ↔ IsUnexpected f baseName as name := by
  rw [staleNames, List.mem_filter, Bool.and_eq_true, belongsToRun_iff]
  constructor
  · rintro ⟨hmem, hrun, hne⟩
    exact ⟨hmem, hrun, by simpa using hne⟩
  · rintro ⟨hmem, hrun, hne⟩
    exact ⟨hmem, hrun, by simpa using hne⟩

/-! ## One artifact -/

/-- Whether a folder holds an artifact as a file with its bytes. -/
def Artifact.IsIn (f : Folder) (a : Artifact) : Prop := f.get? a.path = some (.file a.content)

/-- What a folder is refused for that does not hold an artifact. -/
def Artifact.refusal (f : Folder) (a : Artifact) : GenerationError :=
  match f.get? a.path with
  | none => if Folder.fits a.path then .missingArtifact a.path else .io a.path
  | some (.file _) => .artifactMismatch a.path
  | some (.link _) | some (.folder _) => .outputPath a.path

open Classical in
theorem Artifact.verify_eq (hf : f.IsDirectory) :
    a.verify f = if a.IsIn f then .ok () else .error (a.refusal f) := by
  unfold verify IsIn refusal
  cases hget : f.get? a.path with
  | none => by_cases hfits : Folder.fits a.path <;> simp [hfits]
  | some e =>
      have hfits : Folder.fits a.path := hf.fits _ (Folder.mem_names.mpr (by simp [hget]))
      cases e with
      | file content =>
          have hcontent : content.data = a.content.data ↔ content = a.content :=
            ⟨fun h => ByteArray.ext h, fun h => h ▸ rfl⟩
          simp [hfits, hcontent]
      | link target => simp [hfits]
      | folder entries => simp [hfits]

/-! ## All artifacts -/

theorem Artifact.verify_eq_ok (hf : f.IsDirectory) : a.verify f = .ok () ↔ a.IsIn f := by
  rw [verify_eq hf]
  split <;> simp [*]

theorem staleNames_eq_nil :
    staleNames f baseName as = [] ↔ ∀ name, ¬ IsUnexpected f baseName as name := by
  simp only [List.eq_nil_iff_forall_not_mem, mem_staleNames]

theorem verifyAll_eq_ok (hf : f.IsDirectory) :
    verifyAll f baseName as = .ok () ↔
      (∀ a ∈ as, a.IsIn f) ∧ ∀ name, ¬ IsUnexpected f baseName as name := by
  rw [verifyAll, bind_eq_ok, ← staleNames_eq_nil]
  constructor
  · rintro ⟨_, hall, hstale⟩
    refine ⟨fun a ha => (Artifact.verify_eq_ok hf).mp (forM_eq_ok.mp hall a ha), ?_⟩
    cases hnames : staleNames f baseName as with
    | nil => rfl
    | cons name rest =>
        rw [hnames] at hstale
        cases hstale
  · rintro ⟨hall, hstale⟩
    refine ⟨(), forM_eq_ok.mpr fun a ha => (Artifact.verify_eq_ok hf).mpr (hall a ha), ?_⟩
    rw [hstale]
    rfl

/-- A refusal names the first artifact that is not there; if all are, the least unexpected name. -/
theorem verifyAll_eq_error (hf : f.IsDirectory) (has : as.Pairwise (·.path ≤ ·.path))
    {e : GenerationError} (h : verifyAll f baseName as = .error e) :
    (∃ a ∈ as, ¬ a.IsIn f ∧ (∀ b ∈ as, b.path < a.path → b.IsIn f) ∧ e = a.refusal f) ∨
      (∀ a ∈ as, a.IsIn f) ∧ ∃ name, IsUnexpected f baseName as name ∧
        (∀ n, IsUnexpected f baseName as n → name ≤ n) ∧ e = .unexpectedArtifact name := by
  rw [verifyAll] at h
  cases hall : as.forM (Artifact.verify f) with
  | error e' =>
      obtain rfl : e' = e := by
        rw [hall] at h
        exact Except.error.inj h
      obtain ⟨before, a, after, rfl, hbefore, ha⟩ := exists_of_forM_eq_error hall
      have hmissing : ¬ a.IsIn f := by
        intro hin
        rw [(Artifact.verify_eq_ok hf).mpr hin] at ha
        cases ha
      refine .inl ⟨a, by simp, hmissing, ?_, ?_⟩
      · intro b hb hlt
        rcases List.mem_append.mp hb with hb | hb
        · exact (Artifact.verify_eq_ok hf).mp (hbefore b hb)
        · rcases List.mem_cons.mp hb with rfl | hb
          · exact absurd hlt (String.lt_irrefl _)
          · have hle := List.rel_of_pairwise_cons (List.pairwise_append.mp has).2.1 hb
            exact absurd hlt (String.not_lt.mpr hle)
      · rw [Artifact.verify_eq hf, if_neg hmissing] at ha
        exact (Except.error.inj ha).symm
  | ok _ =>
      have hin : ∀ a ∈ as, a.IsIn f :=
        fun a ha => (Artifact.verify_eq_ok hf).mp (forM_eq_ok.mp hall a ha)
      cases hnames : staleNames f baseName as with
      | nil =>
          rw [hall, hnames] at h
          cases h
      | cons name rest =>
          have hname : name ∈ staleNames f baseName as := by simp [hnames]
          have hsorted : (staleNames f baseName as).Pairwise (· ≤ ·) :=
            f.names_pairwise.sublist List.filter_sublist
          refine .inr ⟨hin, name, mem_staleNames.mp hname, ?_, ?_⟩
          · intro n hn
            have hmem := mem_staleNames.mpr hn
            rw [hnames] at hmem hsorted
            rcases List.mem_cons.mp hmem with rfl | hmem
            · exact String.le_refl _
            · exact List.rel_of_pairwise_cons hsorted hmem
          · rw [hall, hnames] at h
            exact (Except.error.inj h).symm

/-- A verdict that refuses the least of some names, and accepts if there are none. -/
structure RefusesLeast (P : String → Prop) (verdict : Except GenerationError Unit) : Prop where
  eq_ok_iff : verdict = .ok () ↔ ∀ name, ¬ P name
  of_error : ∀ e, verdict = .error e →
    ∃ name, P name ∧ (∀ n, P n → name ≤ n) ∧ e = .unexpectedArtifact name

theorem RefusesLeast.congr {P Q : String → Prop} {verdict : Except GenerationError Unit}
    (h : RefusesLeast P verdict) (hPQ : ∀ name, P name ↔ Q name) : RefusesLeast Q verdict := by
  obtain rfl : P = Q := funext fun name => propext (hPQ name)
  exact h

/-- A folder that holds all artifacts is refused for unexpected names only. -/
theorem verifyAll_refusesLeast (hf : f.IsDirectory) (has : as.Pairwise (·.path ≤ ·.path))
    (hin : ∀ a ∈ as, a.IsIn f) :
    RefusesLeast (IsUnexpected f baseName as) (verifyAll f baseName as) := by
  constructor
  · rw [verifyAll_eq_ok hf, and_iff_right hin]
  · intro e h
    rcases verifyAll_eq_error hf has h with ⟨a, ha, hmissing, -⟩ | ⟨-, hleast⟩
    · exact absurd (hin a ha) hmissing
    · exact hleast

/-- The order in which a directory is listed does not count. -/
theorem verifyAll_eq_of_perm (h : f'.Perm f) (hf : f.IsDirectory) :
    verifyAll f' baseName as = verifyAll f baseName as := by
  have hverify : Artifact.verify f' = Artifact.verify f := by
    funext a
    rw [Artifact.verify, Artifact.verify, Folder.get?_eq_of_perm h hf.nodup]
  rw [verifyAll, verifyAll, hverify, staleNames, staleNames, Folder.names_eq_of_perm h]

/-! ## Folders that have been written to -/

theorem isUnexpected_withArtifacts {name : String} :
    IsUnexpected (f.withArtifacts as) baseName as name ↔ IsUnexpected f baseName as name := by
  constructor
  · rintro ⟨hmem, hrun, hne⟩
    refine ⟨(Folder.mem_names_withArtifacts.mp hmem).resolve_left ?_, hrun, hne⟩
    intro hpath
    obtain ⟨a, ha, he⟩ := List.mem_map.mp hpath
    exact hne a ha he
  · rintro ⟨hmem, hrun, hne⟩
    exact ⟨Folder.mem_names_withArtifacts.mpr (.inr hmem), hrun, hne⟩

namespace Specification

variable {s : Specification} {c : Configuration} {folder : String}

/-- What verifying has to say of a folder: that it holds a run and no more of it, or what is first
in the way of that. -/
structure IsVerdict (s : Specification) (c : Configuration) (baseName : String) (f : Folder)
    (verdict : Except GenerationError Unit) : Prop where
  eq_ok_iff : verdict = .ok () ↔ ∃ g, s.generate c baseName = .ok g ∧
    (∀ a ∈ g.artifacts, a.IsIn f) ∧ ∀ name, ¬ IsUnexpected f baseName g.artifacts name
  of_error : ∀ e, s.generate c baseName = .error e → verdict = .error e
  refuses : ∀ g e, s.generate c baseName = .ok g → verdict = .error e →
    (∃ a ∈ g.artifacts, ¬ a.IsIn f ∧ (∀ b ∈ g.artifacts, b.path < a.path → b.IsIn f) ∧
        e = a.refusal f) ∨
      (∀ a ∈ g.artifacts, a.IsIn f) ∧ ∃ name, IsUnexpected f baseName g.artifacts name ∧
        (∀ n, IsUnexpected f baseName g.artifacts n → name ≤ n) ∧ e = .unexpectedArtifact name

/-- The verdict on a folder. -/
def verdict (s : Specification) (c : Configuration) (baseName : String) (f : Folder) :
    Except GenerationError Unit :=
  s.generate c baseName >>= fun g => verifyAll f baseName g.artifacts

theorem verifyIn_run (hopen : root.openAt folder = .ok (here, f)) :
    (s.verifyIn Folder.storage c baseName folder).run root =
      pure (s.verdict c baseName f, root) := by
  have hname : folder ≠ "" := (Folder.openAt_eq_ok.mp hopen).1
  have hview : ∀ names, (Folder.storage.view folder names).run root = pure (.ok f, root) := by
    intro names
    simp only [Folder.storage, StateT.run_bind, StateT.run_get, pure_bind, StateT.run_pure, hopen]
    rfl
  cases hg : s.generate c baseName with
  | error e => simp only [verifyIn, verdict, hg, StateT.run_pure]; rfl
  | ok g =>
      simp only [verifyIn, verdict, hg, if_neg hname, StateT.run_bind, hview, pure_bind,
        StateT.run_pure]
      rfl

theorem isVerdict_verdict (hf : f.IsDirectory) :
    s.IsVerdict c baseName f (s.verdict c baseName f) := by
  constructor
  · rw [verdict, bind_eq_ok]
    simp only [verifyAll_eq_ok hf]
  · intro e hg
    rw [verdict, hg]
    rfl
  · intro g e hg h
    rw [verdict, hg] at h
    exact verifyAll_eq_error hf (artifacts_pairwise hg) h

theorem verdict_refusesLeast {g : Generation} (hf : f.IsDirectory)
    (hg : s.generate c baseName = .ok g) (hin : ∀ a ∈ g.artifacts, a.IsIn f) :
    RefusesLeast (IsUnexpected f baseName g.artifacts) (s.verdict c baseName f) := by
  rw [verdict, hg]
  exact verifyAll_refusesLeast hf (artifacts_pairwise hg) hin

/-- A folder that a run has been written to is refused for unexpected names only. -/
theorem verdict_withArtifacts {g : Generation} (hf : f.IsDirectory)
    (hg : s.generate c baseName = .ok g) (hplace : ∀ a ∈ g.artifacts, a.hasPlace f run) :
    RefusesLeast (IsUnexpected f baseName g.artifacts)
      (s.verdict c baseName (f.withArtifacts g.artifacts)) := by
  have hfits : ∀ a ∈ g.artifacts, Folder.fits a.path := fun a ha =>
    Artifact.fits_of_hasPlace (hplace a ha)
  exact (verdict_refusesLeast (hf.withArtifacts hfits) hg fun a ha =>
    Folder.get?_withArtifacts (artifacts_nodup hg) ha).congr fun _ => isUnexpected_withArtifacts

/-- How a folder stands when a run has been written to it. -/
structure HoldsRun (s : Specification) (c : Configuration) (baseName : String) (root : Folder)
    (folder : String) (here : List String) (f : Folder) (g : Generation) (root' f' : Folder) :
    Prop where
  at_eq : root'.at? here = some (.folder f')
  /-- A path that led to it leads to it still, unless it goes through a link in the folder that an
  artifact has taken the place of. -/
  openAt_eq : root.LeadsTo folder here ∨
    (∀ a ∈ g.artifacts, ∀ target, f.get? a.path ≠ some (.link target)) →
      root'.openAt folder = .ok (here, f')
  /-- It is refused for nothing but unexpected names that were in it before. -/
  verifyIn_eq : ∀ path, root'.openAt path = .ok (here, f') → ∃ later,
    (s.verifyIn Folder.storage c baseName path).run root' = (later, root') ∧
      RefusesLeast (IsUnexpected f baseName g.artifacts) later

/-- What it comes to that the folder at a path is verified. -/
structure Verifies (s : Specification) (c : Configuration) (baseName : String) (root : Folder)
    (folder : String) (here : List String) (f : Folder) (verdict : Except GenerationError Unit) :
    Prop where
  isVerdict : s.IsVerdict c baseName f verdict
  run_eq : (s.verifyIn Folder.storage c baseName folder).run root = (verdict, root)
  /-- The verdict is the same wherever the folder is, and in whatever order it is listed. -/
  of_perm : ∀ root₂ folder₂ here₂ f₂, Folder.openAt root₂ folder₂ = .ok (here₂, f₂) → f₂.Perm f →
    (s.verifyIn Folder.storage c baseName folder₂).run root₂ = (verdict, root₂)
  of_writeTo : ∀ run g root', s.IsClear c baseName f run →
    (s.writeTo Folder.storage c baseName folder run).run root = (.ok g, root') →
      ∃ f', s.HoldsRun c baseName root folder here f g root' f'

theorem holdsRun_withArtifacts {g : Generation} (hopen : root.openAt folder = .ok (here, f))
    (hf : f.IsDirectory) (hg : s.generate c baseName = .ok g)
    (hplace : ∀ a ∈ g.artifacts, a.hasPlace f run) :
    s.HoldsRun c baseName root folder here f g
      (root.modify (fun _ => f.withArtifacts g.artifacts) here) (f.withArtifacts g.artifacts) := by
  have hat := Folder.at?_of_openAt hopen
  refine ⟨Folder.at?_modify _ hat, ?_, ?_⟩
  · rintro (hleads | hlinks)
    · exact hleads.openAt_modify hat _
    · exact Folder.openAt_modify hopen (Folder.keeps_withArtifacts hplace hlinks)
  · intro path hpath
    exact ⟨_, verifyIn_run hpath, verdict_withArtifacts hf hg hplace⟩

/-- Verifying is exact, in whatever order the folder is listed, and accepts what was written: the
folder that a run has been written to can be refused only for unexpected names that were in it
before. -/
theorem verifyIn_isVerdict (hopen : root.openAt folder = .ok (here, f)) (hf : f.IsDirectory) :
    ∃ verdict, s.Verifies c baseName root folder here f verdict := by
  refine ⟨s.verdict c baseName f, isVerdict_verdict hf, verifyIn_run hopen, ?_, ?_⟩
  · intro root₂ folder₂ here₂ f₂ hopen₂ hperm
    have hsame : s.verdict c baseName f₂ = s.verdict c baseName f := by
      simp only [verdict, verifyAll_eq_of_perm hperm hf]
    rw [verifyIn_run hopen₂, hsame]
    rfl
  · intro run g root' hclear hwrite
    obtain ⟨hg, hplace, rfl⟩ := writeTo_eq_ok hopen hclear hwrite
    exact ⟨f.withArtifacts g.artifacts, holdsRun_withArtifacts hopen hf hg hplace⟩

/-- A folder that a run with another template has left a file in. -/
def leftoverFolder : Folder :=
  [("base-openslo-old.yaml", .file "a: 1\n".toUTF8), ("notes.txt", .file "to do".toUTF8)]

def leftoverRoot : Folder := [("out", .folder leftoverFolder)]

theorem openAt_leftoverRoot : leftoverRoot.openAt "out" = .ok (["out"], leftoverFolder) :=
  openAt_out _

theorem isDirectory_leftoverFolder : leftoverFolder.IsDirectory := by
  constructor
  · decide
  · intro name hname
    rw [Folder.names, (List.mergeSort_perm _ _).mem_iff] at hname
    revert name
    decide

theorem leadsTo_leftoverRoot : leftoverRoot.LeadsTo "out" ["out"] := openAt_out _

theorem isClear_leftoverFolder : goldShop.IsClear {} "base" leftoverFolder 1 :=
  isClear_of_generate generate_goldShop (by decide +kernel)

/-- What the run makes of it. -/
def leftoverRootAfter : Folder :=
  leftoverRoot.modify (fun _ => leftoverFolder.withArtifacts goldShopRun.artifacts) ["out"]

theorem writeTo_leftoverRoot :
    (goldShop.writeTo Folder.storage {} "base" "out" 1).run leftoverRoot =
      (.ok goldShopRun, leftoverRootAfter) :=
  writeTo_of_hasPlace openAt_leftoverRoot generate_goldShop isClear_leftoverFolder
    (by decide +kernel)

theorem isUnexpected_leftoverFolder {name : String} :
    IsUnexpected leftoverFolder "base" goldShopRun.artifacts name ↔
      name = "base-openslo-old.yaml" := by
  have hnames : leftoverFolder.names = ["base-openslo-old.yaml", "notes.txt"] :=
    List.mergeSort_of_pairwise (by decide)
  have hstale : staleNames leftoverFolder "base" goldShopRun.artifacts =
      ["base-openslo-old.yaml"] := by
    rw [staleNames, hnames]
    decide +kernel
  rw [← mem_staleNames, hstale, List.mem_singleton]

theorem verifyIn_isVerdict_leftoverRoot :
    ∃ verdict, goldShop.IsVerdict {} "base" leftoverFolder verdict ∧
      (goldShop.verifyIn Folder.storage {} "base" "out").run leftoverRoot =
        (verdict, leftoverRoot) ∧
      verdict = .error (.missingArtifact "base-sla.yaml") ∧
      (goldShop.writeTo Folder.storage {} "base" "out" 1).run leftoverRoot =
        (.ok goldShopRun, leftoverRootAfter) ∧
      (goldShop.verifyIn Folder.storage {} "base" "out").run leftoverRootAfter =
        (.error (.unexpectedArtifact "base-openslo-old.yaml"), leftoverRootAfter) := by
  obtain ⟨verdict, hverifies⟩ : ∃ verdict,
      goldShop.Verifies {} "base" leftoverRoot "out" ["out"] leftoverFolder verdict :=
    verifyIn_isVerdict openAt_leftoverRoot isDirectory_leftoverFolder
  have hrun := hverifies.run_eq
  have hfirst : verdict = .error (.missingArtifact "base-sla.yaml") := by
    have heval : goldShop.verdict {} "base" leftoverFolder =
        .error (.missingArtifact "base-sla.yaml") := by
      rw [Specification.verdict, generate_goldShop]
      rfl
    rw [verifyIn_run openAt_leftoverRoot, heval] at hrun
    exact (Prod.mk.inj hrun).1.symm
  refine ⟨verdict, hverifies.isVerdict, hrun, hfirst, writeTo_leftoverRoot, ?_⟩
  obtain ⟨f', hholds⟩ := hverifies.of_writeTo 1 _ _ isClear_leftoverFolder writeTo_leftoverRoot
  obtain ⟨later, hlater, hrefuses⟩ :=
    hholds.verifyIn_eq "out" (hholds.openAt_eq (.inl leadsTo_leftoverRoot))
  rw [hlater]
  cases later with
  | ok _ =>
      have hno := hrefuses.eq_ok_iff.mp rfl "base-openslo-old.yaml"
      exact absurd (isUnexpected_leftoverFolder.mpr rfl) hno
  | error e =>
      obtain ⟨name, hname, -, rfl⟩ := hrefuses.of_error e rfl
      rw [isUnexpected_leftoverFolder.mp hname]

/-- A folder with a link to itself where the agreements of a run should go. -/
def linkedFolder : Folder := [("base-sla.yaml", .link ".")]

def linkedRoot : Folder := [("out", .folder linkedFolder)]

/-- What the run makes of it: the link is gone. -/
def linkedRootAfter : Folder :=
  linkedRoot.modify (fun _ => linkedFolder.withArtifacts goldShopRun.artifacts) ["out"]

/-- A path through a link that an artifact takes the place of does not lead to the folder again. -/
theorem openAt_replacedLink :
    linkedRoot.openAt "out/base-sla.yaml" = .ok (["out"], linkedFolder) ∧
      (goldShop.writeTo Folder.storage {} "base" "out/base-sla.yaml" 1).run linkedRoot =
        (.ok goldShopRun, linkedRootAfter) ∧
      linkedRootAfter.openAt "out/base-sla.yaml" = .error .notAFolder := by
  have hparts : Folder.rawParts "out/base-sla.yaml" = ["out", "base-sla.yaml"] := by decide +kernel
  have husable : Folder.isUsable "out" ∧ Folder.isUsable "base-sla.yaml" := by decide
  have hopen : linkedRoot.openAt "out/base-sla.yaml" = .ok (["out"], linkedFolder) := by
    have hout : linkedRoot.at? ["out"] = some (.folder linkedFolder) := rfl
    have hlink : linkedRoot.at? ["out", "base-sla.yaml"] = some (.link ".") := rfl
    have hself : Folder.rawParts "." = ["."] := by decide
    simp [Folder.openAt, Folder.resolve, Folder.walk, Folder.maxLinks, Text.isAbsolute, hparts,
      husable, hout, hlink, hself]
  have hclear : goldShop.IsClear {} "base" linkedFolder 1 :=
    isClear_of_generate generate_goldShop (by decide +kernel)
  refine ⟨hopen, writeTo_of_hasPlace hopen generate_goldShop hclear (by decide +kernel), ?_⟩
  have hout : linkedRootAfter.at? ["out"] =
      some (.folder (linkedFolder.withArtifacts goldShopRun.artifacts)) := rfl
  have hfile : linkedRootAfter.at? ["out", "base-sla.yaml"] = some (.file
      (Yaml.render (Agreement.document goldShop.agreementTemplates)).toUTF8) := rfl
  simp [Folder.openAt, Folder.resolve, Folder.walk, Folder.maxLinks, Text.isAbsolute, hparts,
    husable, hout, hfile]

end Specification

end ServiceContract
