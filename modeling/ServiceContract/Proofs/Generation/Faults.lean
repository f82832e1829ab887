import Mathlib.Data.List.Count
import ServiceContract.Proofs.Generation.Drafts
import ServiceContract.Proofs.Interface.Errors

/-!
# Why runs fail

Of all that can be wrong, the first counts: a draft that cannot be made, what was found, then the
names of files in their order. A run with nothing wrong succeeds.
-/

namespace ServiceContract

/-! ## Names that are refused -/

/-- A text with a character that no name of a file has. -/
def HasSeparator (name : String) : Prop :=
  ∃ c ∈ name.toList, c = '/' ∨ c = '\\' ∨ c.toNat = 0

/-- Of the names that end as the files of runs do, those of files are the ones without
separators. -/
theorem isFileName_iff_not_hasSeparator {name : String} (h : ∃ stem, name = stem ++ ".yaml") :
    isFileName name ↔ ¬ HasSeparator name := by
  obtain ⟨stem, rfl⟩ := h
  have hblank : Text.isBlank (stem ++ ".yaml") = false := isBlank_append_right stem (by decide)
  have hlong : ∀ short : String, short.toList.length < 5 → stem ++ ".yaml" ≠ short := by
    rintro short hshort rfl
    rw [String.toList_append, List.length_append] at hshort
    exact absurd hshort (Nat.not_lt.mpr (Nat.le_add_left 5 _))
  have hdot := hlong "." (by decide)
  have hdots := hlong ".." (by decide)
  generalize stem ++ ".yaml" = name at hblank hdot hdots
  simp [isFileName, HasSeparator, hblank, hdot, hdots, and_assoc]

/-- Names up to which nothing is wrong: they have no separators, and no two neighbours are the
same. -/
structure ArePlain (names : List String) : Prop where
  unseparated : ∀ name ∈ names, ¬ HasSeparator name
  distinct : names.IsChain (· ≠ ·)

/-- Why names are refused: one has a separator, or is the same as the one before it. The first of
these counts. -/
inductive NamesRefused (names : List String) : GenerationError → Prop where
  | separated {before after : List String} {name : String} :
      names = before ++ name :: after → ArePlain before → HasSeparator name →
      NamesRefused names (.outputPath name)
  | repeated {before after : List String} {name : String} :
      names = before ++ name :: after → ArePlain before → before.getLast? = some name →
      NamesRefused names (.duplicateArtifact name)

/-- Why the check of names stops at an artifact, behind others. -/
inductive StopsAt (others : List String) (a : Artifact) : GenerationError → Prop where
  | outputPath : ¬ isFileName a.path → StopsAt others a (.outputPath a.path)
  | duplicateArtifact : isFileName a.path → a.path ∈ others →
      StopsAt others a (.duplicateArtifact a.path)

variable {seen : List String} {a : Artifact} {as : List Artifact} {e : GenerationError}

theorem StopsAt.checkNames_cons (h : StopsAt seen a e) (rest : List Artifact) :
    checkNames seen (a :: rest) = .error e := by
  cases h with
  | outputPath hname => rw [checkNames, if_pos (by simpa using hname)]
  | duplicateArtifact hname hmem =>
      rw [checkNames, if_neg (by simpa using hname), if_pos (by simpa using hmem)]

theorem checkNames_cons_of_new (hname : isFileName a.path) (hnew : a.path ∉ seen)
    (rest : List Artifact) : checkNames seen (a :: rest) = checkNames (a.path :: seen) rest := by
  rw [checkNames, if_neg (by simpa using hname), if_neg (by simpa using hnew)]

/-- The check stops at an artifact, or goes on behind it. -/
theorem stopsAt_or_new (seen : List String) (a : Artifact) :
    (∃ e, StopsAt seen a e) ∨ isFileName a.path ∧ a.path ∉ seen := by
  by_cases hname : isFileName a.path
  · by_cases hmem : a.path ∈ seen
    · exact .inl ⟨_, .duplicateArtifact hname hmem⟩
    · exact .inr ⟨hname, hmem⟩
  · exact .inl ⟨_, .outputPath hname⟩

theorem checkNames_append (rest : List Artifact) (h : checkNames seen as = .ok ()) :
    checkNames seen (as ++ rest) = checkNames ((as.map (·.path)).reverse ++ seen) rest := by
  induction as generalizing seen with
  | nil => rfl
  | cons a more ih =>
      rcases stopsAt_or_new seen a with ⟨e, hstops⟩ | ⟨hname, hnew⟩
      · rw [hstops.checkNames_cons] at h
        cases h
      · rw [checkNames_cons_of_new hname hnew] at h
        rw [List.cons_append, checkNames_cons_of_new hname hnew, ih h, List.map_cons,
          List.reverse_cons, List.append_assoc, List.singleton_append]

/-- The check of names fails at the first artifact at which it stops. -/
theorem checkNames_eq_error : checkNames seen as = .error e ↔
    ∃ before a after, as = before ++ a :: after ∧ checkNames seen before = .ok () ∧
      StopsAt ((before.map (·.path)).reverse ++ seen) a e := by
  constructor
  · intro h
    induction as generalizing seen with
    | nil => cases h
    | cons a rest ih =>
        rcases stopsAt_or_new seen a with ⟨e', hstops⟩ | ⟨hname, hnew⟩
        · rw [hstops.checkNames_cons] at h
          cases h
          exact ⟨[], a, rest, rfl, rfl, hstops⟩
        · rw [checkNames_cons_of_new hname hnew] at h
          obtain ⟨before, b, after, rfl, hbefore, hstops⟩ := ih h
          refine ⟨a :: before, b, after, rfl, ?_, ?_⟩
          · rw [checkNames_cons_of_new hname hnew, hbefore]
          · rw [List.map_cons, List.reverse_cons, List.append_assoc]
            exact hstops
  · rintro ⟨before, a, after, rfl, hbefore, hstops⟩
    rw [checkNames_append _ hbefore, hstops.checkNames_cons]

/-! ## Names in their order -/

/-- Artifacts are split where their paths are. -/
theorem exists_of_paths_eq {before after : List String} {name : String}
    (h : as.map (·.path) = before ++ name :: after) : ∃ before' a after',
      as = before' ++ a :: after' ∧ before'.map (·.path) = before ∧ a.path = name := by
  obtain ⟨before', rest, rfl, hbefore, hrest⟩ := List.map_eq_append_iff.mp h
  obtain ⟨a, after', rfl, hname, -⟩ := List.map_eq_cons_iff.mp hrest
  exact ⟨before', a, after', rfl, hbefore, hname⟩

section

variable (hyaml : ∀ a ∈ as, ∃ stem, a.path = stem ++ ".yaml")
  (hsorted : (as.map (·.path)).Pairwise (· ≤ ·))

include hyaml hsorted

theorem checkNames_eq_ok_iff_arePlain :
    checkNames [] as = .ok () ↔ ArePlain (as.map (·.path)) := by
  have hnames : (∀ a ∈ as, isFileName a.path ∧ a.path ∉ ([] : List String)) ↔
      ∀ name ∈ as.map (·.path), ¬ HasSeparator name := by
    rw [List.forall_mem_map]
    refine forall₂_congr fun a ha => ?_
    rw [isFileName_iff_not_hasSeparator (hyaml a ha), and_iff_left List.not_mem_nil]
  rw [checkNames_eq_ok, hnames, nodup_iff_isChain_of_pairwise hsorted]
  exact ⟨fun h => ⟨h.1, h.2⟩, fun h => ⟨h.unseparated, h.distinct⟩⟩

theorem checkNames_eq_error_iff_namesRefused :
    checkNames [] as = .error e ↔ NamesRefused (as.map (·.path)) e := by
  -- where the check can stop, it has accepted plain names, and a name that is taken is the last
  have hstop : ∀ before a after, as = before ++ a :: after →
      (checkNames [] before = .ok () ↔ ArePlain (before.map (·.path))) ∧
        (isFileName a.path ↔ ¬ HasSeparator a.path) ∧
          (a.path ∈ before.map (·.path) ↔ (before.map (·.path)).getLast? = some a.path) := by
    rintro before a after rfl
    rw [List.map_append, List.map_cons, List.append_cons] at hsorted
    have hhead := (List.pairwise_append.mp hsorted).1
    have hbefore := (List.pairwise_append.mp hhead).1
    exact ⟨checkNames_eq_ok_iff_arePlain (fun b hb => hyaml b (List.mem_append_left _ hb)) hbefore,
      isFileName_iff_not_hasSeparator (hyaml a (by simp)), mem_iff_getLast?_of_pairwise hhead⟩
  constructor
  · intro h
    obtain ⟨before, a, after, heq, hbefore, hstops⟩ := checkNames_eq_error.mp h
    obtain ⟨hplain, hname, htaken⟩ := hstop before a after heq
    have hpaths : as.map (·.path) = before.map (·.path) ++ a.path :: after.map (·.path) := by
      rw [heq, List.map_append, List.map_cons]
    cases hstops with
    | outputPath hno =>
        exact .separated hpaths (hplain.mp hbefore) (not_not.mp (mt hname.mpr hno))
    | duplicateArtifact _ hmem =>
        rw [List.append_nil, List.mem_reverse] at hmem
        exact .repeated hpaths (hplain.mp hbefore) (htaken.mp hmem)
  · intro h
    cases h with
    | separated hnames hplain hsep =>
        obtain ⟨before, a, after, heq, rfl, rfl⟩ := exists_of_paths_eq hnames
        obtain ⟨hok, hname, -⟩ := hstop before a after heq
        exact checkNames_eq_error.mpr ⟨before, a, after, heq, hok.mpr hplain,
          .outputPath fun hfile => hname.mp hfile hsep⟩
    | repeated hnames hplain hlast =>
        obtain ⟨before, a, after, heq, rfl, rfl⟩ := exists_of_paths_eq hnames
        obtain ⟨hok, hname, htaken⟩ := hstop before a after heq
        have hmem := htaken.mpr hlast
        refine checkNames_eq_error.mpr ⟨before, a, after, heq, hok.mpr hplain,
          .duplicateArtifact (hname.mpr (hplain.unseparated _ hmem)) ?_⟩
        rwa [List.append_nil, List.mem_reverse]

end

namespace Specification

/-! ## The paths of drafts -/

/-- The names of the files of a run, in their order. -/
def sortedPaths (s : Specification) (baseName : String) : List String :=
  (Contract.fileName baseName :: s.otherFiles baseName).mergeSort (· ≤ ·)

variable {s : Specification} {c : Configuration} {baseName : String} {d : Draft}
  {violations : List Violation} {e : GenerationError}

theorem sortedPaths_perm :
    (s.sortedPaths baseName).Perm (Contract.fileName baseName :: s.otherFiles baseName) :=
  List.mergeSort_perm _ _

theorem exists_eq_of_mem_sortedPaths {path : String} (h : path ∈ s.sortedPaths baseName) :
    ∃ stem, path = stem ++ ".yaml" := by
  rw [sortedPaths_perm.mem_iff, List.mem_cons, otherFiles, List.mem_append,
    mem_agreementFile, List.mem_map] at h
  rcases h with rfl | ⟨-, rfl⟩ | ⟨t, -, rfl⟩
  · exact ⟨baseName, rfl⟩
  · exact ⟨baseName ++ "-sla", by simp [Agreement.fileName, String.append_assoc]⟩
  · exact ⟨baseName ++ Reliability.fileMark ++ t.name, rfl⟩

theorem draftArtifacts_map_path (hd : s.draft c baseName = .ok d) :
    (s.draftArtifacts baseName d).map (·.path) = s.sortedPaths baseName := by
  refine eq_of_perm_of_pairwise ?_ ?_ (pairwise_mergeSort_name id _)
  · exact ((sortByPath_perm _).map _).trans
      ((unsortedPaths_perm (bundles_of_draft hd) _).trans sortedPaths_perm.symm)
  · exact List.pairwise_map.mpr (sortByPath_pairwise _)

/-- Only templates of one name make two files of one name. -/
theorem exists_name_of_two_le_count {path : String}
    (h : 2 ≤ (Contract.fileName baseName :: s.otherFiles baseName).count path) :
    ∃ name, path = Reliability.fileName baseName name ∧
      2 ≤ (s.objectiveTemplates.map (·.name)).count name := by
  have hothers : (Contract.fileName baseName :: (s.agreementFile baseName).toList).Nodup := by
    refine List.nodup_cons.mpr ⟨?_, agreementFile_nodup⟩
    exact fun hmem => contractFile_ne_agreementFile (mem_agreementFile.mp hmem).2
  rw [otherFiles, ← List.cons_append, List.count_append, objectiveFiles_eq] at h
  have hone := List.nodup_iff_count_le_one.mp hothers path
  have hmem : path ∈ (s.objectiveTemplates.map (·.name)).map (Reliability.fileName baseName) :=
    List.count_pos_iff.mp (by omega)
  obtain ⟨name, -, rfl⟩ := List.mem_map.mp hmem
  have hnone : Reliability.fileName baseName name ∉
      Contract.fileName baseName :: (s.agreementFile baseName).toList := by
    intro hmem
    rcases List.mem_cons.mp hmem with heq | hmem
    · exact contractFile_ne_objectiveFile name heq.symm
    · exact agreementFile_ne_objectiveFile name (mem_agreementFile.mp hmem).2.symm
  rw [List.count_eq_zero.mpr hnone, Nat.zero_add,
    List.count_map_of_injective _ _ objectiveFile_injective] at h
  exact ⟨name, rfl, h⟩

/-! ## Faults -/

/-- Why a run fails: its draft cannot be made, or is refused for what was found, or else for the
names of its files. -/
inductive Fault (s : Specification) (c : Configuration) (baseName : String) :
    GenerationError → Prop where
  | undrafted {e : GenerationError} : s.NoDraft e → Fault s c baseName e
  | rejected {d : Draft} {violations : List Violation} :
      s.draft c baseName = .ok d →
      contractViolations c (Yaml.render d.contract) = .ok violations →
      s.Refuses c violations →
      Fault s c baseName (.findingsRejected (s.findings c.validation).length violations.length)
  | names {d : Draft} {violations : List Violation} {e : GenerationError} :
      s.draft c baseName = .ok d →
      contractViolations c (Yaml.render d.contract) = .ok violations →
      ¬ s.Refuses c violations →
      NamesRefused (s.sortedPaths baseName) e → Fault s c baseName e

/-- How runs end. -/
structure EndsByFaults (s : Specification) (c : Configuration) (baseName : String) : Prop where
  /-- A run fails with the first fault, and with no other error. -/
  fails_iff : ∀ e, s.generate c baseName = .error e ↔ s.Fault c baseName e
  /-- A run without fault succeeds. -/
  succeeds_iff : (∃ g, s.generate c baseName = .ok g) ↔ ∀ e, ¬ s.Fault c baseName e
  /-- A run that succeeds has the artifacts of its draft, and all that was found. -/
  attached : ∀ g, s.generate c baseName = .ok g → g.findings = s.findings c.validation ∧
    ∃ d, s.draft c baseName = .ok d ∧ g.artifacts = s.draftArtifacts baseName d ∧
      contractViolations c (Yaml.render d.contract) = .ok g.violations
  /-- Only templates of one name are refused for a name that is taken. -/
  repeated : ∀ path, s.generate c baseName = .error (.duplicateArtifact path) →
    ∃ name, path = Reliability.fileName baseName name ∧
      2 ≤ (s.objectiveTemplates.map (·.name)).count name
  /-- Templates are never missing. -/
  not_missing : s.generate c baseName ≠ .error .missingTemplates
  /-- Handles are never unknown. -/
  not_unknown : ∀ h, s.generate c baseName ≠ .error (.model (.unknownHandle h))
  /-- What is found changes nothing but whether a run is refused for it. -/
  advisory : ∀ limits,
    IsRejected (s.generate c baseName) ∨
      IsRejected (s.generate { c with validation := limits } baseName) ∨
        SameOutcome (fun g g' => g.artifacts = g'.artifacts ∧ g.violations = g'.violations)
          (s.generate c baseName) (s.generate { c with validation := limits } baseName)

/-! ## Runs and their faults -/

theorem checkNames_draftArtifacts (hd : s.draft c baseName = .ok d) :
    checkNames [] (s.draftArtifacts baseName d) = .error e ↔
      NamesRefused (s.sortedPaths baseName) e := by
  have hpaths := draftArtifacts_map_path hd
  rw [← hpaths]
  refine checkNames_eq_error_iff_namesRefused ?_ (List.pairwise_map.mpr (sortByPath_pairwise _))
  intro a ha
  exact exists_eq_of_mem_sortedPaths (hpaths ▸ List.mem_map_of_mem ha)

theorem generate_eq_error :
    s.generate c baseName = .error e ↔ s.Fault c baseName e := by
  constructor
  · intro h
    cases hd : s.draft c baseName with
    | error e' =>
        rw [generate_eq, hd] at h
        cases h
        exact .undrafted (draft_eq_error.mp hd)
    | ok d =>
        obtain ⟨violations, hv⟩ := exists_contractViolations c hd
        rw [generate_of_draft hd hv] at h
        by_cases hrefused : s.Refuses c violations
        · rw [judge_of_refuses hrefused] at h
          cases h
          exact .rejected hd hv hrefused
        · rw [judge_of_not_refuses hrefused] at h
          rcases bind_eq_error.mp h with hnames | ⟨_, _, h⟩
          · exact .names hd hv hrefused ((checkNames_draftArtifacts hd).mp hnames)
          · cases h
  · intro h
    cases h with
    | undrafted hno => rw [generate_eq, draft_eq_error.mpr hno]; rfl
    | rejected hd hv hrefused => rw [generate_of_draft hd hv, judge_of_refuses hrefused]
    | names hd hv hrefused hnames =>
        rw [generate_of_draft hd hv, judge_of_not_refuses hrefused,
          (checkNames_draftArtifacts hd).mpr hnames]
        rfl

theorem exists_name_of_namesRefused {path : String}
    (h : NamesRefused (s.sortedPaths baseName) (.duplicateArtifact path)) :
    ∃ name, path = Reliability.fileName baseName name ∧
      2 ≤ (s.objectiveTemplates.map (·.name)).count name := by
  cases h with
  | @repeated before after _ hsplit _ hlast =>
      refine exists_name_of_two_le_count ?_
      have hbefore := List.count_pos_iff.mpr (List.mem_of_getLast? hlast)
      rw [← sortedPaths_perm.count_eq, hsplit, List.count_append, List.count_cons_self]
      omega

/-- What a fault cannot be, and which templates are refused for a name that is taken. -/
theorem Fault.restricts (h : s.Fault c baseName e) :
    e ≠ .missingTemplates ∧ (∀ handle, e ≠ .model (.unknownHandle handle)) ∧
      ∀ path, e = .duplicateArtifact path →
        ∃ name, path = Reliability.fileName baseName name ∧
          2 ≤ (s.objectiveTemplates.map (·.name)).count name := by
  cases h with
  | undrafted hno =>
      cases hno with
      | model hmodel =>
          refine ⟨nofun, ?_, nofun⟩
          rintro handle ⟨⟩
          exact Model.isTrue_of_build hmodel
      | unresolved _ _ => exact ⟨nofun, nofun, nofun⟩
      | duplicate _ _ _ => exact ⟨nofun, nofun, nofun⟩
  | rejected _ _ _ => exact ⟨nofun, nofun, nofun⟩
  | names _ _ _ hnames =>
      refine ⟨?_, ?_, ?_⟩
      · rintro rfl
        cases hnames
      · rintro handle rfl
        cases hnames
      · rintro path rfl
        exact exists_name_of_namesRefused hnames

/-- Other limits, with what they make a failure, change nothing else. -/
theorem generate_advisory (limits : FindingSettings) :
    IsRejected (s.generate c baseName) ∨
      IsRejected (s.generate { c with validation := limits } baseName) ∨
        SameOutcome (fun g g' => g.artifacts = g'.artifacts ∧ g.violations = g'.violations)
          (s.generate c baseName) (s.generate { c with validation := limits } baseName) := by
  have hdraft : s.draft c baseName = s.draft { c with validation := limits } baseName :=
    draft_congr rfl rfl
  cases hd : s.draft c baseName with
  | error e =>
      rw [generate_eq, generate_eq, ← hdraft, hd]
      exact .inr (.inr rfl)
  | ok d =>
      obtain ⟨violations, hv⟩ := exists_contractViolations c hd
      rcases rejected_or_sameOutcome hd (hdraft.symm.trans hd) hv hv with h | h | h
      · exact .inl h
      · exact .inr (.inl h)
      · exact .inr (.inr (h.imp fun _ _ ⟨hartifacts, hg, hg'⟩ => ⟨hartifacts, hg.trans hg'.symm⟩))

/-- A run ends as its first fault says, or succeeds without one. -/
theorem generate_endsByFaults : s.EndsByFaults c baseName where
  fails_iff e := generate_eq_error
  succeeds_iff := by
    simp only [← generate_eq_error]
    cases s.generate c baseName <;> simp
  attached g := exists_draft_of_generate
  repeated path h := (generate_eq_error.mp h).restricts.2.2 path rfl
  not_missing h := (generate_eq_error.mp h).restricts.1 rfl
  not_unknown handle h := (generate_eq_error.mp h).restricts.2.1 handle rfl
  advisory := generate_advisory

/-- Settings by which what is found is a failure. -/
def strictSettings : Configuration := { validation := { failOnFindings := true } }

theorem draft_spacedShop :
    spacedShop.draft strictSettings "base" = .ok ⟨[], spacedShopContract⟩ := by
  rw [draft, model_spacedShop]
  show Draft.mk [] <$> spacedShop.contract {} "base" spacedShopModel [] = _
  rw [contract_spacedShop]
  rfl

theorem generate_endsByFaults_spacedShop :
    spacedShop.EndsByFaults strictSettings "base" ∧
      spacedShop.generate strictSettings "base" = .error (.findingsRejected 0 1) := by
  have hends : spacedShop.EndsByFaults strictSettings "base" := generate_endsByFaults
  refine ⟨hends, (hends.fails_iff _).mpr ?_⟩
  exact .rejected draft_spacedShop (contractViolations_spacedShop rfl) ⟨rfl, .inr nofun⟩

end Specification

end ServiceContract
