import ServiceContract.Configuration
import ServiceContract.Proofs.Generation.Faults
import ServiceContract.Proofs.Text.Trimming

/-!
# Base names

What the settings take for a plain name is the name of a file, and so are the names made from it,
but for one character: the one that ends names passes the settings, and stops the run.
-/

namespace ServiceContract

open OutputSettings Text

/-- A text with the character that ends names. -/
def HasNul (name : String) : Prop := ∃ c ∈ name.toList, c.toNat = 0

/-- A run comes to the names of its files: its documents are made, and it is not refused for what
was found. -/
def Specification.ComesToNames (s : Specification) (c : Configuration) (baseName : String) : Prop :=
  ∃ d violations, s.draft c baseName = .ok d ∧
    contractViolations c (Yaml.render d.contract) = .ok violations ∧ ¬ s.Refuses c violations

/-- How a base name serves the runs that are made with it. -/
structure ServesRuns (c : Configuration) (name : String) : Prop where
  /-- It is used without the white space around it. -/
  used : ∀ input, c.output.baseNameFor input = trim name
  isFileName_iff : isFileName (trim name) = true ↔ ¬ HasNul name
  /-- A run for templates with plain names stops at a path only for the character that ends names,
  and then at the first of its paths. -/
  outputPath_iff : ∀ (s : Specification) (input path : String),
    (∀ t ∈ s.objectiveTemplates, ¬ HasSeparator t.name) →
      (s.generate c (c.output.baseNameFor input) = .error (.outputPath path) ↔
        HasNul name ∧ s.ComesToNames c (trim name) ∧
          (s.sortedPaths (trim name)).head? = some path)

variable {name stem path : String} {c : Configuration} {s : Specification}

/-! ## What settings accept -/

theorem require_bind_eq_ok {α : Type} {condition : Bool} {reason : Unusable}
    {f : Unit → Except Unusable α} {a : α} :
    require condition reason >>= f = .ok a ↔ condition = true ∧ f () = .ok a := by
  cases condition with
  | false =>
      constructor
      · intro h
        cases h
      · intro h
        cases h.1
  | true => exact (and_iff_right rfl).symm

theorem require_eq_ok {condition : Bool} {reason : Unusable} :
    require condition reason = .ok () ↔ condition = true := by
  cases condition <;> simp [require]

theorem checkBaseName_eq_ok : checkBaseName name = .ok () ↔
    trim name ≠ "" ∧ (trim name).utf8ByteSize ≤ maxPartLength ∧ isPlainName (trim name) = true := by
  simp [checkBaseName, require_bind_eq_ok, require_eq_ok]

/-- Settings that can be used have a base name that can be used. -/
theorem checkBaseName_of_check (hname : c.output.baseName = some name) (h : c.check = .ok ()) :
    checkBaseName name = .ok () := by
  rw [Configuration.check, bind_eq_ok] at h
  rcases h with ⟨_, h, -⟩
  simp only [OutputSettings.check, require_bind_eq_ok, hname] at h
  exact h.2.2.2

/-- A base name that is accepted is used without the white space around it. -/
theorem baseNameFor_eq (hname : c.output.baseName = some name) (h : checkBaseName name = .ok ())
    (input : String) : c.output.baseNameFor input = trim name := by
  have hne := (checkBaseName_eq_ok.mp h).1
  rw [baseNameFor, hname, Option.map_some, Option.filter_some, if_pos (by simpa using hne)]

/-! ## Names of files -/

theorem hasNul_trim_iff : HasNul (trim name) ↔ HasNul name := by
  rw [HasNul, HasNul, trim, String.toList_ofList]
  refine exists_congr fun c => and_congr_left fun hc => mem_trimmed_iff ?_
  simp [isWhite, hc]

/-- Nothing is left of a text that is all white space. -/
theorem isBlank_trim_iff : isBlank (trim name) = true ↔ trim name = "" := by
  rw [isBlank, trim, String.toList_ofList, ← String.toList_inj, String.toList_ofList]
  constructor
  · intro hall
    cases hcs : trimmed name.toList with
    | nil => rfl
    | cons c rest =>
        have hhead := (trimmed_isTrimmed name.toList).head c (by rw [hcs]; rfl)
        rw [hcs, List.all_cons, hhead] at hall
        cases hall
  · intro hnil
    rw [hnil]
    rfl

theorem hasSeparator_iff :
    HasSeparator name ↔ '/' ∈ name.toList ∨ '\\' ∈ name.toList ∨ HasNul name := by
  simp [HasSeparator, HasNul, and_or_left, exists_or]

theorem hasSeparator_append :
    HasSeparator (name ++ stem) ↔ HasSeparator name ∨ HasSeparator stem := by
  simp [HasSeparator, or_and_right, exists_or]

theorem isPlainName_iff : isPlainName name = true ↔
    name ≠ "." ∧ name ≠ ".." ∧ name ≠ "" ∧ '/' ∉ name.toList ∧ '\\' ∉ name.toList := by
  simp [isPlainName, String.contains_char_eq, and_assoc]

theorem isFileName_iff : isFileName name = true ↔
    isBlank name = false ∧ name ≠ "." ∧ name ≠ ".." ∧ ¬ HasSeparator name := by
  simp [isFileName, HasSeparator, and_assoc]

/-- Plain names are the names of files, but for the character that ends names. -/
theorem isFileName_trim_iff :
    isFileName (trim name) = true ↔ isPlainName (trim name) = true ∧ ¬ HasNul name := by
  have hblank : isBlank (trim name) = false ↔ trim name ≠ "" := by
    rw [← Bool.not_eq_true, isBlank_trim_iff]
  rw [isFileName_iff, isPlainName_iff, hasSeparator_iff, hasNul_trim_iff, hblank, not_or, not_or]
  constructor
  · intro ⟨hne, hdot, hdots, hslash, hback, hnul⟩
    exact ⟨⟨hdot, hdots, hne, hslash, hback⟩, hnul⟩
  · intro ⟨⟨hdot, hdots, hne, hslash, hback⟩, hnul⟩
    exact ⟨hne, hdot, hdots, hslash, hback, hnul⟩

/-- What settings accept without that character are the names of files that are not too long. -/
theorem checkBaseName_iff_isFileName : checkBaseName name = .ok () ∧ ¬ HasNul name ↔
    isFileName (trim name) = true ∧ (trim name).utf8ByteSize ≤ maxPartLength := by
  rw [checkBaseName_eq_ok, isFileName_trim_iff]
  constructor
  · intro ⟨⟨_, hshort, hplain⟩, hnul⟩
    exact ⟨⟨hplain, hnul⟩, hshort⟩
  · intro ⟨⟨hplain, hnul⟩, hshort⟩
    have hne := (isPlainName_iff.mp hplain).2.2.1
    exact ⟨⟨hne, hshort, hplain⟩, hnul⟩

theorem hasSeparator_trim_iff (h : checkBaseName name = .ok ()) :
    HasSeparator (trim name) ↔ HasNul name := by
  rcases isPlainName_iff.mp (checkBaseName_eq_ok.mp h).2.2 with ⟨-, -, -, hslash, hback⟩
  rw [hasSeparator_iff, hasNul_trim_iff, or_iff_right hslash, or_iff_right hback]

/-! ## Runs -/

namespace Specification

variable {baseName : String}

/-- The paths of a run for templates with plain names have separators as its base name has. -/
theorem hasSeparator_of_mem_sortedPaths
    (hplain : ∀ t ∈ s.objectiveTemplates, ¬ HasSeparator t.name)
    (hpath : path ∈ s.sortedPaths baseName) : HasSeparator path ↔ HasSeparator baseName := by
  have hyaml : ¬ HasSeparator ".yaml" := by simp [HasSeparator]
  have hmark : ¬ HasSeparator Reliability.fileMark := by simp [HasSeparator, Reliability.fileMark]
  have hsla : ¬ HasSeparator "-sla.yaml" := by simp [HasSeparator]
  rw [sortedPaths_perm.mem_iff, List.mem_cons, otherFiles, List.mem_append,
    mem_agreementFile, List.mem_map] at hpath
  rcases hpath with rfl | ⟨-, rfl⟩ | ⟨t, ht, rfl⟩
  · simp [Contract.fileName, hasSeparator_append, hyaml]
  · simp [Agreement.fileName, hasSeparator_append, hsla]
  · simp [Reliability.fileName, Reliability.fileEnding, hasSeparator_append, hyaml, hmark,
      hplain t ht]

/-- A run that stops at a path has come to it in their order. -/
theorem generate_eq_outputPath : s.generate c baseName = .error (.outputPath path) ↔
    s.ComesToNames c baseName ∧ NamesRefused (s.sortedPaths baseName) (.outputPath path) := by
  rw [generate_eq_error]
  constructor
  · intro h
    generalize he : GenerationError.outputPath path = e at h
    cases h with
    | undrafted hno => cases hno <;> cases he
    | rejected _ _ _ => cases he
    | names hd hv hrefused hnames => exact ⟨⟨_, _, hd, hv, hrefused⟩, hnames⟩
  · intro h
    rcases h with ⟨⟨d, violations, hd, hv, hrefused⟩, hnames⟩
    exact .names hd hv hrefused hnames

/-- Where all names have separators, the first is refused; where none has, none is. -/
theorem namesRefused_iff_head? {names : List String} {p : Prop}
    (hnames : ∀ name ∈ names, HasSeparator name ↔ p) :
    NamesRefused names (.outputPath path) ↔ p ∧ names.head? = some path := by
  constructor
  · intro h
    cases h with
    | @separated before after _ hsplit hplain hsep =>
        have hp : p := (hnames path (by simp [hsplit])).mp hsep
        refine ⟨hp, ?_⟩
        cases before with
        | nil => rw [hsplit]; rfl
        | cons first rest =>
            have hfirst := (hnames first (by simp [hsplit])).mpr hp
            exact absurd hfirst (hplain.unseparated first (by simp))
  · intro h
    cases names with
    | nil => cases h.2
    | cons first rest =>
        obtain rfl : first = path := by simpa using h.2
        exact .separated rfl ⟨by simp, .nil⟩ ((hnames first (by simp)).mpr h.1)

end Specification

/-! ## Accepted base names -/

theorem servesRuns (hname : c.output.baseName = some name) (h : checkBaseName name = .ok ()) :
    ServesRuns c name where
  used := baseNameFor_eq hname h
  isFileName_iff := by
    rw [isFileName_trim_iff, and_iff_right (checkBaseName_eq_ok.mp h).2.2]
  outputPath_iff s input path hplain := by
    have hpaths : ∀ path ∈ s.sortedPaths (trim name), HasSeparator path ↔ HasNul name := by
      intro path hpath
      rw [← hasSeparator_trim_iff h]
      exact Specification.hasSeparator_of_mem_sortedPaths hplain hpath
    rw [baseNameFor_eq hname h, Specification.generate_eq_outputPath,
      Specification.namesRefused_iff_head? hpaths]
    exact and_left_comm

/-- Settings and runs take the same texts for plain names, but for the character that ends names:
that alone stops a run which settings have let pass. -/
theorem checkBaseName_servesRuns (name : String) :
    (checkBaseName name = .ok () ∧ ¬ HasNul name ↔
      isFileName (trim name) = true ∧ (trim name).utf8ByteSize ≤ maxPartLength) ∧
    ∀ c : Configuration, c.output.baseName = some name → c.check = .ok () → ServesRuns c name := by
  refine ⟨checkBaseName_iff_isFileName, ?_⟩
  intro c hname hcheck
  exact servesRuns hname (checkBaseName_of_check hname hcheck)

/-- The settings for a base name, and for everything else what is taken for granted. -/
def namedSettings (name : String) : Configuration := { output := { baseName := some name } }

theorem check_namedSettings (h : checkBaseName name = .ok ()) :
    (namedSettings name).check = .ok () := by
  have hdirectory : trim "generated" ≠ "" ∧ (trim "generated").utf8ByteSize ≤ maxPathLength ∧
      partsFit (trim "generated") = true := by decide +kernel
  have houtput : (namedSettings name).output.check = .ok () := by
    simp only [OutputSettings.check, require_bind_eq_ok, decide_eq_true_eq]
    exact ⟨hdirectory.1, hdirectory.2.1, hdirectory.2.2, h⟩
  have hothers : (do
      ({} : FindingSettings).check
      ({} : ContractSettings).check
      ({} : LoggingSettings).check) = .ok () := by decide +kernel
  exact bind_eq_ok.mpr ⟨(), houtput, hothers⟩

theorem checkBaseName_servesRuns_spaced : (namedSettings " shop v2 ").check = .ok () ∧
    ∀ path, Specification.linkedShop.generate (namedSettings " shop v2 ")
      ((namedSettings " shop v2 ").output.baseNameFor "in/contract.yaml") ≠
        .error (.outputPath path) := by
  have hcheck : (namedSettings " shop v2 ").check = .ok () := by
    apply check_namedSettings
    rw [checkBaseName_eq_ok, isPlainName_iff]
    decide +kernel
  refine ⟨hcheck, ?_⟩
  intro path hpath
  have hserves := (checkBaseName_servesRuns " shop v2 ").2 (namedSettings " shop v2 ") rfl hcheck
  have hplain : ∀ t ∈ Specification.linkedShop.objectiveTemplates, ¬ HasSeparator t.name := by
    simp [Specification.linkedShop, Specification.basketTemplate, Reliability.checkoutTemplate,
      HasSeparator]
  have hnul := ((hserves.outputPath_iff _ _ path hplain).mp hpath).1
  simp [HasNul] at hnul

/-- Settings accept a base name that stops the run at the path of its contract. -/
theorem generate_nulName : (namedSettings "a\x00b").check = .ok () ∧
    Specification.spacedShop.generate (namedSettings "a\x00b")
      ((namedSettings "a\x00b").output.baseNameFor "in/shop.yaml") =
        .error (.outputPath "a\x00b.yaml") := by
  have hname : checkBaseName "a\x00b" = .ok () := by
    rw [checkBaseName_eq_ok, isPlainName_iff]
    decide +kernel
  refine ⟨check_namedSettings hname, ?_⟩
  have htrim : trim "a\x00b" = "a\x00b" := by decide +kernel
  rw [baseNameFor_eq rfl hname, htrim, Specification.generate_eq_outputPath]
  have hdraft : Specification.spacedShop.draft (namedSettings "a\x00b") "a\x00b" =
      .ok ⟨[], Specification.spacedShopContract⟩ := by
    have hcontract : Specification.spacedShop.contract {} "a\x00b"
        Specification.spacedShopModel [] = .ok Specification.spacedShopContract := by
      decide +kernel
    rw [Specification.draft, Specification.model_spacedShop]
    show Draft.mk [] <$> Specification.spacedShop.contract {} "a\x00b"
      Specification.spacedShopModel [] = _
    rw [hcontract]
    rfl
  have hrefused : ¬ Specification.spacedShop.Refuses (namedSettings "a\x00b")
      Specification.spacedShopRun.violations := by
    intro h
    cases h.1
  refine ⟨⟨_, _, hdraft, Specification.contractViolations_spacedShop rfl, hrefused⟩, ?_⟩
  have hpaths : Specification.spacedShop.sortedPaths "a\x00b" = ["a\x00b.yaml"] :=
    List.mergeSort_singleton _
  rw [hpaths]
  exact .separated (List.nil_append _).symm ⟨by simp, .nil⟩ (by simp [HasSeparator])

end ServiceContract
