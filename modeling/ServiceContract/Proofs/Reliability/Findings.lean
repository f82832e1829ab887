import Mathlib.Tactic.MkIffOfInductiveProp
import ServiceContract.Finding
import ServiceContract.Proofs.Outcome

/-!
# Nothing to find

What it takes that a part of a specification has no findings. The path by which a part is reached
does not matter for that.
-/

namespace ServiceContract

variable {limits : FindingSettings} {subject : String}

@[simp] theorem findingIf_eq_nil {condition : Bool} {code : FindingCode} {message : String} :
    findingIf condition code subject message = [] ↔ condition = false := by
  cases condition <;> simp [findingIf]

/-! ## Names and descriptions -/

namespace FindingSettings

/-- A name and a description are within the limits. -/
@[mk_iff]
structure Admits (limits : FindingSettings) (name : String) (description : Option String) :
    Prop where
  name : name.length ≤ limits.maxNameLength
  description : ∀ text, description = some text → text.length ≤ limits.maxDescriptionLength

theorem name_eq_nil {name : String} :
    limits.name subject name = [] ↔ name.length ≤ limits.maxNameLength := by
  simp [FindingSettings.name]

theorem named_eq_nil {name : String} {description : Option String} :
    limits.named subject name description = [] ↔ limits.Admits name description := by
  have hdescription : limits.description subject description = [] ↔
      ∀ text, description = some text → text.length ≤ limits.maxDescriptionLength := by
    cases description <;> simp [FindingSettings.description]
  rw [named, List.append_eq_nil_iff, name_eq_nil, hdescription, admits_iff]

/-- A scheme is allowed up to the case of its letters. -/
def AllowsScheme (limits : FindingSettings) (scheme : String) : Prop :=
  ∃ allowed ∈ limits.allowedSchemes, allowed.map Char.toLower = scheme.map Char.toLower

end FindingSettings

/-! ## Schemes -/

namespace Url

theorem map_toLower_of_splitScheme {cs scheme rest : List Char}
    (h : splitScheme cs = some (scheme, rest)) : scheme.map Char.toLower = scheme := by
  have hsmall (c : Char) : c.toLower.toLower = c.toLower := by
    delta Char.toLower
    grind
  unfold splitScheme at h
  dsimp only at h
  split at h
  · split at h
    · cases h
      simp [Function.comp_def, hsmall]
    · cases h
  · cases h

/-- The scheme of a URL is given in small letters. -/
theorem map_toLower_of_scheme {text scheme : String} (h : Url.scheme text = .ok scheme) :
    scheme.map Char.toLower = scheme := by
  unfold Url.scheme at h
  split at h
  · cases h
  · rename_i cs rest hsplit
    obtain ⟨_, -, rfl⟩ := map_eq_ok.mp h
    rw [← String.toList_inj, String.toList_map, String.toList_ofList,
      map_toLower_of_splitScheme hsplit]

end Url

/-! ## Parts of a specification -/

/-- An indicator has a name within the limits, and a type if it reads a raw ratio. -/
@[mk_iff]
structure Indicator.IsWithin (limits : FindingSettings) (i : Indicator) : Prop where
  name : i.name.length ≤ limits.maxNameLength
  typed : i.metric.lacksType = false

theorem Indicator.findings_eq_nil {i : Indicator} :
    i.findings limits subject = [] ↔ i.IsWithin limits := by
  rw [findings, List.append_eq_nil_iff, FindingSettings.name_eq_nil, findingIf_eq_nil,
    isWithin_iff]

/-- A policy is within the limits with its conditions. -/
@[mk_iff]
structure AlertPolicy.IsWithin (limits : FindingSettings) (p : AlertPolicy) : Prop where
  admits : limits.Admits p.name p.description
  conditions : ∀ c ∈ p.conditions, limits.Admits c.name c.description

theorem AlertPolicy.findings_eq_nil {p : AlertPolicy} :
    p.findings limits subject = [] ↔ p.IsWithin limits := by
  simp only [findings, List.append_eq_nil_iff, FindingSettings.named_eq_nil,
    List.flatMap_eq_nil_iff, isWithin_iff]

/-- A target is a share of all events, short of the whole. -/
def Target.IsShare : Target → Prop
  | fraction x => x.isWithin 1
  | percent x => x.isWithin 100

theorem Target.findings_eq_nil {target : Target} :
    target.findings subject = [] ↔ target.IsShare := by
  cases target <;> simp [findings, IsShare]

/-- A data source is read from a URL with a scheme that is allowed. -/
@[mk_iff]
structure DataSource.IsWithin (limits : FindingSettings) (d : DataSource) : Prop where
  admits : limits.Admits d.name d.description
  scheme : ∃ scheme, Url.scheme d.url = .ok scheme ∧ limits.AllowsScheme scheme

theorem DataSource.findings_eq_nil {d : DataSource} :
    d.findings limits = [] ↔ d.IsWithin limits := by
  have hurl : d.urlFindings limits ("data_sources." ++ d.name) = [] ↔
      ∃ scheme, Url.scheme d.url = .ok scheme ∧ limits.AllowsScheme scheme := by
    unfold urlFindings
    cases hscheme : Url.scheme d.url with
    | error fault => simp
    | ok scheme => simp [FindingSettings.AllowsScheme, Url.map_toLower_of_scheme hscheme]
  rw [findings, List.append_eq_nil_iff, FindingSettings.named_eq_nil, hurl, isWithin_iff]

/-- A template is within the limits with everything that is defined in it. -/
structure ObjectiveTemplate.IsWithin (limits : FindingSettings) (t : ObjectiveTemplate) :
    Prop where
  admits : limits.Admits t.name t.description
  rolling : t.timeWindow.calendar = none → t.timeWindow.rolling
  indicator : ∀ i, t.indicator = .builtIn i → i.IsWithin limits
  targets : ∀ o ∈ t.objectives, o.target.IsShare
  policies : ∀ p ∈ t.builtInPolicies, p.IsWithin limits

theorem ObjectiveTemplate.isWithin_of_findings_eq_nil {t : ObjectiveTemplate}
    {declared : List Indicator} (h : t.findings limits declared = []) : t.IsWithin limits := by
  simp only [findings, List.append_eq_nil_iff, List.flatMap_eq_nil_iff,
    FindingSettings.named_eq_nil, AlertPolicy.findings_eq_nil] at h
  obtain ⟨⟨⟨⟨hadmits, hwindow⟩, hindicator⟩, hobjectives⟩, hpolicies⟩ := h
  refine ⟨hadmits, ?_, ?_, ?_, hpolicies⟩
  · intro hcalendar
    simpa [TimeWindow.findings, hcalendar] using hwindow
  · intro i hi
    rw [hi] at hindicator
    exact Indicator.findings_eq_nil.mp hindicator
  · intro o ho
    obtain ⟨n, hn⟩ := List.mem_iff_getElem?.mp ho
    have hfound := hobjectives (o, n) (List.mk_mem_zipIdx_iff_getElem?.mpr hn)
    rw [Objective.findings, List.append_eq_nil_iff] at hfound
    exact Target.findings_eq_nil.mp hfound.1

/-- Everything that a specification declares is within the limits. -/
structure Specification.IsWithin (limits : FindingSettings) (s : Specification) : Prop where
  templates : ∀ t ∈ s.objectiveTemplates, t.IsWithin limits
  indicators : ∀ i ∈ s.indicators, i.IsWithin limits
  policies : ∀ p ∈ s.alertPolicies, p.IsWithin limits
  targets : ∀ t ∈ s.notificationTargets, limits.Admits t.name t.description
  dataSources : ∀ d ∈ s.dataSources, d.IsWithin limits

theorem Specification.isWithin_of_findings_eq_nil {s : Specification}
    (h : s.findings limits = []) : s.IsWithin limits := by
  simp only [findings, List.append_eq_nil_iff, List.flatMap_eq_nil_iff,
    Indicator.findings_eq_nil, AlertPolicy.findings_eq_nil, FindingSettings.named_eq_nil,
    DataSource.findings_eq_nil] at h
  obtain ⟨⟨⟨⟨htemplates, hindicators⟩, hpolicies⟩, htargets⟩, hsources⟩ := h
  exact ⟨fun t ht => ObjectiveTemplate.isWithin_of_findings_eq_nil (htemplates t ht), hindicators,
    hpolicies, htargets, hsources⟩

end ServiceContract
