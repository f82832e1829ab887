import ServiceContract.Proofs.Reliability.Bundle
import ServiceContract.Proofs.Reliability.Findings

/-!
# Looser limits

Under looser limits nothing new is found. What is found is about the same parts in the same order,
and what is no longer found is a text that was too long or a scheme that was not allowed.
-/

namespace ServiceContract

/-! ## Lists with something left out -/

/-- Some elements of a list are left out, all of which satisfy a condition. -/
inductive LeavesOut {α : Type} (p : α → Prop) : List α → List α → Prop where
  | nil : LeavesOut p [] []
  | keep (a : α) {kept all : List α} : LeavesOut p kept all → LeavesOut p (a :: kept) (a :: all)
  | drop {a : α} {kept all : List α} : p a → LeavesOut p kept all → LeavesOut p kept (a :: all)

namespace LeavesOut

variable {α : Type} {p : α → Prop} {kept all kept' all' : List α}

theorem refl (as : List α) : LeavesOut p as as := by
  induction as with
  | nil => exact .nil
  | cons a _ ih => exact .keep a ih

theorem sublist (h : LeavesOut p kept all) : kept.Sublist all := by
  induction h with
  | nil => exact .slnil
  | keep a _ ih => exact ih.cons_cons a
  | drop _ _ ih => exact ih.cons _

theorem append (h : LeavesOut p kept all) (h' : LeavesOut p kept' all') :
    LeavesOut p (kept ++ kept') (all ++ all') := by
  induction h with
  | nil => exact h'
  | keep a _ ih => exact .keep a ih
  | drop ha _ ih => exact .drop ha ih

end LeavesOut

/-! ## Limits and what depends on them -/

namespace FindingSettings

/-- Limits that allow everything that others allow. -/
structure LoosensTo (limits loose : FindingSettings) : Prop where
  name : limits.maxNameLength ≤ loose.maxNameLength
  description : limits.maxDescriptionLength ≤ loose.maxDescriptionLength
  schemes : ∀ scheme ∈ limits.allowedSchemes,
    ∃ allowed ∈ loose.allowedSchemes, allowed.map Char.toLower = scheme.map Char.toLower

end FindingSettings

/-- What a finding says without its message, which may give a limit. -/
def Finding.remark (f : Finding) : FindingCode × String := (f.code, f.subject)

/-- A remark depends on the limits. -/
def IsLimited (remark : FindingCode × String) : Prop :=
  remark.1 = .fieldTooLong ∨ remark.1 = .wrongProtocol

/-- Findings remark the same as others, except for some remarks that depend on limits. -/
def Relaxes (findings strict : List Finding) : Prop :=
  LeavesOut IsLimited (findings.map Finding.remark) (strict.map Finding.remark)

namespace Relaxes

theorem refl (findings : List Finding) : Relaxes findings findings := LeavesOut.refl _

theorem append {fs strict fs' strict' : List Finding} (h : Relaxes fs strict)
    (h' : Relaxes fs' strict') : Relaxes (fs ++ fs') (strict ++ strict') := by
  rw [Relaxes, List.map_append, List.map_append]
  exact LeavesOut.append h h'

/-- What holds of each part holds of all parts together. -/
theorem flatMap {α : Type} {f strict : α → List Finding} (h : ∀ a, Relaxes (f a) (strict a))
    (as : List α) : Relaxes (as.flatMap f) (as.flatMap strict) := by
  induction as with
  | nil => exact refl []
  | cons a rest ih =>
      rw [List.flatMap_cons, List.flatMap_cons]
      exact (h a).append ih

/-- A limit that is exceeded under looser limits is exceeded. -/
theorem findingIf {condition strict : Bool} {code : FindingCode} {subject m m' : String}
    (hcode : IsLimited (code, subject)) (h : condition → strict) :
    Relaxes (findingIf condition code subject m) (findingIf strict code subject m') := by
  cases condition with
  | true =>
      rw [h rfl]
      exact LeavesOut.refl _
  | false =>
      cases strict with
      | true => exact .drop hcode .nil
      | false => exact refl []

end Relaxes

/-! ## Parts of a specification -/

section

variable {limits loose : FindingSettings} (h : limits.LoosensTo loose) (subject : String)
include h

namespace FindingSettings.LoosensTo

theorem relaxes_name (name : String) :
    Relaxes (loose.name subject name) (limits.name subject name) := by
  refine Relaxes.findingIf (.inl rfl) fun hlong => ?_
  have hname := h.name
  simp only [decide_eq_true_eq] at hlong ⊢
  omega

theorem relaxes_description (description : Option String) :
    Relaxes (loose.description subject description) (limits.description subject description) := by
  refine Relaxes.findingIf (.inl rfl) fun hlong => ?_
  cases description with
  | none => cases hlong
  | some text =>
      have hdescription := h.description
      simp only [Option.any_some, decide_eq_true_eq] at hlong ⊢
      omega

theorem relaxes_named (name : String) (description : Option String) :
    Relaxes (loose.named subject name description) (limits.named subject name description) :=
  (h.relaxes_name subject name).append (h.relaxes_description subject description)

theorem relaxes_indicator (i : Indicator) :
    Relaxes (i.findings loose subject) (i.findings limits subject) :=
  (h.relaxes_name subject i.name).append (.refl _)

theorem relaxes_binding (b : IndicatorBinding) :
    Relaxes (b.findings loose subject) (b.findings limits subject) := by
  cases b with
  | builtIn i => exact h.relaxes_indicator _ i
  | external name => exact .refl _

theorem relaxes_policy (p : AlertPolicy) :
    Relaxes (p.findings loose subject) (p.findings limits subject) := by
  have hconditions := Relaxes.flatMap (fun c : AlertCondition => h.relaxes_named
    (subject ++ ".conditions." ++ c.name) c.name c.description) p.conditions
  exact (h.relaxes_named subject p.name p.description).append hconditions

/-- The URL is read in the same way whatever schemes are allowed. -/
theorem relaxes_url (d : DataSource) :
    Relaxes (d.urlFindings loose subject) (d.urlFindings limits subject) := by
  unfold DataSource.urlFindings
  cases Url.scheme d.url with
  | error fault => exact .refl _
  | ok scheme =>
      refine Relaxes.findingIf (.inr rfl) fun hrefused => ?_
      simp only [Bool.not_eq_true', List.any_eq_false, decide_eq_true_eq] at hrefused ⊢
      intro allowed hallowed hscheme
      obtain ⟨other, hother, hsame⟩ := h.schemes allowed hallowed
      exact hrefused other hother (hsame.trans hscheme)

end FindingSettings.LoosensTo

end

namespace FindingSettings.LoosensTo

variable {limits loose : FindingSettings} (h : limits.LoosensTo loose)
include h

theorem relaxes_template (declared : List Indicator) (t : ObjectiveTemplate) :
    Relaxes (t.findings loose declared) (t.findings limits declared) := by
  unfold ObjectiveTemplate.findings
  dsimp only
  have hnamed := h.relaxes_named ("slo_templates." ++ t.name) t.name t.description
  have hindicator := h.relaxes_binding ("slo_templates." ++ t.name) t.indicator
  have hpolicies := Relaxes.flatMap (fun p : AlertPolicy => h.relaxes_policy
    ("slo_templates." ++ t.name ++ ".alert_policies." ++ p.name) p) t.builtInPolicies
  exact (((hnamed.append (.refl _)).append hindicator).append (.refl _)).append hpolicies

theorem relaxes_dataSource (d : DataSource) :
    Relaxes (d.findings loose) (d.findings limits) :=
  (h.relaxes_named _ d.name d.description).append (h.relaxes_url _ d)

theorem relaxes_specification (s : Specification) :
    Relaxes (s.findings loose) (s.findings limits) := by
  have htemplates := Relaxes.flatMap (h.relaxes_template s.indicators) s.objectiveTemplates
  have hindicators := Relaxes.flatMap (fun i : Indicator => h.relaxes_indicator
    ("indicators." ++ i.name) i) s.indicators
  have hpolicies := Relaxes.flatMap (fun p : AlertPolicy => h.relaxes_policy
    ("alert_policies." ++ p.name) p) s.alertPolicies
  have htargets := Relaxes.flatMap (fun t : NotificationTarget => h.relaxes_named
    ("notification_targets." ++ t.name) t.name t.description) s.notificationTargets
  have hsources := Relaxes.flatMap h.relaxes_dataSource s.dataSources
  exact (((htemplates.append hindicators).append hpolicies).append htargets).append hsources

end FindingSettings.LoosensTo

/-! ## Whole specifications -/

/-- Under looser limits a specification has some of its findings, in the same order, and those that
are gone are about a text that was too long or a scheme that was not allowed. -/
theorem Specification.findings_loosen {limits loose : FindingSettings} (h : limits.LoosensTo loose)
    (s : Specification) :
    ((s.findings loose).map Finding.remark).Sublist ((s.findings limits).map Finding.remark) ∧
      LeavesOut IsLimited ((s.findings loose).map Finding.remark)
        ((s.findings limits).map Finding.remark) :=
  ⟨(h.relaxes_specification s).sublist, h.relaxes_specification s⟩

/-- A ratio without a type, and a data source with a long name that is read by an old protocol. -/
def archiveSpecification : Specification :=
  { Reliability.checkoutSpecification with
    objectiveTemplates := []
    indicators :=
      [⟨"misses", none, none, .ratio false (.raw none (Reliability.readFrom "archive"))⟩]
    dataSources := [⟨"archive", none, none, "files", "ftp://files.test"⟩] }

/-- Limits of the archive, before and after they are loosened. -/
def narrowLimits : FindingSettings := { maxNameLength := 6, allowedSchemes := ["HTTPS"] }

def wideLimits : FindingSettings := { allowedSchemes := ["https", "FTP"] }

theorem findings_loosen_archive : narrowLimits.LoosensTo wideLimits ∧
    LeavesOut IsLimited [(.missingAttribute, "indicators.misses.metric.raw_type")]
      [(.missingAttribute, "indicators.misses.metric.raw_type"),
        (.fieldTooLong, "data_sources.archive.name"),
        (.wrongProtocol, "data_sources.archive.url")] := by
  have hlimits : narrowLimits.LoosensTo wideLimits := by
    refine ⟨by decide, Nat.le_refl 1050, ?_⟩
    intro scheme hscheme
    obtain rfl := List.mem_singleton.mp hscheme
    exact ⟨"https", by decide, by simp [← String.toList_inj]⟩
  have hnarrow : (archiveSpecification.findings narrowLimits).map Finding.remark =
      [(.missingAttribute, "indicators.misses.metric.raw_type"),
        (.fieldTooLong, "data_sources.archive.name"),
        (.wrongProtocol, "data_sources.archive.url")] := by decide +kernel
  have hwide : (archiveSpecification.findings wideLimits).map Finding.remark =
      [(.missingAttribute, "indicators.misses.metric.raw_type")] := by decide +kernel
  have hloosen := (archiveSpecification.findings_loosen hlimits).2
  rw [hnarrow, hwide] at hloosen
  exact ⟨hlimits, hloosen⟩

end ServiceContract
