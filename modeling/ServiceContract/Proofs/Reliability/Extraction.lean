import ServiceContract.Proofs.Reliability.Bundle

/-!
# Indicators that are taken out of a template

An indicator can stand in a template or be declared next to it and named there. Both ways the same
names have to be declared, and the bundles say the same: the indicator moves from the objective
into a document of its own, and nothing else changes.
-/

namespace ServiceContract

/-- The template that names an indicator in place of its own. -/
def ObjectiveTemplate.naming (t : ObjectiveTemplate) (i : Indicator) : ObjectiveTemplate :=
  { t with indicator := .external i.name }

/-- The specification that declares an indicator, before all others, which a template names in place
of its own. -/
def Specification.extracting (s : Specification) (position : Nat) (t : ObjectiveTemplate)
    (i : Indicator) : Specification :=
  { s with
    indicators := i :: s.indicators
    objectiveTemplates := s.objectiveTemplates.set position (t.naming i) }

namespace Reliability

/-- Two bundles that differ in where an indicator stands. In the first it is a member of the
objective; in the second the objective names it at the same place, and it is the body of a document
of its own, next behind the objective. -/
structure MovesIndicator (i : Indicator) (b b' : ReliabilityBundle) : Prop where
  fileName : b'.fileName = b.fileName
  template : b'.template = b.template
  documents : ∃ (head front back body : Entries) (rest : List Value),
    b.documents = .map (head ++ [("spec", .map (front ++ ("indicator", .map body) :: back))]) ::
      rest ∧
    b'.documents =
      .map (head ++ [("spec", .map (front ++ ("indicatorRef", .text i.name) :: back))]) ::
        .map ([("apiVersion", .text "openslo/v1"), ("kind", .text "SLI")] ++ body) :: rest ∧
    head.get? "kind" = some (.text "SLO") ∧
    (∀ key ∈ (front ++ back).keys, key ≠ "indicator" ∧ key ≠ "indicatorRef") ∧
    inlineIndicator i = .map body ∧ body.keys = ["metadata", "spec"]

variable {mode : ThresholdObjectives} {s : Specification} {t : ObjectiveTemplate} {i : Indicator}

/-! ## The members of an objective -/

/-- The members of an objective before its specification. -/
def objectiveHead (t : ObjectiveTemplate) : Entries :=
  [("apiVersion", apiVersion), ("kind", .text "SLO"), ("metadata", metadata t.name t.displayName)]

/-- The members of the specification of an objective before its indicator. -/
def specificationFront (t : ObjectiveTemplate) : Entries :=
  (t.description.toList.map fun text => ("description", .text text)) ++
    [("service", .text t.service)]

/-- The members of the specification of an objective behind its indicator. -/
def specificationBack (mode : ThresholdObjectives) (t : ObjectiveTemplate) (i : Indicator)
    (policies : List AlertPolicy) : Entries :=
  [("timeWindow", timeWindow t.timeWindow), ("budgetingMethod", .text t.budgetingMethod),
    ("objectives", .list (objectives mode t i)),
    ("alertPolicies", .list (policies.map fun p => .text p.name))]

theorem objectiveDocument_eq {key : String} {v : Value} (ps : List AlertPolicy)
    (h : bindingMember t.indicator = (key, some v)) :
    objectiveDocument mode t i ps = .map (objectiveHead t ++
      [("spec", .map (specificationFront t ++ (key, v) :: specificationBack mode t i ps))]) := by
  rw [objectiveDocument, kindDocument, h]
  cases hdescription : t.description <;> simp [objectiveHead, specificationFront,
    specificationBack, Value.record, hdescription]

/-- An objective that names its indicator differs from one that holds it in that member only. -/
theorem movesIndicator_documents (hi : t.indicator = .builtIn i) (file : String)
    (ps : List AlertPolicy) (rest : List Value) :
    MovesIndicator i ⟨file, t.name, objectiveDocument mode t i ps :: rest⟩
      ⟨file, t.name, objectiveDocument mode (t.naming i) i ps :: indicatorDocument i :: rest⟩ := by
  refine ⟨rfl, rfl, objectiveHead t, specificationFront t, specificationBack mode t i ps,
    indicatorMembers i, rest, ?_, ?_, rfl, ?_, rfl, rfl⟩
  · have hmember : bindingMember t.indicator = ("indicator", some (.map (indicatorMembers i))) := by
      rw [hi]
      rfl
    rw [objectiveDocument_eq ps hmember]
  · have hmember : bindingMember (t.naming i).indicator = ("indicatorRef", some (.text i.name)) :=
      rfl
    rw [objectiveDocument_eq ps hmember]
    rfl
  · cases hdescription : t.description <;>
      simp [specificationFront, specificationBack, Entries.keys, hdescription]

/-! ## Both ways -/

/-- The indicator that is declared first is found under its name. -/
theorem indicatorOf_naming (position : Nat) :
    indicatorOf (s.extracting position t i) (t.naming i) = .ok i := by
  simp [indicatorOf, ObjectiveTemplate.naming, Specification.extracting, find]

/-- A template that holds an indicator, and the same template with its indicator declared first of
all and named in it, cannot be rendered for the same reason, or have bundles that differ in where
the indicator stands. -/
theorem renderTemplate_extracting (mode : ThresholdObjectives) (baseName : String) {position : Nat}
    (ht : s.objectiveTemplates[position]? = some t) (hi : t.indicator = .builtIn i) :
    (s.extracting position t i).objectiveTemplates[position]? = some (t.naming i) ∧
      SameOutcome (MovesIndicator i) (renderTemplate mode s baseName t)
        (renderTemplate mode (s.extracting position t i) baseName (t.naming i)) := by
  constructor
  · exact List.getElem?_set_self (List.getElem?_eq_some_iff.mp ht).1
  · have hown : indicatorOf s t = .ok i := indicatorOf_eq_ok.mpr (by rw [hi])
    rw [renderTemplate, renderTemplate, hown, indicatorOf_naming, hi]
    -- policies, targets, service and data sources are looked up in the same declarations
    refine SameOutcome.bind (policiesOf s t) fun ps _ => ?_
    refine SameOutcome.bind (targetsOf s ps) fun ts _ => ?_
    refine SameOutcome.bind (serviceOf s t) fun service _ => ?_
    refine SameOutcome.bind (dataSourcesOf s i) fun ds _ => ?_
    exact movesIndicator_documents hi _ ps _

/-- An indicator with the name of others that are declared. -/
def latencyIndicator : Indicator :=
  ⟨"errors", some "Latency", none, .threshold (readFrom "metrics")⟩

/-- The checkout, with an indicator of its own. -/
def latencyTemplate : ObjectiveTemplate :=
  { checkoutTemplate with
    name := "latency"
    description := some "how long a checkout takes"
    indicator := .builtIn latencyIndicator }

def latencySpecification : Specification :=
  { checkoutSpecification with objectiveTemplates := [checkoutTemplate, latencyTemplate] }

theorem renderTemplate_extracting_latency :
    latencySpecification.objectiveTemplates[1]? = some latencyTemplate ∧
      latencyTemplate.indicator = .builtIn latencyIndicator ∧
      ∃ b b', renderTemplate .full latencySpecification "shop" latencyTemplate = .ok b ∧
        renderTemplate .full (latencySpecification.extracting 1 latencyTemplate latencyIndicator)
          "shop" (latencyTemplate.naming latencyIndicator) = .ok b' ∧
        MovesIndicator latencyIndicator b b' := by
  have ht : latencySpecification.objectiveTemplates[1]? = some latencyTemplate := rfl
  have hi : latencyTemplate.indicator = .builtIn latencyIndicator := rfl
  have hsame := (renderTemplate_extracting .full "shop" ht hi).2
  obtain ⟨b, hb⟩ := exists_of_isOk
    (x := renderTemplate .full latencySpecification "shop" latencyTemplate) (by decide +kernel)
  refine ⟨ht, hi, b, ?_⟩
  rw [hb] at hsame ⊢
  cases hb' : renderTemplate .full
      (latencySpecification.extracting 1 latencyTemplate latencyIndicator) "shop"
      (latencyTemplate.naming latencyIndicator) with
  | error e =>
      rw [hb'] at hsame
      cases hsame
  | ok b' =>
      rw [hb'] at hsame
      exact ⟨b', rfl, rfl, hsame⟩

end Reliability

end ServiceContract
