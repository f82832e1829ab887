import ServiceContract.Proofs.Numeral.Magnitude
import ServiceContract.Proofs.Reliability.Bundle
import ServiceContract.Proofs.Reliability.Findings

/-!
# Bundles within limits

The documents of a bundle are read as a reader finds them. If nothing was found in a specification,
all that its bundles hold is within the limits, also what is reached by name.
-/

namespace ServiceContract

/-- A value is a number that is not negative, and below a bound. -/
def Value.IsNumberBelow (bound : ℚ) (v : Value) : Prop :=
  ∃ x : Numeral.FiniteDouble, v = .float (.finite x) ∧ 0 ≤ x.toRat ∧ x.toRat < bound

namespace Reliability

/-! ## Limits on documents -/

section

variable (limits : FindingSettings) (d : Value)

/-- The name in the metadata is not too long. -/
def NameWithin : Prop :=
  ∃ name, d.textAt? ["metadata", "name"] = some name ∧ name.length ≤ limits.maxNameLength

/-- The description in the specification is not too long, if there is one. -/
def DescriptionWithin : Prop :=
  ∀ text, d.textAt? ["spec", "description"] = some text →
    text.length ≤ limits.maxDescriptionLength

/-- An indicator, in a document of its own or inside an objective. -/
structure IndicatorWithin : Prop where
  name : NameWithin limits d
  rawType : (d.at? ["spec", "ratioMetric", "raw"]).isSome →
    (d.textAt? ["spec", "ratioMetric", "rawType"]).isSome

structure PolicyWithin : Prop where
  name : NameWithin limits d
  description : DescriptionWithin limits d
  conditions : ∀ c ∈ d.itemsAt ["spec", "conditions"],
    NameWithin limits c ∧ DescriptionWithin limits c

structure DataSourceWithin : Prop where
  name : NameWithin limits d
  description : DescriptionWithin limits d
  url : ∃ url scheme, d.textAt? ["spec", "connectionDetails", "url"] = some url ∧
    Url.scheme url = .ok scheme ∧ limits.AllowsScheme scheme

/-- The objective of a template. -/
structure ObjectiveWithin (t : ObjectiveTemplate) : Prop where
  name : NameWithin limits d
  description : DescriptionWithin limits d
  indicator : ∀ i, d.at? ["spec", "indicator"] = some i → IndicatorWithin limits i
  targets : ∀ o ∈ d.itemsAt ["spec", "objectives"],
    (∀ v, o.at? ["target"] = some v → v.IsNumberBelow 1) ∧
      ∀ v, o.at? ["targetPercent"] = some v → v.IsNumberBelow 100
  rolling : d.at? ["spec", "timeWindow", "isRolling"] = some (.bool true) → t.timeWindow.rolling

/-- A document of the bundle of a template, by its kind. -/
def DocumentWithin (t : ObjectiveTemplate) : Prop :=
  match d.textAt? ["kind"] with
  | some "SLO" => ObjectiveWithin limits d t
  | some "SLI" => IndicatorWithin limits d
  | some "AlertPolicy" => PolicyWithin limits d
  | some "AlertNotificationTarget" => NameWithin limits d ∧ DescriptionWithin limits d
  | some "DataSource" => DataSourceWithin limits d
  | some "Service" => True
  | _ => False

end

variable {limits : FindingSettings} {t : ObjectiveTemplate}

/-! ## Documents one by one -/

theorem nameWithin_kindDocument {kind name : String} {displayName : Option String} {spec : Value}
    (h : name.length ≤ limits.maxNameLength) :
    NameWithin limits (kindDocument kind name displayName spec) :=
  ⟨name, by simp [kindDocument, metadata, Value.textAt?], h⟩

theorem at?_spec_kindDocument (kind name : String) (displayName : Option String) (spec : Value)
    (path : List String) :
    (kindDocument kind name displayName spec).at? ("spec" :: path) = spec.at? path := by
  simp [kindDocument]

theorem descriptionWithin_kindDocument {kind name : String} {displayName : Option String}
    {description : Option String} {spec : Value}
    (hspec : spec.textAt? ["description"] = description)
    (h : ∀ text, description = some text → text.length ≤ limits.maxDescriptionLength) :
    DescriptionWithin limits (kindDocument kind name displayName spec) := by
  intro text htext
  rw [Value.textAt?, at?_spec_kindDocument, ← Value.textAt?, hspec] at htext
  exact h text htext

theorem indicatorWithin_inlineIndicator {i : Indicator} (h : i.IsWithin limits) :
    IndicatorWithin limits (inlineIndicator i) := by
  constructor
  · exact ⟨i.name, by simp [inlineIndicator, indicatorMembers, metadata, Value.textAt?], h.name⟩
  · have htyped := h.typed
    cases hm : i.metric with
    | threshold source => simp [inlineIndicator, indicatorMembers, metricMember, hm]
    | ratio counter r =>
        rw [hm] at htyped
        cases r with
        | goodTotal good total =>
            simp [inlineIndicator, indicatorMembers, metricMember, ratioMembers, hm]
        | badTotal bad total =>
            simp [inlineIndicator, indicatorMembers, metricMember, ratioMembers, hm]
        | raw kind source =>
            cases kind with
            | none => cases htyped
            | some kind =>
                simp [inlineIndicator, indicatorMembers, metricMember, ratioMembers, hm,
                  Value.textAt?]

/-- A document of an indicator holds it behind the head of the document. -/
theorem indicatorWithin_indicatorDocument {i : Indicator} (h : i.IsWithin limits) :
    IndicatorWithin limits (indicatorDocument i) := by
  obtain ⟨⟨name, hname, hlength⟩, hraw⟩ := indicatorWithin_inlineIndicator h
  constructor
  · refine ⟨name, ?_, hlength⟩
    rw [← hname, Value.textAt?, at?_metadata_indicatorDocument, ← Value.textAt?]
  · rw [Value.textAt?, at?_spec_indicatorDocument, at?_spec_indicatorDocument, ← Value.textAt?]
    exact hraw

/-- An optional text at the head of a record is found there, if no other member has its key. -/
theorem textAt?_record_head {key : String} {text : Option String}
    {rest : List (String × Option Value)} (hrest : (Value.record rest).at? [key] = none) :
    (Value.record ((key, text.map .text) :: rest)).textAt? [key] = text := by
  cases text <;> simp [Value.textAt?, hrest]

theorem policyWithin_policyDocument {p : AlertPolicy} (h : p.IsWithin limits) :
    PolicyWithin limits (policyDocument p) := by
  refine ⟨nameWithin_kindDocument h.admits.name,
    descriptionWithin_kindDocument (textAt?_record_head (by simp)) h.admits.description, ?_⟩
  have hitems : (policyDocument p).itemsAt ["spec", "conditions"] =
      p.conditions.map alertCondition := by
    simp [policyDocument, kindDocument, Value.itemsAt]
  rw [hitems]
  intro v hv
  obtain ⟨c, hc, rfl⟩ := List.mem_map.mp hv
  have hadmits := h.conditions c hc
  constructor
  · exact ⟨c.name, by simp [alertCondition, metadata, Value.textAt?], hadmits.name⟩
  · intro text htext
    have hspec : (alertCondition c).textAt? ["spec", "description"] = c.description := by
      rw [Value.textAt?, alertCondition, Value.at?_map_cons, Value.at?_map_cons, Value.at?_map_cons]
      exact textAt?_record_head (by simp)
    exact hadmits.description text (hspec.symm.trans htext)

theorem dataSourceWithin_dataSourceDocument {d : DataSource} (h : d.IsWithin limits) :
    DataSourceWithin limits (dataSourceDocument d) := by
  obtain ⟨scheme, hscheme, hallowed⟩ := h.scheme
  refine ⟨nameWithin_kindDocument h.admits.name,
    descriptionWithin_kindDocument (textAt?_record_head (by simp)) h.admits.description,
    d.url, scheme, ?_, hscheme, hallowed⟩
  simp [dataSourceDocument, kindDocument, Value.textAt?]

/-! ## Objectives -/

theorem isNumberBelow_doubleValue {bound : ℚ} {x : Numeral.Double}
    (h : ∃ y, x = .finite y ∧ 0 ≤ y.toRat ∧ y.toRat < bound) :
    (doubleValue x).IsNumberBelow bound := by
  obtain ⟨y, rfl, hy⟩ := h
  exact ⟨y, rfl, hy⟩

/-- The target of an objective is written as what it is. -/
theorem targetWithin_objective {threshold : Bool} {method : String} {o : Objective}
    (h : o.target.IsShare) :
    (∀ v, (objective threshold method o).at? ["target"] = some v → v.IsNumberBelow 1) ∧
      ∀ v, (objective threshold method o).at? ["targetPercent"] = some v →
        v.IsNumberBelow 100 := by
  cases hx : o.target with
  | fraction x =>
      rw [hx] at h
      constructor
      · intro v hv
        obtain rfl : doubleValue x = v := by
          cases threshold <;> simpa [objective, targetMember, hx] using hv
        exact isNumberBelow_doubleValue (Numeral.Double.isWithin_one_iff.mp h)
      · intro v hv
        simp [objective, targetMember, hx] at hv
  | percent x =>
      rw [hx] at h
      constructor
      · intro v hv
        simp [objective, targetMember, hx] at hv
      · intro v hv
        obtain rfl : doubleValue x = v := by
          simpa [objective, targetMember, hx] using hv
        exact isNumberBelow_doubleValue (Numeral.Double.isWithin_hundred_iff.mp h)

theorem itemsAt_objectiveDocument (mode : ThresholdObjectives) (t : ObjectiveTemplate)
    (i : Indicator) (policies : List AlertPolicy) :
    (objectiveDocument mode t i policies).itemsAt ["spec", "objectives"] = objectives mode t i := by
  rw [Value.itemsAt, objectiveDocument, at?_spec_kindDocument]
  cases hbinding : t.indicator <;> simp [bindingMember]

theorem objectiveWithin_objectiveDocument {mode : ThresholdObjectives} {i : Indicator}
    {policies : List AlertPolicy} (ht : t.IsWithin limits) :
    ObjectiveWithin limits (objectiveDocument mode t i policies) t := by
  have hspec : ∀ path, (objectiveDocument mode t i policies).at? ("spec" :: path) =
      Value.at? (.record [("description", t.description.map .text),
        ("service", some (.text t.service)), bindingMember t.indicator,
        ("timeWindow", some (timeWindow t.timeWindow)),
        ("budgetingMethod", some (.text t.budgetingMethod)),
        ("objectives", some (.list (objectives mode t i))),
        ("alertPolicies", some (.list (policies.map fun p => .text p.name)))]) path :=
    at?_spec_kindDocument _ _ _ _
  refine ⟨nameWithin_kindDocument ht.admits.name, ?_, ?_, ?_, ?_⟩
  · refine descriptionWithin_kindDocument (textAt?_record_head ?_) ht.admits.description
    cases t.indicator <;> simp [bindingMember]
  · intro v hv
    cases hbinding : t.indicator with
    | builtIn own =>
        obtain rfl : inlineIndicator own = v := by
          simpa [hspec, bindingMember, hbinding] using hv
        exact indicatorWithin_inlineIndicator (ht.indicator own hbinding)
    | external name =>
        simp [hspec, bindingMember, hbinding] at hv
  · rw [itemsAt_objectiveDocument, objectives]
    intro o ho
    split at ho
    · rw [List.mem_singleton.mp ho]
      simp
    · obtain ⟨declared, hdeclared, rfl⟩ := List.mem_map.mp ho
      exact targetWithin_objective (ht.targets declared hdeclared)
  · intro hrolling
    refine ht.rolling ?_
    have hwindow : some (Value.bool t.timeWindow.calendar.isNone) = some (.bool true) := by
      rw [← hrolling]
      cases hbinding : t.indicator <;> simp [hspec, bindingMember, hbinding, timeWindow]
    simpa using hwindow

/-! ## Whole bundles -/

/-- All that is selected is within the limits. -/
structure Selection.IsWithin (limits : FindingSettings) (x : Selection) : Prop where
  indicator : x.indicator.IsWithin limits
  policies : ∀ p ∈ x.policies, p.IsWithin limits
  targets : ∀ n ∈ x.targets, limits.Admits n.name n.description
  dataSources : ∀ d ∈ x.dataSources, d.IsWithin limits

/-- What a template reaches is defined in it or declared in the specification. -/
theorem Selection.Resolves.isWithin {x : Selection} {s : Specification} (h : x.Resolves s t)
    (hs : s.IsWithin limits) (ht : t.IsWithin limits) : x.IsWithin limits := by
  refine ⟨?_, ?_, ?_, ?_⟩
  · have hindicator := h.indicator
    cases hbinding : t.indicator with
    | builtIn own =>
        obtain rfl : x.indicator = own := by simpa [hbinding] using hindicator
        exact ht.indicator _ hbinding
    | external name =>
        rw [hbinding] at hindicator
        exact hs.indicators _ (List.mem_of_find?_eq_some hindicator)
  · intro p hp
    obtain ⟨name, -, hfind⟩ := mem_of_map_some h.policies hp
    unfold policy? at hfind
    split at hfind
    · exact hs.policies p (List.mem_of_find?_eq_some hfind)
    · exact ht.policies p (List.mem_of_find?_eq_some hfind)
  · intro n hn
    obtain ⟨name, -, hfind⟩ := mem_of_map_some h.targets hn
    exact hs.targets n (List.mem_of_find?_eq_some hfind)
  · intro d hd
    obtain ⟨name, -, hfind⟩ := mem_of_map_some h.dataSources hd
    exact hs.dataSources d (List.mem_of_find?_eq_some hfind)

theorem textAt?_kind_kindDocument (kind name : String) (displayName : Option String)
    (spec : Value) : (kindDocument kind name displayName spec).textAt? ["kind"] = some kind := by
  simp [kindDocument, Value.textAt?]

theorem Selection.IsWithin.documents {x : Selection} {mode : ThresholdObjectives}
    (h : x.IsWithin limits) (ht : t.IsWithin limits) :
    ∀ d ∈ x.documents mode t, DocumentWithin limits d t := by
  intro d hd
  simp only [Selection.documents, List.mem_append, List.mem_cons, List.mem_map, List.not_mem_nil,
    or_false] at hd
  obtain (((((rfl | hd) | ⟨p, hp, rfl⟩) | ⟨n, hn, rfl⟩) | rfl) | ⟨source, hsource, rfl⟩) := hd
  · rw [DocumentWithin, objectiveDocument, textAt?_kind_kindDocument]
    exact objectiveWithin_objectiveDocument ht
  · cases hbinding : t.indicator with
    | builtIn own =>
        rw [hbinding] at hd
        cases hd
    | external name =>
        rw [hbinding] at hd
        obtain rfl := List.mem_singleton.mp hd
        have hkind : (indicatorDocument x.indicator).textAt? ["kind"] = some "SLI" := by
          simp [indicatorDocument, Value.textAt?]
        rw [DocumentWithin, hkind]
        exact indicatorWithin_indicatorDocument h.indicator
  · rw [DocumentWithin, policyDocument, textAt?_kind_kindDocument]
    exact policyWithin_policyDocument (h.policies p hp)
  · rw [DocumentWithin, targetDocument, textAt?_kind_kindDocument]
    have hadmits := h.targets n hn
    refine ⟨nameWithin_kindDocument hadmits.name, ?_⟩
    refine descriptionWithin_kindDocument ?_ hadmits.description
    cases n.description <;> simp [Value.textAt?]
  · rw [DocumentWithin, serviceDocument, textAt?_kind_kindDocument]
    trivial
  · rw [DocumentWithin, dataSourceDocument, textAt?_kind_kindDocument]
    exact dataSourceWithin_dataSourceDocument (h.dataSources source hsource)

/-- Where nothing is found in a specification, every document of its bundles is within the limits,
however it is reached. -/
theorem renderTemplate_isWithin {mode : ThresholdObjectives} {s : Specification}
    {baseName : String} {b : ReliabilityBundle} (hclean : s.findings limits = [])
    (ht : t ∈ s.objectiveTemplates) (h : renderTemplate mode s baseName t = .ok b) :
    ∀ d ∈ b.documents, DocumentWithin limits d t := by
  have hs := Specification.isWithin_of_findings_eq_nil hclean
  have htemplate := hs.templates t ht
  obtain ⟨x, hx, rfl⟩ := renderTemplate_eq_ok h
  exact (hx.isWithin hs htemplate).documents htemplate

/-! ## A bundle at its limits -/

/-- Limits that the specification below just keeps. -/
def tightLimits : FindingSettings where
  maxNameLength := 6
  maxDescriptionLength := 12
  allowedSchemes := ["HTTPS"]

/-- A template with an indicator of its own that reads a raw ratio, and two targets. -/
def ordersTemplate : ObjectiveTemplate where
  name := "orders"
  displayName := none
  description := some "Orders taken"
  service := "shop"
  indicator := .builtIn
    ⟨"failed", none, none, .ratio true (.raw (some "failure") (readFrom "metric"))⟩
  timeWindow := ⟨⟨.integer 28, "d"⟩, none, true⟩
  budgetingMethod := "Occurrences"
  objectives := [
    ⟨none, none, none, .fraction (.ofDecimal false 999 (-3)), none, none⟩,
    ⟨none, none, none, .percent (.ofDecimal false 99 0), none, none⟩]
  externalPolicies := ["pager"]
  builtInPolicies := []

def ordersSelection : Selection where
  indicator := ⟨"failed", none, none, .ratio true (.raw (some "failure") (readFrom "metric"))⟩
  policies := [⟨"pager", none, none, true, true, true, [⟨"burnt", none, some "Budget gone", "page",
    ⟨"burnrate", "gte", .integer 2, ⟨.integer 1, "h"⟩, ⟨.integer 5, "m"⟩⟩⟩], ["desk"]⟩]
  targets := [⟨"desk", none, none, "email"⟩]
  service := ⟨"shop", none, none⟩
  dataSources := [⟨"metric", none, none, "Prometheus", "https://metrics.test"⟩]

def ordersSpecification : Specification where
  name := "Shop"
  version := none
  description := none
  dataTypes := []
  endpoints := []
  agreementTemplates := []
  objectiveTemplates := [ordersTemplate]
  indicators := []
  alertPolicies := ordersSelection.policies
  notificationTargets := ordersSelection.targets
  dataSources := ordersSelection.dataSources
  services := [ordersSelection.service]

def ordersBundle : ReliabilityBundle :=
  ⟨"shop-openslo-orders.yaml", "orders", ordersSelection.documents .full ordersTemplate⟩

theorem renderTemplate_isWithin_orders :
    ordersSpecification.findings tightLimits = [] ∧
      ordersTemplate ∈ ordersSpecification.objectiveTemplates ∧
      renderTemplate .full ordersSpecification "shop" ordersTemplate = .ok ordersBundle ∧
      ∀ d ∈ ordersBundle.documents, DocumentWithin tightLimits d ordersTemplate := by
  have hclean : ordersSpecification.findings tightLimits = [] := by decide +kernel
  have ht : ordersTemplate ∈ ordersSpecification.objectiveTemplates := List.mem_singleton_self _
  have hrender : renderTemplate .full ordersSpecification "shop" ordersTemplate =
      .ok ordersBundle := by decide +kernel
  exact ⟨hclean, ht, hrender, renderTemplate_isWithin hclean ht hrender⟩

end Reliability

end ServiceContract
