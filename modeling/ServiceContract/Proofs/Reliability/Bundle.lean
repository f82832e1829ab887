import ServiceContract.Proofs.Reliability.Selection
import ServiceContract.Proofs.Value.Access

/-!
# Bundles are complete

The documents of a bundle are read as a reader finds them: each has a kind and a name, and refers to
others by kind and name. A bundle holds just the documents that its objective needs, each once.
-/

namespace ServiceContract.Reliability

/-! ## Headings and references -/

/-- Names with the kind that they share. -/
def ofKind (kind : String) (names : List String) : List (String × String) := names.map (kind, ·)

/-- The kind and the name of a document. -/
def heading? (d : Value) : Option (String × String) := do
  return (← d.textAt? ["kind"], ← d.textAt? ["metadata", "name"])

/-- Where the metric sources of an indicator stand in its specification. -/
def sourcePaths : List (List String) :=
  [["thresholdMetric"], ["ratioMetric", "good"], ["ratioMetric", "bad"], ["ratioMetric", "total"],
    ["ratioMetric", "raw"]]

/-- The data sources that the specification of an indicator refers to. -/
def sourceNames (specification : Value) : List String :=
  sourcePaths.flatMap fun path =>
    (specification.textAt? (path ++ ["metricSource", "metricSourceRef"])).toList

/-- The documents that a document refers to, by kind and name. An indicator is specified in a
document of its own or inside an objective. -/
def references (d : Value) : List (String × String) :=
  ofKind "SLI" (d.textAt? ["spec", "indicatorRef"]).toList ++
    ofKind "AlertPolicy" ((d.itemsAt ["spec", "alertPolicies"]).filterMap (·.textAt? [])) ++
    ofKind "AlertNotificationTarget"
      ((d.itemsAt ["spec", "notificationTargets"]).filterMap (·.textAt? ["targetRef"])) ++
    ofKind "Service" (d.textAt? ["spec", "service"]).toList ++
    ofKind "DataSource" ([["spec"], ["spec", "indicator", "spec"]].flatMap fun path =>
      (d.at? path).elim [] sourceNames)

/-- The kinds and names of the documents of a bundle, in order. -/
def Selection.headings (x : Selection) (t : ObjectiveTemplate) : List (String × String) :=
  ofKind "SLO" [t.name] ++ ofKind "SLI" t.indicatorName.toList ++
    ofKind "AlertPolicy" (x.policies.map (·.name)) ++
    ofKind "AlertNotificationTarget" (x.targets.map (·.name)) ++
    ofKind "Service" [x.service.name] ++ ofKind "DataSource" (x.dataSources.map (·.name))

theorem mem_ofKind {kind k n : String} {names : List String} :
    (k, n) ∈ ofKind kind names ↔ k = kind ∧ n ∈ names := by
  simp [ofKind, and_comm, eq_comm]

/-- Names are told apart by their kinds where they are not by themselves. -/
theorem nodup_flatMap_ofKind {groups : List (String × List String)}
    (hkinds : (groups.map Prod.fst).Nodup) (hnames : ∀ g ∈ groups, g.2.Nodup) :
    (groups.flatMap fun g => ofKind g.1 g.2).Nodup := by
  induction groups with
  | nil => simp
  | cons g rest ih =>
      obtain ⟨hnew, hkinds⟩ := List.nodup_cons.mp hkinds
      obtain ⟨hg, hnames⟩ := List.forall_mem_cons.mp hnames
      rw [List.flatMap_cons]
      refine List.nodup_append.mpr ⟨?_, ih hkinds hnames, ?_⟩
      · exact hg.map fun _ _ he => (Prod.mk.inj he).2
      · rintro ⟨k, n⟩ hr _ hq rfl
        obtain ⟨g', hg', hmem⟩ := List.mem_flatMap.mp hq
        have hk : g'.1 = g.1 := (mem_ofKind.mp hmem).1.symm.trans (mem_ofKind.mp hr).1
        exact hnew (List.mem_map.mpr ⟨g', hg', hk⟩)

/-! ## Documents one by one -/

theorem heading?_kindDocument (kind name : String) (displayName : Option String) (spec : Value) :
    heading? (kindDocument kind name displayName spec) = some (kind, name) := by
  simp [heading?, kindDocument, metadata, Value.textAt?]

theorem heading?_indicatorDocument (i : Indicator) :
    heading? (indicatorDocument i) = some ("SLI", i.name) := by
  simp [heading?, indicatorDocument, indicatorMembers, metadata, Value.textAt?]

/-- A document of an indicator has the metadata of one that is written into an objective. -/
theorem at?_metadata_indicatorDocument (i : Indicator) (path : List String) :
    (indicatorDocument i).at? ("metadata" :: path) =
      (inlineIndicator i).at? ("metadata" :: path) := by
  simp [indicatorDocument, inlineIndicator, indicatorMembers]

/-- A document of an indicator has the specification of one that is written into an objective. -/
theorem at?_spec_indicatorDocument (i : Indicator) (path : List String) :
    (indicatorDocument i).at? ("spec" :: path) = (inlineIndicator i).at? ("spec" :: path) := by
  simp [indicatorDocument, inlineIndicator, indicatorMembers]

theorem at?_wrappedSource (s : MetricSource) :
    (wrappedSource s).at? ["metricSource", "metricSourceRef"] = s.dataSource.map .text := by
  cases hs : s.dataSource with
  | none => simp [wrappedSource, metricSource, hs]
  | some name => simp [wrappedSource, metricSource, hs]

/-- The specification of an indicator refers to the data sources of its metric. -/
theorem sourceNames_indicator (description : Option Value) (m : Metric) :
    sourceNames (.record [("description", description), metricMember m]) =
      m.sources.filterMap (·.dataSource) := by
  rw [List.filterMap_eq_flatMap_toList]
  cases m with
  | threshold source =>
      simp [sourceNames, sourcePaths, metricMember, Metric.sources, Value.textAt?,
        at?_wrappedSource]
  | ratio counter r =>
      cases r with
      | goodTotal good total =>
          simp [sourceNames, sourcePaths, metricMember, Metric.sources, Ratio.sources,
            ratioMembers, Value.textAt?, at?_wrappedSource]
      | badTotal bad total =>
          simp [sourceNames, sourcePaths, metricMember, Metric.sources, Ratio.sources,
            ratioMembers, Value.textAt?, at?_wrappedSource]
      | raw kind source =>
          simp [sourceNames, sourcePaths, metricMember, Metric.sources, Ratio.sources,
            ratioMembers, Value.textAt?, at?_wrappedSource]

theorem references_indicatorDocument (i : Indicator) :
    references (indicatorDocument i) =
      ofKind "DataSource" (i.metric.sources.filterMap (·.dataSource)) := by
  rw [← sourceNames_indicator (i.description.map .text)]
  cases hm : i.metric with
  | threshold source =>
      simp [references, indicatorDocument, indicatorMembers, metricMember, ofKind, hm,
        Value.textAt?, Value.itemsAt]
  | ratio counter r =>
      simp [references, indicatorDocument, indicatorMembers, metricMember, ofKind, hm,
        Value.textAt?, Value.itemsAt]

/-- An objective refers to its indicator, or to the data sources of the one that it holds. -/
theorem references_objectiveDocument (mode : ThresholdObjectives) (t : ObjectiveTemplate)
    (i : Indicator) (ps : List AlertPolicy) :
    references (objectiveDocument mode t i ps) =
      ofKind "SLI" t.indicatorName.toList ++ ofKind "AlertPolicy" (ps.map (·.name)) ++
        ofKind "Service" [t.service] ++
        ofKind "DataSource" (match t.indicator with
          | .builtIn own => own.metric.sources.filterMap (·.dataSource)
          | .external _ => []) := by
  cases hi : t.indicator with
  | builtIn own =>
      dsimp only
      rw [← sourceNames_indicator (own.description.map .text)]
      simp [references, objectiveDocument, kindDocument, bindingMember, inlineIndicator,
        indicatorMembers, sourceNames, sourcePaths, ofKind, ObjectiveTemplate.indicatorName, hi,
        Value.textAt?, Value.itemsAt, List.filterMap_map, Function.comp_def]
  | external name =>
      simp [references, objectiveDocument, kindDocument, bindingMember, sourceNames, sourcePaths,
        ofKind, ObjectiveTemplate.indicatorName, hi, Value.textAt?, Value.itemsAt,
        List.filterMap_map, Function.comp_def]

theorem references_policyDocument (p : AlertPolicy) :
    references (policyDocument p) = ofKind "AlertNotificationTarget" p.targets := by
  simp [references, policyDocument, kindDocument, sourceNames, sourcePaths, ofKind, Value.textAt?,
    Value.itemsAt, List.filterMap_map, Function.comp_def]

theorem references_targetDocument (n : NotificationTarget) :
    references (targetDocument n) = [] := by
  simp [references, targetDocument, kindDocument, sourceNames, sourcePaths, ofKind, Value.textAt?,
    Value.itemsAt]

theorem references_serviceDocument (s : Service) : references (serviceDocument s) = [] := by
  simp [references, serviceDocument, kindDocument, sourceNames, sourcePaths, ofKind, Value.textAt?,
    Value.itemsAt]

theorem references_dataSourceDocument (s : DataSource) :
    references (dataSourceDocument s) = [] := by
  simp [references, dataSourceDocument, kindDocument, sourceNames, sourcePaths, ofKind,
    Value.textAt?, Value.itemsAt]

/-! ## Whole bundles -/

namespace Selection.Resolves

variable {x : Selection} {s : Specification} {t : ObjectiveTemplate} {mode : ThresholdObjectives}

theorem heading?_documents (h : x.Resolves s t) :
    (x.documents mode t).map heading? = (x.headings t).map some := by
  have hindicator := h.indicator
  cases hi : t.indicator with
  | builtIn own =>
      simp [documents, headings, ofKind, ObjectiveTemplate.indicatorName, hi, Function.comp_def,
        objectiveDocument, policyDocument, targetDocument, serviceDocument, dataSourceDocument,
        heading?_kindDocument]
  | external name =>
      have hname : x.indicator.name = name := by
        rw [hi] at hindicator
        exact nameOf_eq_of_find? hindicator
      simp [documents, headings, ofKind, ObjectiveTemplate.indicatorName, hi, hname,
        Function.comp_def, objectiveDocument, policyDocument, targetDocument, serviceDocument,
        dataSourceDocument, heading?_kindDocument, heading?_indicatorDocument]

theorem mem_tail_headings {k n : String} :
    (k, n) ∈ (x.headings t).tail ↔
      (k = "SLI" ∧ t.indicatorName = some n) ∨ (k = "AlertPolicy" ∧ n ∈ x.policies.map (·.name)) ∨
        (k = "AlertNotificationTarget" ∧ n ∈ x.targets.map (·.name)) ∨
        (k = "Service" ∧ n = x.service.name) ∨
        (k = "DataSource" ∧ n ∈ x.dataSources.map (·.name)) := by
  have htail (rest : List (String × String)) : (ofKind "SLO" [t.name] ++ rest).tail = rest := rfl
  simp only [headings, List.append_assoc, htail, List.mem_append, mem_ofKind, Option.mem_toList,
    List.mem_singleton]

/-- What documents refer to. The data sources are those of the indicator, which stands in a document
of its own or in the objective. -/
theorem mem_references_documents (h : x.Resolves s t) {k n : String} :
    (k, n) ∈ (x.documents mode t).flatMap references ↔
      (k = "SLI" ∧ t.indicatorName = some n) ∨ (k = "AlertPolicy" ∧ n ∈ x.policies.map (·.name)) ∨
        (k = "Service" ∧ n = t.service) ∨
        (k = "DataSource" ∧ n ∈ x.indicator.metric.sources.filterMap (·.dataSource)) ∨
        (k = "AlertNotificationTarget" ∧ n ∈ x.policies.flatMap (·.targets)) := by
  have hindicator := h.indicator
  cases hi : t.indicator with
  | builtIn own =>
      obtain rfl : x.indicator = own := by simpa [hi] using hindicator
      simp only [documents, hi, List.flatMap_append, List.flatMap_cons, List.flatMap_nil,
        List.flatMap_map, references_objectiveDocument, references_policyDocument,
        references_targetDocument, references_serviceDocument, references_dataSourceDocument,
        List.mem_append, mem_ofKind, List.mem_flatMap, List.not_mem_nil, and_false, exists_false,
        and_left_comm, exists_and_left, Option.mem_toList, List.mem_singleton, or_false, or_assoc]
  | external name =>
      simp only [documents, hi, List.flatMap_append, List.flatMap_cons, List.flatMap_nil,
        List.flatMap_map, references_objectiveDocument, references_policyDocument,
        references_targetDocument, references_serviceDocument, references_dataSourceDocument,
        references_indicatorDocument, List.mem_append, mem_ofKind, List.mem_flatMap,
        List.not_mem_nil, and_false, exists_false, and_left_comm, exists_and_left,
        Option.mem_toList, List.mem_singleton, or_false, or_assoc]

/-- The documents of a bundle refer to all of its documents but the first, and to no others. -/
theorem mem_references_iff (h : x.Resolves s t) (r : String × String) :
    r ∈ (x.documents mode t).flatMap references ↔ r ∈ (x.headings t).tail := by
  rw [h.mem_references_documents, mem_tail_headings, h.targets_name_eq, h.dataSources_name_eq,
    h.service_name_eq, List.mem_eraseDups, List.mem_eraseDups]
  simp only [or_comm, or_left_comm]

theorem headings_nodup (h : x.Resolves s t) : (x.headings t).Nodup := by
  have hgroups : x.headings t = ([("SLO", [t.name]), ("SLI", t.indicatorName.toList),
      ("AlertPolicy", policyNames t),
      ("AlertNotificationTarget", (x.policies.flatMap (·.targets)).eraseDups),
      ("Service", [x.service.name]),
      ("DataSource", (x.indicator.metric.sources.filterMap (·.dataSource)).eraseDups)].flatMap
        fun g => ofKind g.1 g.2) := by
    simp [headings, h.policies_name_eq, h.targets_name_eq, h.dataSources_name_eq]
  rw [hgroups]
  refine nodup_flatMap_ofKind (by simp) ?_
  have hname : t.indicatorName.toList.Nodup := by cases t.indicatorName <;> simp
  simp [hname, policyNames, eraseDups_nodup]

end Selection.Resolves

/-- A bundle that can be rendered has the documents that its template asks for, in their order: the
kinds and names of documents are distinct, and all of them but that of the objective are just those
that documents of the bundle refer to. -/
theorem renderTemplate_isComplete {mode : ThresholdObjectives} {s : Specification}
    {baseName : String} {t : ObjectiveTemplate} {b : ReliabilityBundle}
    (h : renderTemplate mode s baseName t = .ok b) :
    ∃ x : Selection, x.Resolves s t ∧ b.documents = x.documents mode t ∧
      b.documents.map heading? = (x.headings t).map some ∧ (x.headings t).Nodup ∧
        ∀ r, r ∈ b.documents.flatMap references ↔ r ∈ (x.headings t).tail := by
  obtain ⟨x, hx, rfl⟩ := renderTemplate_eq_ok h
  exact ⟨x, hx, rfl, hx.heading?_documents, hx.headings_nodup, hx.mem_references_iff⟩

/-- A source that is read from a data source, and says nothing else. -/
def readFrom (dataSource : String) : MetricSource := ⟨some dataSource, none, none⟩

/-- A policy that alerts targets, on no condition. -/
def alerting (name : String) (targets : List String) : AlertPolicy :=
  ⟨name, none, none, false, true, true, [], targets⟩

/-- A template that names a policy twice and holds another of that name. -/
def checkoutTemplate : ObjectiveTemplate where
  name := "checkout"
  displayName := none
  description := none
  service := "shop"
  indicator := .external "errors"
  timeWindow := ⟨⟨.integer 28, "d"⟩, none, true⟩
  budgetingMethod := "Occurrences"
  objectives := []
  externalPolicies := ["page", "page"]
  builtInPolicies := [alerting "page" ["pager"], alerting "mail" ["desk", "inbox"]]

/-- What the template of the checkout selects. -/
def checkoutSelection : Selection where
  indicator := ⟨"errors", none, none, .ratio true (.badTotal (readFrom "logs") (readFrom "logs"))⟩
  policies := [alerting "page" ["desk"], alerting "mail" ["desk", "inbox"]]
  targets := [⟨"desk", none, none, "email"⟩, ⟨"inbox", none, none, "email"⟩]
  service := ⟨"shop", none, none⟩
  dataSources := [⟨"logs", none, none, "Loki", "https://logs.test"⟩]

/-- The indicator is declared twice, and more is declared than the template needs. -/
def checkoutSpecification : Specification where
  name := "Shop"
  version := none
  description := none
  dataTypes := []
  endpoints := []
  agreementTemplates := []
  objectiveTemplates := [checkoutTemplate]
  indicators := [checkoutSelection.indicator,
    ⟨"errors", none, none, .threshold (readFrom "metrics")⟩]
  alertPolicies := [alerting "page" ["desk"]]
  notificationTargets := ⟨"pager", none, none, "sms"⟩ :: checkoutSelection.targets
  dataSources := ⟨"metrics", none, none, "Prometheus", "https://metrics.test"⟩ ::
    checkoutSelection.dataSources
  services := [checkoutSelection.service]

/-- The bundle of the checkout. -/
def checkoutBundle : ReliabilityBundle :=
  ⟨"shop-openslo-checkout.yaml", "checkout", checkoutSelection.documents .full checkoutTemplate⟩

theorem renderTemplate_isComplete_checkout :
    renderTemplate .full checkoutSpecification "shop" checkoutTemplate = .ok checkoutBundle ∧
      ∃ x : Selection, x.Resolves checkoutSpecification checkoutTemplate ∧
        checkoutBundle.documents = x.documents .full checkoutTemplate ∧
        checkoutBundle.documents.map heading? = (x.headings checkoutTemplate).map some ∧
        (x.headings checkoutTemplate).Nodup ∧
        ∀ r, r ∈ checkoutBundle.documents.flatMap references ↔
          r ∈ (x.headings checkoutTemplate).tail := by
  have h : renderTemplate .full checkoutSpecification "shop" checkoutTemplate =
      .ok checkoutBundle := by decide +kernel
  exact ⟨h, renderTemplate_isComplete h⟩

example : checkoutSelection.headings checkoutTemplate = [("SLO", "checkout"), ("SLI", "errors"),
    ("AlertPolicy", "page"), ("AlertPolicy", "mail"), ("AlertNotificationTarget", "desk"),
    ("AlertNotificationTarget", "inbox"), ("Service", "shop"), ("DataSource", "logs")] := by
  decide

end ServiceContract.Reliability
