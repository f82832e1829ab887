import Mathlib.Data.List.Forall2
import ServiceContract.Proofs.Input.Targets
import ServiceContract.Proofs.Reliability.Bundle
import ServiceContract.Proofs.Value.Places

/-!
# What is left out

What is not given is not written: an optional key of a document is there exactly if there is
something to write under it. Nulls stand only in the queries of metric sources, where anything may
be written, because the targets of a specification that is read are finite.
-/

namespace ServiceContract

open Value

/-- The sources of a metric, each with the path to it from the specification of its indicator. -/
def Metric.placedSources : Metric → List (List String × MetricSource)
  | threshold source => [(["thresholdMetric"], source)]
  | ratio _ (.goodTotal good total) =>
    [(["ratioMetric", "good"], good), (["ratioMetric", "total"], total)]
  | ratio _ (.badTotal bad total) =>
    [(["ratioMetric", "bad"], bad), (["ratioMetric", "total"], total)]
  | ratio _ (.raw _ source) => [(["ratioMetric", "raw"], source)]

namespace Reliability

/-! ## What documents show -/

/-- A document, or a part of one, shows the names and the description of something. -/
structure ShowsNames (name : String) (displayName description : Option String) (d : Value) :
    Prop where
  name : d.textAt? ["metadata", "name"] = some name
  displayName : d.Has ["metadata", "displayName"] ↔ displayName.isSome
  description : d.Has ["spec", "description"] ↔ description.isSome

structure ShowsSource (s : MetricSource) (v : Value) : Prop where
  dataSource : v.Has ["metricSourceRef"] ↔ s.dataSource.isSome
  kind : v.Has ["type"] ↔ s.kind.isSome
  query : v.Has ["spec"] ↔ s.query.isSome

structure ShowsIndicator (i : Indicator) (d : Value) : Prop where
  names : ShowsNames i.name i.displayName i.description d
  sources : ∀ p ∈ i.metric.placedSources,
    ∃ v, d.at? ("spec" :: p.1 ++ ["metricSource"]) = some v ∧ ShowsSource p.2 v
  rawType : d.Has ["spec", "ratioMetric", "rawType"] ↔
    ∃ counter kind source, i.metric = .ratio counter (.raw (some kind) source)

/-- An objective of a template, whose indicator has a threshold or not. -/
structure ShowsObjective (threshold : Bool) (budgetingMethod : String) (o : Objective) (v : Value) :
    Prop where
  target : Xor (v.Has ["target"]) (v.Has ["targetPercent"])
  fraction : v.Has ["target"] ↔ ∃ x, o.target = .fraction x
  operator : v.Has ["op"] ↔ threshold ∧ o.operator.isSome
  value : v.Has ["value"] ↔ threshold ∧ o.value.isSome
  timeSliceTarget : v.Has ["timeSliceTarget"] ↔
    budgetingMethod = "Timeslices" ∧ o.timeSliceTarget.isSome
  timeSliceWindow : v.Has ["timeSliceWindow"] ↔
    (budgetingMethod = "Timeslices" ∨ budgetingMethod = "RatioTimeslices") ∧
      o.timeSliceWindow.isSome
  displayName : v.Has ["displayName"] ↔ o.displayName.isSome

/-- The document of a template that is measured by an indicator. -/
structure ShowsTemplate (mode : ThresholdObjectives) (t : ObjectiveTemplate) (i : Indicator)
    (d : Value) : Prop where
  names : ShowsNames t.name t.displayName t.description d
  indicator : ∀ own, t.indicator = .builtIn own →
    ∃ v, d.at? ["spec", "indicator"] = some v ∧ ShowsIndicator own v
  calendar : d.Has ["spec", "timeWindow", "calendar"] ↔ t.timeWindow.calendar.isSome
  objectives : ∃ vs, d.at? ["spec", "objectives"] = some (.list vs) ∧
    if i.metric.isThreshold ∧ mode = .placeholder then vs = [.map []]
    else List.Forall₂ (ShowsObjective i.metric.isThreshold t.budgetingMethod) t.objectives vs

structure ShowsPolicy (p : AlertPolicy) (d : Value) : Prop where
  names : ShowsNames p.name p.displayName p.description d
  conditions : ∃ vs, d.at? ["spec", "conditions"] = some (.list vs) ∧
    List.Forall₂ (fun c => ShowsNames c.name c.displayName c.description) p.conditions vs

/-- What a document is about. -/
inductive Subject where
  | template (t : ObjectiveTemplate) (i : Indicator)
  | indicator (i : Indicator)
  | policy (p : AlertPolicy)
  | target (n : NotificationTarget)
  | service (s : Service)
  | dataSource (s : DataSource)

/-- A document shows all of its subject, and nothing that is not given. -/
def Subject.IsShown (mode : ThresholdObjectives) : Subject → Value → Prop
  | template t i => ShowsTemplate mode t i
  | indicator i => ShowsIndicator i
  | policy p => ShowsPolicy p
  | target n => ShowsNames n.name n.displayName n.description
  | service s => ShowsNames s.name s.displayName s.description
  | dataSource s => ShowsNames s.name s.displayName s.description

/-- What the documents of a bundle are about, in their order. -/
def Selection.subjects (x : Selection) (t : ObjectiveTemplate) : List Subject :=
  .template t x.indicator ::
    (match t.indicator with
      | .builtIn _ => []
      | .external _ => [.indicator x.indicator]) ++
    x.policies.map .policy ++ x.targets.map .target ++ [.service x.service] ++
    x.dataSources.map .dataSource

/-- Where queries stand: in the sources of an indicator, in a document of its own or inside an
objective. -/
def queryPlaces : List (List PathStep) :=
  [[], ["spec", "indicator"]].flatMap fun front => sourcePaths.map fun path =>
    (front ++ "spec" :: path ++ ["metricSource", "spec"]).map .member

/-! ## Parts of documents -/

theorem showsNames_kindDocument {kind name : String} {displayName description : Option String}
    {spec : Value} (h : spec.Has ["description"] ↔ description.isSome) :
    ShowsNames name displayName description (kindDocument kind name displayName spec) := by
  refine ⟨by simp [kindDocument, metadata, textAt?], ?_, ?_⟩
  · simp [kindDocument, metadata, Option.isSome_iff_exists]
  · simpa [kindDocument] using h

theorem showsSource_metricSource (s : MetricSource) : ShowsSource s (metricSource s) := by
  constructor
  all_goals simp [metricSource, Option.isSome_iff_exists]

theorem showsIndicator_inlineIndicator (i : Indicator) : ShowsIndicator i (inlineIndicator i) := by
  constructor
  · refine ⟨by simp [inlineIndicator, indicatorMembers, metadata, textAt?], ?_, ?_⟩
    · simp [inlineIndicator, indicatorMembers, metadata, Option.isSome_iff_exists]
    · cases hm : i.metric <;>
        simp [inlineIndicator, indicatorMembers, metricMember, hm, Option.isSome_iff_exists]
  · have hsource := showsSource_metricSource
    cases hm : i.metric with
    | threshold source =>
        simp [Metric.placedSources, inlineIndicator, indicatorMembers, metricMember, wrappedSource,
          hm, hsource]
    | ratio counter r =>
        cases r <;>
          simp [Metric.placedSources, inlineIndicator, indicatorMembers, metricMember,
            ratioMembers, wrappedSource, hm, hsource]
  · cases hm : i.metric with
    | threshold source => simp [inlineIndicator, indicatorMembers, metricMember, hm]
    | ratio counter r =>
        cases r <;>
          simp [inlineIndicator, indicatorMembers, metricMember, ratioMembers, hm]

/-- A document of an indicator holds it behind the head of the document. -/
theorem showsIndicator_indicatorDocument (i : Indicator) :
    ShowsIndicator i (indicatorDocument i) := by
  obtain ⟨⟨hname, hdisplayName, hdescription⟩, hsources, hrawType⟩ :=
    showsIndicator_inlineIndicator i
  simp only [textAt?, Has, List.cons_append, ← at?_metadata_indicatorDocument,
    ← at?_spec_indicatorDocument] at hname hdisplayName hdescription hsources hrawType
  exact ⟨⟨hname, hdisplayName, hdescription⟩, hsources, hrawType⟩

theorem showsObjective_objective (threshold : Bool) (method : String) (o : Objective) :
    ShowsObjective threshold method o (objective threshold method o) := by
  cases ho : o.target with
  | fraction x =>
      constructor
      all_goals simp [objective, targetMember, ho, Option.isSome_iff_exists, Xor]
  | percent x =>
      constructor
      all_goals simp [objective, targetMember, ho, Option.isSome_iff_exists, Xor]

theorem forall₂_map {α β γ : Type} {R : α → β → Prop} {f : γ → α} {g : γ → β} {cs : List γ}
    (h : ∀ c ∈ cs, R (f c) (g c)) : List.Forall₂ R (cs.map f) (cs.map g) := by
  rw [List.forall₂_map_left_iff, List.forall₂_map_right_iff, List.forall₂_same]
  exact h

theorem showsTemplate_objectiveDocument (mode : ThresholdObjectives) (t : ObjectiveTemplate)
    (i : Indicator) (policies : List AlertPolicy) :
    ShowsTemplate mode t i (objectiveDocument mode t i policies) := by
  constructor
  · refine showsNames_kindDocument ?_
    cases t.indicator <;> simp [bindingMember, Option.isSome_iff_exists]
  · intro own hown
    refine ⟨_, ?_, showsIndicator_inlineIndicator own⟩
    simp [objectiveDocument, kindDocument, bindingMember, hown]
  · cases hi : t.indicator <;>
      simp [objectiveDocument, kindDocument, bindingMember, timeWindow, hi,
        Option.isSome_iff_exists]
  · refine ⟨objectives mode t i, ?_, ?_⟩
    · cases hi : t.indicator <;> simp [objectiveDocument, kindDocument, bindingMember, hi]
    · simp only [objectives, Bool.and_eq_true, decide_eq_true_eq]
      split
      · rfl
      · rw [List.forall₂_map_right_iff, List.forall₂_same]
        exact fun o _ => showsObjective_objective _ _ o

theorem showsNames_alertCondition (c : AlertCondition) :
    ShowsNames c.name c.displayName c.description (alertCondition c) := by
  constructor
  all_goals simp [alertCondition, metadata, textAt?, Option.isSome_iff_exists]

theorem showsPolicy_policyDocument (p : AlertPolicy) : ShowsPolicy p (policyDocument p) := by
  constructor
  · refine showsNames_kindDocument ?_
    simp [Option.isSome_iff_exists]
  · refine ⟨p.conditions.map alertCondition, by simp [policyDocument, kindDocument], ?_⟩
    rw [List.forall₂_map_right_iff, List.forall₂_same]
    exact fun c _ => showsNames_alertCondition c

/-- Every document of a selection shows what it is about. -/
theorem Selection.forall₂_documents (x : Selection) (mode : ThresholdObjectives)
    (t : ObjectiveTemplate) :
    List.Forall₂ (Subject.IsShown mode) (x.subjects t) (x.documents mode t) := by
  have hindicator : List.Forall₂ (Subject.IsShown mode)
      (.template t x.indicator :: match t.indicator with
        | .builtIn _ => []
        | .external _ => [.indicator x.indicator])
      (objectiveDocument mode t x.indicator x.policies :: match t.indicator with
        | .builtIn _ => []
        | .external _ => [indicatorDocument x.indicator]) := by
    refine .cons (showsTemplate_objectiveDocument mode t x.indicator x.policies) ?_
    cases t.indicator with
    | builtIn own => exact .nil
    | external name => exact .cons (showsIndicator_indicatorDocument x.indicator) .nil
  refine List.rel_append
    (List.rel_append (List.rel_append (List.rel_append hindicator ?_) ?_) ?_) ?_
  · exact forall₂_map fun p _ => showsPolicy_policyDocument p
  · refine forall₂_map fun n _ => showsNames_kindDocument ?_
    simp [Option.isSome_iff_exists]
  · refine .cons (showsNames_kindDocument ?_) .nil
    simp [Option.isSome_iff_exists]
  · refine forall₂_map fun s _ => showsNames_kindDocument ?_
    simp [Option.isSome_iff_exists]

/-! ## Nulls -/

section

variable {places : List PathStep → Prop}

@[simp] theorem nullFree_metadata (name : String) (displayName : Option String) :
    (metadata name displayName).NullFree := by
  simp [metadata]

@[simp] theorem nullFree_toValue (n : Number) : n.toValue.NullFree := by
  cases n with
  | integer k => simp [Number.toValue]
  | decimal x => cases x <;> simp [Number.toValue]

@[simp] theorem nullFree_sliceWindow (w : SliceWindow) : (sliceWindow w).NullFree := by
  cases w <;> simp [sliceWindow]

@[simp] theorem nullFree_timeWindow (w : TimeWindow) : (timeWindow w).NullFree := by
  simp [timeWindow, calendar]

/-- A target that is not finite would be written as null. -/
theorem nullFree_targetMember {t : Target} (h : t.IsFinite) :
    ∀ v ∈ (targetMember t).2, v.NullFree := by
  cases t with
  | fraction x =>
      obtain ⟨y, rfl⟩ := h
      simp [targetMember, doubleValue, Numeral.Double.toFinite?]
  | percent x =>
      obtain ⟨y, rfl⟩ := h
      simp [targetMember, doubleValue, Numeral.Double.toFinite?]

theorem nullFree_objective {o : Objective} (h : o.target.IsFinite) (threshold : Bool)
    (method : String) : (objective threshold method o).NullFree := by
  have htarget := nullFree_targetMember h
  simp only [objective, nullFree_record, List.forall_mem_cons]
  refine ⟨?_, ?_, ?_, htarget, ?_, ?_, by simp⟩
  all_goals (try split) <;> simp

@[simp] theorem nullFree_alertCondition (c : AlertCondition) : (alertCondition c).NullFree := by
  simp [alertCondition, trigger]

theorem nullFree_kindDocument {kind name : String} {displayName : Option String} {spec : Value} :
    (kindDocument kind name displayName spec).NullFree ↔ spec.NullFree := by
  simp [kindDocument, apiVersion]

theorem nullsBehind_kindDocument {kind name : String} {displayName : Option String} {spec : Value}
    (h : spec.NullsBehind (placesBehind (.member "spec") places)) :
    (kindDocument kind name displayName spec).NullsBehind places := by
  refine nullsBehind_map ?_
  simp only [List.forall_mem_cons]
  exact ⟨(nullFree_text _).nullsBehind, (nullFree_text _).nullsBehind,
    (nullFree_metadata name displayName).nullsBehind, h, nofun⟩

theorem nullFree_of_mem_map_text {o : Option String} {v : Value} (h : v ∈ o.map text) :
    v.NullFree := by
  obtain ⟨s, -, rfl⟩ := Option.map_eq_some_iff.mp h
  exact nullFree_text s

/-- The query of a metric source is the only thing in it that may hold nulls. -/
theorem nullsBehind_wrappedSource (s : MetricSource)
    (h : places [.member "metricSource", .member "spec"]) :
    (wrappedSource s).NullsBehind places := by
  refine nullsBehind_map (List.forall_mem_singleton.mpr (nullsBehind_record ?_))
  simp only [List.forall_mem_cons]
  exact ⟨fun _ hv => (nullFree_of_mem_map_text hv).nullsBehind,
    fun _ hv => (nullFree_of_mem_map_text hv).nullsBehind, fun _ _ => nullsBehind_of_nil h, nofun⟩

/-- In a ratio, each source stands under a key of its own. -/
theorem nullsBehind_ratioMembers (r : Ratio)
    (h : ∀ key ∈ ["good", "bad", "total", "raw"],
      places [.member key, .member "metricSource", .member "spec"]) :
    ∀ m ∈ ratioMembers r, ∀ v ∈ m.2, v.NullsBehind (placesBehind (.member m.1) places) := by
  have hsource : ∀ key ∈ ["good", "bad", "total", "raw"], ∀ source,
      (wrappedSource source).NullsBehind (placesBehind (.member key) places) :=
    fun key hkey source => nullsBehind_wrappedSource source (h key hkey)
  cases r with
  | goodTotal good total => simp [ratioMembers, hsource]
  | badTotal bad total => simp [ratioMembers, hsource]
  | raw kind source =>
      have hkind : ∀ v ∈ kind.map text, v.NullsBehind (placesBehind (.member "rawType") places) :=
        fun v hv => (nullFree_of_mem_map_text hv).nullsBehind
      exact List.forall_mem_cons.mpr ⟨hkind, by simp [hsource]⟩

theorem nullsBehind_indicatorMembers (i : Indicator)
    (h : ∀ path ∈ sourcePaths,
      places (("spec" :: path ++ ["metricSource", "spec"]).map .member)) :
    ∀ e ∈ indicatorMembers i, e.2.NullsBehind (placesBehind (.member e.1) places) := by
  have hdescription : ∀ v ∈ i.description.map text, v.NullsBehind
      (placesBehind (.member "description") (placesBehind (.member "spec") places)) :=
    fun v hv => (nullFree_of_mem_map_text hv).nullsBehind
  have hmetric : ∀ v ∈ (metricMember i.metric).2, v.NullsBehind (placesBehind
      (.member (metricMember i.metric).1) (placesBehind (.member "spec") places)) := by
    cases i.metric with
    | threshold source =>
        rintro v ⟨rfl⟩
        exact nullsBehind_wrappedSource source (h ["thresholdMetric"] (by simp [sourcePaths]))
    | ratio counter r =>
        rintro v ⟨rfl⟩
        refine nullsBehind_record (List.forall_mem_cons.mpr ⟨?_, nullsBehind_ratioMembers r ?_⟩)
        · rintro v ⟨rfl⟩
          exact (nullFree_bool counter).nullsBehind
        · intro key hkey
          refine h ["ratioMetric", key] ?_
          revert key
          decide
  refine List.forall_mem_cons.mpr ⟨(nullFree_metadata _ _).nullsBehind, ?_⟩
  refine List.forall_mem_singleton.mpr (nullsBehind_record ?_)
  exact List.forall_mem_cons.mpr ⟨hdescription, List.forall_mem_singleton.mpr hmetric⟩

theorem nullsBehind_inlineIndicator (i : Indicator)
    (h : ∀ path ∈ sourcePaths,
      places (("spec" :: path ++ ["metricSource", "spec"]).map .member)) :
    (inlineIndicator i).NullsBehind places :=
  nullsBehind_map (nullsBehind_indicatorMembers i h)

end

theorem nullFree_objectives {t : ObjectiveTemplate} (ht : ∀ o ∈ t.objectives, o.target.IsFinite)
    (mode : ThresholdObjectives) (i : Indicator) : ∀ v ∈ objectives mode t i, v.NullFree := by
  unfold objectives
  split
  · simp
  · intro v hv
    obtain ⟨o, ho, rfl⟩ := List.mem_map.mp hv
    exact nullFree_objective (ht o ho) _ _

/-- A document of a template holds the queries of the indicator that is written into it. -/
theorem nullsBehind_objectiveDocument {t : ObjectiveTemplate}
    (ht : ∀ o ∈ t.objectives, o.target.IsFinite) (mode : ThresholdObjectives) (i : Indicator)
    (policies : List AlertPolicy) :
    (objectiveDocument mode t i policies).NullsBehind (· ∈ queryPlaces) := by
  have hbinding : ∀ v ∈ (bindingMember t.indicator).2,
      v.NullsBehind (placesBehind (.member (bindingMember t.indicator).1)
        (placesBehind (.member "spec") (· ∈ queryPlaces))) := by
    have hplaces : ∀ path ∈ sourcePaths,
        .member "spec" :: .member "indicator" ::
          ("spec" :: path ++ ["metricSource", "spec"]).map .member ∈ queryPlaces := by
      decide
    cases t.indicator with
    | builtIn own =>
        rintro v ⟨rfl⟩
        exact nullsBehind_inlineIndicator own hplaces
    | external name =>
        rintro v ⟨rfl⟩
        exact (nullFree_text name).nullsBehind
  have hrest : ∀ m ∈ [("description", t.description.map text), ("service", some (text t.service)),
      ("timeWindow", some (timeWindow t.timeWindow)),
      ("budgetingMethod", some (text t.budgetingMethod)),
      ("objectives", some (list (objectives mode t i))),
      ("alertPolicies", some (list (policies.map fun p => text p.name)))],
      ∀ v ∈ m.2, v.NullFree := by
    simpa using nullFree_objectives ht mode i
  refine nullsBehind_kindDocument (nullsBehind_record fun m hm => ?_)
  by_cases hm' : m = bindingMember t.indicator
  · rw [hm']
    exact hbinding
  · intro v hv
    exact (hrest m (by simpa [hm'] using hm) v hv).nullsBehind

theorem nullsBehind_indicatorDocument (i : Indicator) :
    (indicatorDocument i).NullsBehind (· ∈ queryPlaces) := by
  refine nullsBehind_map (List.forall_mem_cons.mpr ⟨(nullFree_text _).nullsBehind, ?_⟩)
  refine List.forall_mem_cons.mpr ⟨(nullFree_text _).nullsBehind, ?_⟩
  exact nullsBehind_indicatorMembers i (by decide)

theorem Selection.nullsBehind_documents {x : Selection} {mode : ThresholdObjectives}
    {t : ObjectiveTemplate} (ht : ∀ o ∈ t.objectives, o.target.IsFinite) :
    ∀ d ∈ x.documents mode t, d.NullsBehind (· ∈ queryPlaces) := by
  intro d hd
  simp only [documents, List.mem_append, List.mem_cons, List.mem_map, List.not_mem_nil,
    or_false] at hd
  obtain (((((rfl | hd) | ⟨p, hp, rfl⟩) | ⟨n, hn, rfl⟩) | rfl) | ⟨source, hsource, rfl⟩) := hd
  · exact nullsBehind_objectiveDocument ht mode x.indicator x.policies
  · cases hbinding : t.indicator with
    | builtIn own =>
        rw [hbinding] at hd
        cases hd
    | external name =>
        rw [hbinding] at hd
        obtain rfl := List.mem_singleton.mp hd
        exact nullsBehind_indicatorDocument x.indicator
  · exact NullFree.nullsBehind (by simp [policyDocument, nullFree_kindDocument])
  · exact NullFree.nullsBehind (by simp [targetDocument, nullFree_kindDocument])
  · exact NullFree.nullsBehind (by simp [serviceDocument, nullFree_kindDocument])
  · exact NullFree.nullsBehind (by simp [dataSourceDocument, nullFree_kindDocument])

/-- A bundle of a specification that is read shows what is given and leaves out what is not: every
document has an optional key exactly if there is something to write under it, and no null stands
outside a query. -/
theorem renderTemplate_showsSubjects {mode : ThresholdObjectives} {s : Specification}
    {baseName : String} {t : ObjectiveTemplate} {b : ReliabilityBundle} (hs : s.IsRead)
    (ht : t ∈ s.objectiveTemplates) (h : renderTemplate mode s baseName t = .ok b) :
    ∃ x : Selection, x.Resolves s t ∧
      List.Forall₂ (Subject.IsShown mode) (x.subjects t) b.documents ∧
        ∀ d ∈ b.documents, d.NullsBehind (· ∈ queryPlaces) := by
  obtain ⟨x, hx, rfl⟩ := renderTemplate_eq_ok h
  exact ⟨x, hx, x.forall₂_documents mode t, Selection.nullsBehind_documents (hs.targetsFinite t ht)⟩

/-! ## A bundle that leaves things out -/

/-- A specification whose query holds a null. It has a window of a time slice, and a target of one
that its budgeting method does not ask for. -/
def answersDocument : Value :=
  .map [("name", .text "Shop"),
    ("services", .list [.map [("name", .text "shop"), ("display_name", .text "The shop")]]),
    ("slo_templates", .list [.map [("name", .text "answers"), ("service", .text "shop"),
      ("indicator", .map [("built_in", .map [("name", .text "answered"),
        ("description", .text "Answers in time"), ("metric", .map [("threshold",
          .map [("metric_source", .map [("source_type", .text "Prometheus"),
            ("spec", .map [("query", .list [.null, .int 5])])])])])])]),
      ("time_window", .map [("duration", .list [.int 28, .text "d"]), ("calendar", .null)]),
      ("budgeting_method", .text "RatioTimeslices"),
      ("objectives", .list [.map [("operator", .text "lte"),
        ("target", .map [("percent", .int 99)]), ("time_slice_target", .int 1),
        ("time_slice_window", .map [("numeric", .int 5)])]])]])]

def answersTemplate : ObjectiveTemplate where
  name := "answers"
  displayName := none
  description := none
  service := "shop"
  indicator := .builtIn ⟨"answered", none, some "Answers in time",
    .threshold ⟨none, some "Prometheus", some (.map [("query", .list [.null, .int 5])])⟩⟩
  timeWindow := ⟨⟨.integer 28, "d"⟩, none, true⟩
  budgetingMethod := "RatioTimeslices"
  objectives := [⟨none, some "lte", none, .percent (.ofInt 99), some (.integer 1),
    some (.numeric (.integer 5))⟩]
  externalPolicies := []
  builtInPolicies := []

def answersSpecification : Specification where
  name := "Shop"
  version := none
  description := none
  dataTypes := []
  endpoints := []
  agreementTemplates := []
  objectiveTemplates := [answersTemplate]
  indicators := []
  alertPolicies := []
  notificationTargets := []
  dataSources := []
  services := [⟨"shop", some "The shop", none⟩]

/-- The documents of the objective and of its service. -/
def answersBundle : ReliabilityBundle where
  fileName := "shop-openslo-answers.yaml"
  template := "answers"
  documents := [objectiveDocument .full answersTemplate ⟨"answered", none, some "Answers in time",
      .threshold ⟨none, some "Prometheus", some (.map [("query", .list [.null, .int 5])])⟩⟩ [],
    serviceDocument ⟨"shop", some "The shop", none⟩]

theorem renderTemplate_showsSubjects_answers :
    answersSpecification.IsRead ∧ answersTemplate ∈ answersSpecification.objectiveTemplates ∧
      renderTemplate .full answersSpecification "shop" answersTemplate = .ok answersBundle ∧
      ∃ x : Selection, x.Resolves answersSpecification answersTemplate ∧
        List.Forall₂ (Subject.IsShown .full) (x.subjects answersTemplate) answersBundle.documents ∧
          ∀ d ∈ answersBundle.documents, d.NullsBehind (· ∈ queryPlaces) := by
  have hsound : answersDocument.IsSound := by
    simp +decide [answersDocument, everywhere_map_iff, everywhere_list_iff, IsStorable]
  have hread : answersSpecification.IsRead := .tree hsound (by decide +kernel)
  have ht : answersTemplate ∈ answersSpecification.objectiveTemplates := List.mem_singleton_self _
  have hrender : renderTemplate .full answersSpecification "shop" answersTemplate =
      .ok answersBundle := by decide +kernel
  exact ⟨hread, ht, hrender, renderTemplate_showsSubjects hread ht hrender⟩

end Reliability

end ServiceContract
