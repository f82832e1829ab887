import Mathlib.Data.List.Forall2
import ServiceContract.Proofs.Reliability.Limits
import ServiceContract.Proofs.Reliability.Resolution

/-!
# Operators that compare nothing

An operator is remarked on where a rendered objective leaves it out, and nowhere else: the check of
objectives and their rendering take the same indicator for that of a template.
-/

namespace ServiceContract

/-- A remark that something is not necessary. -/
def Finding.isNeedless (f : Finding) : Bool := f.code = .notNecessary

/-- The objectives in the document of a template. -/
def ReliabilityBundle.shownObjectives (b : ReliabilityBundle) : List Value :=
  b.documents.head?.elim [] (·.itemsAt ["spec", "objectives"])

namespace Reliability

/-- An operator that is declared, but not shown. -/
def isIdle (o : Objective) (shown : Value) : Bool := o.operator.isSome && (shown.at? ["op"]).isNone

/-- Where the objectives of a template have an operator that its bundle does not show. -/
def idlePositions (t : ObjectiveTemplate) (b : ReliabilityBundle) : List ℕ :=
  (t.objectives.zip b.shownObjectives).findIdxs fun (o, shown) => isIdle o shown

/-- The remark on the operator of an objective. -/
def idleFinding (t : ObjectiveTemplate) (position : ℕ) : Finding where
  code := .notNecessary
  subject := "slo_templates." ++ t.name ++ ".objectives[" ++ toString position ++ "]" ++ ".operator"
  message := "comparison operator only applies to threshold metrics"

/-- The remarks on a specification are those on the operators that its bundles do not show. -/
structure RemarksOnIdle (limits : FindingSettings) (s : Specification)
    (bs : List ReliabilityBundle) : Prop where
  /-- Every objective is shown. -/
  shown : List.Forall₂ (fun t b => b.shownObjectives.length = t.objectives.length)
    s.objectiveTemplates bs
  templates : List.Forall₂ (fun t b => (t.findings limits s.indicators).filter Finding.isNeedless =
    (idlePositions t b).map (idleFinding t)) s.objectiveTemplates bs
  count : (s.findings limits).countP Finding.isNeedless =
    (List.zipWith (fun t b => (idlePositions t b).length) s.objectiveTemplates bs).sum

end Reliability

/-! ## Remarks that something is not necessary -/

variable {limits : FindingSettings} {subject : String}

theorem filter_findingIf {condition : Bool} {code : FindingCode} {message : String}
    (h : code ≠ .notNecessary) :
    (findingIf condition code subject message).filter Finding.isNeedless = [] := by
  cases condition <;> simp [findingIf, Finding.isNeedless, h]

@[simp] theorem filter_name (name : String) :
    (limits.name subject name).filter Finding.isNeedless = [] := filter_findingIf (by decide)

@[simp] theorem filter_named (name : String) (description : Option String) :
    (limits.named subject name description).filter Finding.isNeedless = [] := by
  rw [FindingSettings.named, List.filter_append, filter_name]
  exact filter_findingIf (by decide)

@[simp] theorem filter_indicator (i : Indicator) :
    (i.findings limits subject).filter Finding.isNeedless = [] := by
  rw [Indicator.findings, List.filter_append, filter_name]
  exact filter_findingIf (by decide)

@[simp] theorem filter_policy (p : AlertPolicy) :
    (p.findings limits subject).filter Finding.isNeedless = [] := by
  simp [AlertPolicy.findings, List.filter_flatMap]

@[simp] theorem filter_timeWindow (w : TimeWindow) :
    (w.findings subject).filter Finding.isNeedless = [] := filter_findingIf (by decide)

@[simp] theorem filter_binding (binding : IndicatorBinding) :
    (binding.findings limits subject).filter Finding.isNeedless = [] := by
  cases binding with
  | builtIn i => exact filter_indicator i
  | external name => rfl

@[simp] theorem filter_dataSource (d : DataSource) :
    (d.findings limits).filter Finding.isNeedless = [] := by
  have hurl : (d.urlFindings limits ("data_sources." ++ d.name)).filter
      Finding.isNeedless = [] := by
    unfold DataSource.urlFindings
    cases Url.scheme d.url with
    | error fault => rfl
    | ok scheme => exact filter_findingIf (by decide)
  rw [DataSource.findings, List.filter_append, filter_named, hurl, List.append_nil]

theorem filter_objective (threshold : Bool) (o : Objective) :
    (o.findings subject threshold).filter Finding.isNeedless =
      findingIf (!threshold && o.operator.isSome) .notNecessary (subject ++ ".operator")
        "comparison operator only applies to threshold metrics" := by
  have htarget : (o.target.findings subject).filter Finding.isNeedless = [] := by
    cases o.target <;> exact filter_findingIf (by decide)
  rw [Objective.findings, List.filter_append, htarget, List.nil_append]
  cases !threshold && o.operator.isSome <;> rfl

/-- What is said of the elements of a list with a property, by their positions. -/
theorem flatMap_zipIdx_eq_map_findIdxs {α β : Type} (p : α → Bool) (f : ℕ → β) (as : List α)
    (n : ℕ) : ((as.zipIdx n).flatMap fun (a, i) => if p a then [f i] else []) =
      (as.findIdxs p n).map f := by
  induction as generalizing n with
  | nil => rfl
  | cons a rest ih =>
      rw [List.zipIdx_cons, List.flatMap_cons, ih, List.findIdxs_cons]
      cases ha : p a <;> simp [ha]

/-- A template is remarked on for each operator, unless its indicator is a threshold. -/
theorem filter_template (t : ObjectiveTemplate) (declared : List Indicator) :
    (t.findings limits declared).filter Finding.isNeedless =
      (t.objectives.findIdxs fun o =>
        !(t.indicator.resolve? declared).any (·.metric.isThreshold) && o.operator.isSome).map
          (Reliability.idleFinding t) := by
  have hpolicies : ∀ path : AlertPolicy → String, ((t.builtInPolicies.flatMap fun p =>
      p.findings limits (path p)).filter Finding.isNeedless) = [] := by
    simp [List.filter_flatMap]
  rw [← flatMap_zipIdx_eq_map_findIdxs]
  simp only [ObjectiveTemplate.findings, List.filter_append, filter_named, filter_timeWindow,
    filter_binding, hpolicies, List.nil_append, List.append_nil, List.filter_flatMap,
    filter_objective]
  rfl

/-- Nothing but the objectives of templates is remarked on in this way. -/
theorem filter_specification (s : Specification) :
    (s.findings limits).filter Finding.isNeedless =
      s.objectiveTemplates.flatMap fun t =>
        (t.findings limits s.indicators).filter Finding.isNeedless := by
  simp [Specification.findings, List.filter_flatMap]

namespace Reliability

variable {s : Specification} {t : ObjectiveTemplate} {baseName : String} {b : ReliabilityBundle}

/-! ## Objectives that are shown -/

/-- In full, the objectives of a template are shown one by one. -/
theorem shownObjectives_eq (h : renderTemplate .full s baseName t = .ok b) :
    ∃ i, t.indicator.resolve? s.indicators = some i ∧
      b.shownObjectives = t.objectives.map (objective i.metric.isThreshold t.budgetingMethod) := by
  rcases renderTemplate_eq_ok h with ⟨x, hx, rfl⟩
  refine ⟨x.indicator, ?_, ?_⟩
  · have hindicator := hx.indicator
    cases hbinding : t.indicator with
    | builtIn i =>
        rw [hbinding] at hindicator
        rw [hindicator]
        rfl
    | external name =>
        rw [hbinding] at hindicator
        exact hindicator
  · have hitems : ReliabilityBundle.shownObjectives
        ⟨fileName baseName t.name, t.name, x.documents .full t⟩ =
          (objectiveDocument .full t x.indicator x.policies).itemsAt ["spec", "objectives"] := rfl
    rw [hitems, itemsAt_objectiveDocument, objectives]
    simp

/-- A shown objective leaves its operator out unless it is that of a threshold. -/
theorem isIdle_objective (threshold : Bool) (method : String) (o : Objective) :
    isIdle o (objective threshold method o) = (!threshold && o.operator.isSome) := by
  cases hthreshold : threshold with
  | false => cases htarget : o.target <;> simp [isIdle, objective, targetMember, htarget]
  | true => cases hoperator : o.operator <;> simp [isIdle, objective, hoperator]

theorem filter_findings_eq (h : renderTemplate .full s baseName t = .ok b) :
    (t.findings limits s.indicators).filter Finding.isNeedless =
      (idlePositions t b).map (idleFinding t) := by
  rcases shownObjectives_eq h with ⟨i, hi, hshown⟩
  have hpairs : t.objectives.zip b.shownObjectives = t.objectives.map fun o =>
      (o, objective i.metric.isThreshold t.budgetingMethod o) := by
    rw [hshown, ← List.zip_map', List.map_id']
  rw [filter_template, hi, idlePositions, hpairs, List.findIdxs_map]
  congr 2
  funext o
  exact (isIdle_objective i.metric.isThreshold t.budgetingMethod o).symm

/-! ## Whole specifications -/

/-- Templates that can be rendered in one way can be rendered in every way. -/
theorem exists_renderTemplates {mode : ThresholdObjectives} {baseName' : String} (baseName : String)
    (h : ∀ t ∈ s.objectiveTemplates, ∃ b, renderTemplate mode s baseName' t = .ok b) :
    ∃ bs, renderTemplates .full s baseName s.objectiveTemplates = .ok bs := by
  rw [renderTemplates_eq, exists_mapM_eq_ok]
  intro t ht
  rw [(renderTemplate_settles .full baseName).exists_ok_iff,
    ← (renderTemplate_settles mode baseName').exists_ok_iff]
  exact h t ht

theorem forall₂_of_renderTemplates {mode : ThresholdObjectives} {ts : List ObjectiveTemplate}
    {bs : List ReliabilityBundle} (h : renderTemplates mode s baseName ts = .ok bs) :
    List.Forall₂ (fun t b => renderTemplate mode s baseName t = .ok b) ts bs := by
  rw [renderTemplates_eq, mapM_eq_ok] at h
  have hpairs : List.Forall₂ (· = ·) (ts.map (renderTemplate mode s baseName)) (bs.map .ok) := by
    rw [List.forall₂_eq_eq_eq, h]
  simpa only [List.forall₂_map_left_iff, List.forall₂_map_right_iff] using hpairs

theorem length_flatMap_eq_sum {α β γ : Type} {f : α → List γ} {g : α → β → ℕ} {as : List α}
    {bs : List β} (h : List.Forall₂ (fun a b => (f a).length = g a b) as bs) :
    (as.flatMap f).length = (List.zipWith g as bs).sum := by
  induction h with
  | nil => rfl
  | cons hab _ ih =>
      rw [List.flatMap_cons, List.length_append, List.zipWith_cons_cons, List.sum_cons, hab, ih]

/-- Where all templates can be rendered, an operator is remarked on exactly where the objective that
is shown in full leaves it out. -/
theorem renderTemplates_remarksOnIdle {mode : ThresholdObjectives} {baseName' : String}
    (limits : FindingSettings) (baseName : String)
    (h : ∀ t ∈ s.objectiveTemplates, ∃ b, renderTemplate mode s baseName' t = .ok b) :
    ∃ bs, renderTemplates .full s baseName s.objectiveTemplates = .ok bs ∧
      RemarksOnIdle limits s bs := by
  rcases exists_renderTemplates baseName h with ⟨bs, hbs⟩
  have hrendered := forall₂_of_renderTemplates hbs
  have htemplates : List.Forall₂ (fun t b => (t.findings limits s.indicators).filter
      Finding.isNeedless = (idlePositions t b).map (idleFinding t)) s.objectiveTemplates bs := by
    apply hrendered.imp
    intro t b hb
    exact filter_findings_eq hb
  refine ⟨bs, hbs, ?_, htemplates, ?_⟩
  · apply hrendered.imp
    intro t b hb
    rcases shownObjectives_eq hb with ⟨i, -, hshown⟩
    rw [hshown, List.length_map]
  · rw [List.countP_eq_length_filter, filter_specification]
    apply length_flatMap_eq_sum
    apply htemplates.imp
    intro t b hfound
    rw [hfound, List.length_map]

/-- An objective that may have an operator. -/
def comparing (operator : Option String) : Objective :=
  ⟨none, operator, none, .fraction (.ofDecimal false 99 (-2)), none, none⟩

/-- The checkout with operators. The first indicator of its name is no threshold; another is. -/
def comparingTemplate : ObjectiveTemplate :=
  { checkoutTemplate with
    objectives := [comparing (some "lt"), comparing none, comparing (some "gte")] }

/-- The same operators where the indicator is a threshold. -/
def comparedTemplate : ObjectiveTemplate :=
  { comparingTemplate with
    name := "delay"
    indicator := .builtIn ⟨"delay", none, none, .threshold (readFrom "metrics")⟩ }

def comparingSpecification : Specification :=
  { checkoutSpecification with objectiveTemplates := [comparingTemplate, comparedTemplate] }

theorem renderTemplates_remarksOnIdle_comparing :
    (∀ t ∈ comparingSpecification.objectiveTemplates,
      ∃ b, renderTemplate .placeholder comparingSpecification "shop" t = .ok b) ∧
    (∃ bs, RemarksOnIdle {} comparingSpecification bs) ∧
    ((comparingTemplate.findings {} comparingSpecification.indicators).filter
      Finding.isNeedless) = [idleFinding comparingTemplate 0, idleFinding comparingTemplate 2] ∧
    (comparingSpecification.findings {}).countP Finding.isNeedless = 2 := by
  have hrendered : ∀ t ∈ comparingSpecification.objectiveTemplates,
      ∃ b, renderTemplate .placeholder comparingSpecification "shop" t = .ok b := by
    intro t ht
    rw [(renderTemplate_settles .placeholder "shop").exists_ok_iff]
    revert t
    decide +kernel
  rcases renderTemplates_remarksOnIdle {} "shop" hrendered with ⟨bs, -, hbs⟩
  exact ⟨hrendered, ⟨bs, hbs⟩, by decide +kernel, by decide +kernel⟩

end Reliability

end ServiceContract
