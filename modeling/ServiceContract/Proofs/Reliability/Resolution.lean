import ServiceContract.Proofs.Reliability.Bundle

/-!
# Names that lead nowhere

What a template names is looked up in a fixed order. Its bundle is rendered exactly when every name
is declared; otherwise the error gives the first name that is not, also where a name is asked for
twice and looked up once.
-/

namespace ServiceContract

/-! ## Names and where they are declared -/

/-- A name that has to be declared for something of a kind. -/
structure Lookup where
  kind : ReferenceKind
  name : String
deriving DecidableEq

/-- The names that are declared for things of a kind. -/
def Specification.names (s : Specification) : ReferenceKind → List String
  | .indicator => s.indicators.map (·.name)
  | .alertPolicy => s.alertPolicies.map (·.name)
  | .notificationTarget => s.notificationTargets.map (·.name)
  | .service => s.services.map (·.name)
  | .dataSource => s.dataSources.map (·.name)

namespace Lookup

/-- What is looked up is declared. -/
def Succeeds (l : Lookup) (s : Specification) : Prop := l.name ∈ s.names l.kind

instance (l : Lookup) (s : Specification) : Decidable (l.Succeeds s) :=
  inferInstanceAs (Decidable (l.name ∈ s.names l.kind))

/-- What is said where a look-up fails. -/
def error (l : Lookup) : GenerationError := .unresolvedReference l.kind l.name

end Lookup

namespace Reliability

/-- The indicator of a template, unless it is named and not declared. -/
def indicator? (s : Specification) (t : ObjectiveTemplate) : Option Indicator :=
  match t.indicator with
  | .builtIn i => some i
  | .external name => s.indicators.find? (·.name = name)

/-- Look-ups of names of one kind. -/
def lookUp (kind : ReferenceKind) (names : List String) : List Lookup := names.map (⟨kind, ·⟩)

/-- What a template has to have declared, in the order in which it is looked up: its indicator if it
names one, the alert policies that it names, the targets of the policies that it keeps, its service,
and the data sources of its indicator. -/
def lookups (s : Specification) (t : ObjectiveTemplate) : List Lookup :=
  lookUp .indicator t.indicatorName.toList ++ (lookUp .alertPolicy t.externalPolicies ++
    (lookUp .notificationTarget
        (((policyNames t).filterMap (policy? s t)).flatMap (·.targets)) ++
      (lookUp .service [t.service] ++
        lookUp .dataSource
          (((indicator? s t).elim [] (·.metric.sources)).filterMap (·.dataSource)))))

/-! ## The first look-up that fails -/

variable {α β : Type} {s : Specification}

/-- A computation succeeds if all look-ups do, and otherwise it fails with the first that does. -/
def Settles (s : Specification) (ls : List Lookup) (x : Except GenerationError α) : Prop :=
  match ls.find? fun l => ¬ l.Succeeds s with
  | none => ∃ a, x = .ok a
  | some l => x = .error l.error

namespace Settles

theorem nil (a : α) : Settles s [] (.ok a) := ⟨a, rfl⟩

/-- What comes second is looked up if the first has succeeded. -/
theorem bind {ls more : List Lookup} {x : Except GenerationError α}
    {f : α → Except GenerationError β} (hx : Settles s ls x)
    (hf : ∀ a, x = .ok a → Settles s more (f a)) : Settles s (ls ++ more) (x >>= f) := by
  unfold Settles at hx
  cases hfind : ls.find? fun l => ¬ l.Succeeds s with
  | none =>
      rw [hfind] at hx
      obtain ⟨a, ha⟩ := hx
      have hmore := hf a ha
      rw [Settles, List.find?_append, hfind, Option.none_or, ha]
      exact hmore
  | some l =>
      rw [hfind] at hx
      rw [Settles, List.find?_append, hfind, Option.some_or, hx]
      rfl

/-- What is made of a result looks up nothing more. -/
theorem bind_ok {ls : List Lookup} {x : Except GenerationError α} (hx : Settles s ls x)
    (f : α → β) : Settles s ls (x >>= fun a => .ok (f a)) := by
  have h := hx.bind fun a _ => nil (f a)
  rwa [List.append_nil] at h

theorem exists_ok_iff {ls : List Lookup} {x : Except GenerationError α} (h : Settles s ls x) :
    (∃ a, x = .ok a) ↔ ∀ l ∈ ls, l.Succeeds s := by
  unfold Settles at h
  cases hfind : ls.find? fun l => ¬ l.Succeeds s with
  | none =>
      rw [hfind] at h
      have hall : ∀ l ∈ ls, l.Succeeds s := by simpa using hfind
      exact iff_of_true h hall
  | some l =>
      rw [hfind] at h
      refine iff_of_false ?_ ?_
      · rintro ⟨a, ha⟩
        rw [h] at ha
        cases ha
      · intro hall
        have hfails : ¬ l.Succeeds s := by simpa using List.find?_some hfind
        exact hfails (hall l (List.mem_of_find?_eq_some hfind))

theorem eq_error_iff {ls : List Lookup} {x : Except GenerationError α} (h : Settles s ls x)
    {e : GenerationError} :
    x = .error e ↔ ∃ l, FirstWithout (·.Succeeds s) ls l ∧ e = l.error := by
  have hfirst : x = .error e ↔
      ∃ l, (ls.find? fun l => ¬ l.Succeeds s) = some l ∧ e = l.error := by
    unfold Settles at h
    cases hfind : ls.find? fun l => ¬ l.Succeeds s with
    | none =>
        rw [hfind] at h
        obtain ⟨a, rfl⟩ := h
        simp
    | some l =>
        rw [hfind] at h
        simp [h, eq_comm]
  rw [hfirst]
  constructor
  · rintro ⟨l, hl, rfl⟩
    obtain ⟨hfails, before, after, rfl, hbefore⟩ := List.find?_eq_some_iff_append.mp hl
    exact ⟨l, ⟨before, after, rfl, by simpa using hbefore, by simpa using hfails⟩, rfl⟩
  · rintro ⟨l, ⟨before, after, rfl, hbefore, hfails⟩, rfl⟩
    refine ⟨l, List.find?_eq_some_iff_append.mpr ⟨by simpa using hfails, before, after, rfl, ?_⟩,
      rfl⟩
    simpa using hbefore

end Settles

/-! ## Looking up names -/

/-- Asking for a name again does not change what is found first. -/
theorem find?_eraseDups (p : String → Bool) (names : List String) :
    names.eraseDups.find? p = names.find? p := by
  match names with
  | [] => rfl
  | name :: rest =>
      rw [List.eraseDups_cons, List.find?_cons, List.find?_cons]
      cases hp : p name with
      | true => rfl
      | false =>
          -- a name that is left out does not satisfy `p`, as the one that it repeats does not
          have hsame : (fun n => decide ((!n == name) = true ∧ p n = true)) = p := by
            funext n
            by_cases hn : n = name
            · simp [hn, hp]
            · simp [hn]
          rw [find?_eraseDups p (rest.filter fun n => !n == name), List.find?_filter, hsame]
termination_by names.length
decreasing_by
  have hle := List.length_filter_le (fun n => !n == name) rest
  simp only [List.length_cons]
  omega

theorem Settles.of_eraseDups {kind : ReferenceKind} {names : List String}
    {x : Except GenerationError α} (h : Settles s (lookUp kind names.eraseDups) x) :
    Settles s (lookUp kind names) x := by
  unfold Settles lookUp at h ⊢
  rw [List.find?_map, find?_eraseDups] at h
  rw [List.find?_map]
  exact h

section

variable {nameOf : α → String} {kind : ReferenceKind} {items : List α}

theorem find_settles (hnames : s.names kind = items.map nameOf) (name : String) :
    Settles s (lookUp kind [name]) (find nameOf kind items name) := by
  have hsucceeds : Lookup.Succeeds ⟨kind, name⟩ s ↔
      (items.find? fun a => nameOf a = name).isSome = true := by
    simp [Lookup.Succeeds, hnames]
  unfold Settles lookUp find
  cases hfind : items.find? fun a => nameOf a = name with
  | none => simp [hsucceeds, hfind, Lookup.error]
  | some a => simp [hsucceeds, hfind]

theorem findAll_settles (hnames : s.names kind = items.map nameOf) (names : List String) :
    Settles s (lookUp kind names) (findAll nameOf kind items names) := by
  induction names with
  | nil => exact .nil []
  | cons name rest ih =>
      have hcons : lookUp kind (name :: rest) = lookUp kind [name] ++ lookUp kind rest := rfl
      rw [hcons]
      exact (find_settles hnames name).bind fun a _ => ih.bind_ok (a :: ·)

end

/-! ## Templates -/

variable {t : ObjectiveTemplate}

theorem indicatorOf_settles :
    Settles s (lookUp .indicator t.indicatorName.toList) (indicatorOf s t) := by
  unfold indicatorOf ObjectiveTemplate.indicatorName
  cases t.indicator with
  | builtIn i => exact .nil i
  | external name => exact find_settles rfl name

theorem indicator?_of_indicatorOf {i : Indicator} (h : indicatorOf s t = .ok i) :
    indicator? s t = some i := by
  have hi := indicatorOf_eq_ok.mp h
  unfold indicator?
  cases hbinding : t.indicator with
  | builtIn own => rw [hbinding] at hi; rw [hi]
  | external name => rw [hbinding] at hi; exact hi

theorem policiesOf_settles :
    Settles s (lookUp .alertPolicy t.externalPolicies) (policiesOf s t) :=
  (findAll_settles rfl t.externalPolicies).bind_ok _

/-- The policies that are kept are those that the names of policies stand for. -/
theorem filterMap_policy?_of_policiesOf {ps : List AlertPolicy} (h : policiesOf s t = .ok ps) :
    (policyNames t).filterMap (policy? s t) = ps := by
  have hmap : (policyNames t).filterMap (policy? s t) =
      ((policyNames t).map (policy? s t)).filterMap id := by
    rw [List.filterMap_map]
    rfl
  rw [hmap, ← policiesOf_eq_ok h, List.filterMap_map]
  exact List.filterMap_some

theorem targetsOf_settles (ps : List AlertPolicy) :
    Settles s (lookUp .notificationTarget (ps.flatMap (·.targets))) (targetsOf s ps) := by
  refine Settles.of_eraseDups ?_
  rw [← distinctBy_id]
  exact findAll_settles rfl _

theorem serviceOf_settles : Settles s (lookUp .service [t.service]) (serviceOf s t) :=
  find_settles rfl t.service

theorem dataSourcesOf_settles (i : Indicator) :
    Settles s (lookUp .dataSource (i.metric.sources.filterMap (·.dataSource)))
      (dataSourcesOf s i) := by
  refine Settles.of_eraseDups ?_
  rw [← distinctBy_id]
  exact findAll_settles rfl _

/-- Rendering looks up what the template needs, in order. -/
theorem renderTemplate_settles (mode : ThresholdObjectives) (baseName : String) :
    Settles s (lookups s t) (renderTemplate mode s baseName t) := by
  refine indicatorOf_settles.bind fun i hi => policiesOf_settles.bind fun ps hps => ?_
  rw [filterMap_policy?_of_policiesOf hps, indicator?_of_indicatorOf hi]
  exact (targetsOf_settles ps).bind fun _ _ => serviceOf_settles.bind fun _ _ =>
    (dataSourcesOf_settles i).bind_ok _

/-! ## All templates -/

theorem renderTemplates_eq (mode : ThresholdObjectives) (baseName : String)
    (ts : List ObjectiveTemplate) :
    renderTemplates mode s baseName ts = ts.mapM (renderTemplate mode s baseName) := by
  induction ts with
  | nil => rfl
  | cons t rest ih => rw [List.mapM_cons, ← ih, renderTemplates]

theorem render_of_ne_nil (mode : ThresholdObjectives) (baseName : String)
    (h : s.objectiveTemplates ≠ []) :
    render mode s baseName = s.objectiveTemplates.mapM (renderTemplate mode s baseName) := by
  rw [render, if_neg (by simpa using h), renderTemplates_eq]

/-- A template can be rendered exactly when everything that is looked up for it is declared, and
otherwise the error is that of the first look-up that fails. Templates can be rendered together
exactly when each of them can, and otherwise the error is that of the first that cannot. -/
theorem render_failsFirst (mode : ThresholdObjectives) (s : Specification) (baseName : String) :
    (∀ t, ((∃ b, renderTemplate mode s baseName t = .ok b) ↔ ∀ l ∈ lookups s t, l.Succeeds s) ∧
      ∀ e, renderTemplate mode s baseName t = .error e ↔
        ∃ l, FirstWithout (·.Succeeds s) (lookups s t) l ∧ e = l.error) ∧
    (s.objectiveTemplates ≠ [] →
      ((∃ bs, render mode s baseName = .ok bs) ↔
        ∀ t ∈ s.objectiveTemplates, ∃ b, renderTemplate mode s baseName t = .ok b) ∧
      ∀ e, render mode s baseName = .error e ↔
        ∃ t, FirstWithout (fun t => ∃ b, renderTemplate mode s baseName t = .ok b)
          s.objectiveTemplates t ∧ renderTemplate mode s baseName t = .error e) := by
  constructor
  · intro t
    have hsettles := renderTemplate_settles (s := s) (t := t) mode baseName
    exact ⟨hsettles.exists_ok_iff, fun e => hsettles.eq_error_iff⟩
  · intro hsome
    rw [render_of_ne_nil mode baseName hsome]
    exact ⟨exists_mapM_eq_ok, fun e => mapM_eq_error⟩

/-- A template of a service that is not declared. The data source of its indicator is not either,
nor is a target of a policy that is not kept. -/
def refundsTemplate : ObjectiveTemplate :=
  { checkoutTemplate with
    name := "refunds"
    service := "refunds"
    indicator := .builtIn ⟨"delay", none, none, .threshold (readFrom "traces")⟩
    builtInPolicies := [alerting "page" ["nobody"], alerting "mail" ["inbox", "inbox"]] }

/-- The checkout with refunds behind it. -/
def refundsSpecification : Specification :=
  { checkoutSpecification with objectiveTemplates := [checkoutTemplate, refundsTemplate] }

theorem render_failsFirst_refunds : refundsSpecification.objectiveTemplates ≠ [] ∧
    render .full refundsSpecification "shop" =
      .error (.unresolvedReference .service "refunds") := by
  have hsome : refundsSpecification.objectiveTemplates ≠ [] := by decide
  obtain ⟨htemplate, hrender⟩ := render_failsFirst .full refundsSpecification "shop"
  -- the first template is rendered, and of the second all is declared up to its service
  have hcheckout : ∃ b, renderTemplate .full refundsSpecification "shop" checkoutTemplate = .ok b :=
    (htemplate checkoutTemplate).1.mpr (by decide)
  have hrefunds : renderTemplate .full refundsSpecification "shop" refundsTemplate =
      .error (.unresolvedReference .service "refunds") := by
    refine ((htemplate refundsTemplate).2 _).mpr ⟨⟨.service, "refunds"⟩, ?_, rfl⟩
    exact ⟨lookUp .alertPolicy ["page", "page"] ++
      lookUp .notificationTarget ["desk", "inbox", "inbox"], [⟨.dataSource, "traces"⟩], by decide,
      by decide, by decide⟩
  refine ⟨hsome, ((hrender hsome).2 _).mpr ⟨refundsTemplate, ?_, hrefunds⟩⟩
  refine ⟨[checkoutTemplate], [], rfl, by simpa using hcheckout, ?_⟩
  rintro ⟨b, hb⟩
  rw [hrefunds] at hb
  cases hb

end Reliability

end ServiceContract
