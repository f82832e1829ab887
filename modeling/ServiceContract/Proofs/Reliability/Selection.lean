import Mathlib.Data.List.Nodup
import ServiceContract.Document.Reliability
import ServiceContract.Proofs.Outcome

/-!
# What a bundle is made of

A template names an indicator, alert policies and a service; these name notification targets and
data sources. Everything is found by its name, and a name that comes again adds nothing.
-/

namespace ServiceContract

/-! ## Names in order of first occurrence -/

theorem eraseDups_nodup (names : List String) : names.eraseDups.Nodup := by
  match names with
  | [] => simp
  | name :: rest =>
      rw [List.eraseDups_cons, List.nodup_cons, List.mem_eraseDups]
      exact ⟨by simp, eraseDups_nodup (rest.filter fun n => !n == name)⟩
termination_by names.length
decreasing_by
  have hle := List.length_filter_le (fun n => !n == name) rest
  simp only [List.length_cons]
  omega

/-- The name of the indicator that a template refers to, if it does not hold one. -/
def ObjectiveTemplate.indicatorName (t : ObjectiveTemplate) : Option String :=
  match t.indicator with
  | .builtIn _ => none
  | .external name => some name

namespace Reliability

section

variable {α : Type} (key : α → String)

/-- The items that are kept have the keys that are new, each where it occurs first. -/
theorem map_distinctBy (seen : List String) (xs : List α) :
    (distinctBy key seen xs).map key = ((xs.map key).removeAll seen).eraseDups := by
  induction xs generalizing seen with
  | nil => simp [distinctBy]
  | cons a rest ih =>
      by_cases ha : key a ∈ seen
      · simp [distinctBy, List.cons_removeAll, ha, ih]
      · -- dropping a name from the rest is the same as having seen it
        have hrest : ((rest.map key).removeAll seen).filter (fun n => !n == key a) =
            (rest.map key).removeAll (key a :: seen) := by
          rw [List.removeAll, List.removeAll, List.filter_filter]
          exact List.filter_congr fun n _ => by simp [Bool.beq_eq_decide_eq]
        simp [distinctBy, List.cons_removeAll, ha, ih, List.eraseDups_cons, hrest]

/-- An item that is kept is the first under its key. -/
theorem find?_of_mem_distinctBy {seen : List String} {xs : List α} {a : α}
    (ha : a ∈ distinctBy key seen xs) :
    key a ∉ seen ∧ xs.find? (fun x => key x = key a) = some a := by
  induction xs generalizing seen with
  | nil => simp [distinctBy] at ha
  | cons x rest ih =>
      by_cases hx : key x ∈ seen
      · obtain ⟨hnew, hfind⟩ := ih (by simpa [distinctBy, hx] using ha)
        have hne : key x ≠ key a := fun he => hnew (he ▸ hx)
        exact ⟨hnew, by rw [List.find?_cons_of_neg (by simp [hne]), hfind]⟩
      · have hmem : a = x ∨ a ∈ distinctBy key (key x :: seen) rest := by
          simpa [distinctBy, hx] using ha
        rcases hmem with rfl | hmem
        · exact ⟨hx, List.find?_cons_of_pos (by simp)⟩
        · obtain ⟨hnew, hfind⟩ := ih hmem
          simp only [List.mem_cons, not_or] at hnew
          exact ⟨hnew.2, by rw [List.find?_cons_of_neg (by simp [Ne.symm hnew.1]), hfind]⟩

/-- What is kept is the first item under each key. -/
theorem distinctBy_eq (xs : List α) :
    (distinctBy key [] xs).map some =
      (xs.map key).eraseDups.map fun n => xs.find? fun x => key x = n := by
  have hkeys := map_distinctBy key [] xs
  rw [List.removeAll_nil] at hkeys
  rw [← hkeys, List.map_map]
  exact List.map_congr_left fun a ha => (find?_of_mem_distinctBy key ha).2.symm

theorem distinctBy_id (names : List String) : distinctBy id [] names = names.eraseDups := by
  simpa using map_distinctBy id [] names

end

/-! ## Finding by name -/

/-- What a look-up by name finds has the names that were asked for. -/
theorem map_nameOf_eq {α : Type} (nameOf : α → String) {lookup : String → Option α}
    (hlookup : ∀ n a, lookup n = some a → nameOf a = n) {names : List String} {found : List α}
    (h : found.map some = names.map lookup) : found.map nameOf = names := by
  induction names generalizing found with
  | nil => simpa using h
  | cons name rest ih =>
      cases found with
      | nil => simp at h
      | cons a more =>
          simp only [List.map_cons, List.cons.injEq] at h
          rw [List.map_cons, hlookup name a h.1.symm, ih h.2]

theorem mem_of_map_some {α : Type} {lookup : String → Option α} {names : List String}
    {found : List α} (h : found.map some = names.map lookup) {a : α} (ha : a ∈ found) :
    ∃ name ∈ names, lookup name = some a := by
  have hmem : some a ∈ found.map some := List.mem_map_of_mem ha
  rw [h] at hmem
  exact List.mem_map.mp hmem

section

variable {α : Type} {nameOf : α → String} {kind : ReferenceKind} {items : List α}

theorem nameOf_eq_of_find? {name : String} {a : α}
    (h : items.find? (fun x => nameOf x = name) = some a) : nameOf a = name := by
  simpa using List.find?_some h

theorem find_eq_ok {name : String} {a : α} :
    find nameOf kind items name = .ok a ↔ items.find? (fun x => nameOf x = name) = some a := by
  unfold find
  cases items.find? (fun x => nameOf x = name) <;> simp

/-- Where all names are found, the first item of each is taken. -/
theorem findAll_eq_ok {names : List String} {found : List α}
    (h : findAll nameOf kind items names = .ok found) :
    found.map some = names.map fun n => items.find? fun x => nameOf x = n := by
  induction names generalizing found with
  | nil =>
      cases h
      rfl
  | cons name rest ih =>
      obtain ⟨a, ha, h⟩ := bind_eq_ok.mp h
      obtain ⟨more, hmore, h⟩ := bind_eq_ok.mp h
      cases h
      rw [List.map_cons, List.map_cons, ih hmore, find_eq_ok.mp ha]

/-- Looking up what was found is looking up where it was found. -/
theorem find?_of_map_find? {names : List String} {found : List α}
    (h : found.map some = names.map fun n => items.find? fun x => nameOf x = n) (n : String) :
    found.find? (fun x => nameOf x = n) =
      if n ∈ names then items.find? fun x => nameOf x = n else none := by
  induction names generalizing found with
  | nil =>
      obtain rfl : found = [] := by simpa using h
      simp
  | cons name rest ih =>
      cases found with
      | nil => simp at h
      | cons a more =>
          simp only [List.map_cons, List.cons.injEq] at h
          have hname := nameOf_eq_of_find? h.1.symm
          by_cases hn : name = n
          · subst hn
            rw [List.find?_cons_of_pos (by simp [hname]), if_pos List.mem_cons_self, ← h.1]
          · rw [List.find?_cons_of_neg (by simp [hname, hn]), ih h.2]
            simp [Ne.symm hn]

end

/-! ## Selections -/

/-- What the documents of a bundle are about. -/
structure Selection where
  indicator : Indicator
  policies : List AlertPolicy
  targets : List NotificationTarget
  service : Service
  dataSources : List DataSource

/-- The names of the alert policies of a template: those it refers to before its own, each once. -/
def policyNames (t : ObjectiveTemplate) : List String :=
  (t.externalPolicies ++ t.builtInPolicies.map (·.name)).eraseDups

/-- The alert policy of a name: the first that is declared, if the template refers to it, and
otherwise the first of its own. -/
def policy? (s : Specification) (t : ObjectiveTemplate) (name : String) : Option AlertPolicy :=
  if name ∈ t.externalPolicies then s.alertPolicies.find? (·.name = name)
  else t.builtInPolicies.find? (·.name = name)

/-- A selection is the one that a template asks for: every name stands for the first item that is
declared under it, and no name is taken twice. -/
structure Selection.Resolves (x : Selection) (s : Specification) (t : ObjectiveTemplate) :
    Prop where
  indicator : match t.indicator with
    | .builtIn i => x.indicator = i
    | .external name => s.indicators.find? (·.name = name) = some x.indicator
  policies : x.policies.map some = (policyNames t).map (policy? s t)
  targets : x.targets.map some = (x.policies.flatMap (·.targets)).eraseDups.map fun name =>
    s.notificationTargets.find? (·.name = name)
  service : s.services.find? (·.name = t.service) = some x.service
  dataSources : x.dataSources.map some =
    (x.indicator.metric.sources.filterMap (·.dataSource)).eraseDups.map fun name =>
      s.dataSources.find? (·.name = name)

/-- The documents of a bundle, in their order. -/
def Selection.documents (x : Selection) (mode : ThresholdObjectives) (t : ObjectiveTemplate) :
    List Value :=
  objectiveDocument mode t x.indicator x.policies ::
    (match t.indicator with
      | .builtIn _ => []
      | .external _ => [indicatorDocument x.indicator]) ++
    x.policies.map policyDocument ++ x.targets.map targetDocument ++ [serviceDocument x.service] ++
    x.dataSources.map dataSourceDocument

/-! ## Names of what is selected -/

namespace Selection.Resolves

variable {x : Selection} {s : Specification} {t : ObjectiveTemplate}

theorem policies_name_eq (h : x.Resolves s t) : x.policies.map (·.name) = policyNames t := by
  refine map_nameOf_eq AlertPolicy.name (fun n p hp => ?_) h.policies
  unfold policy? at hp
  split at hp
  · exact nameOf_eq_of_find? hp
  · exact nameOf_eq_of_find? hp

theorem targets_name_eq (h : x.Resolves s t) :
    x.targets.map (·.name) = (x.policies.flatMap (·.targets)).eraseDups :=
  map_nameOf_eq NotificationTarget.name (fun _ _ => nameOf_eq_of_find?) h.targets

theorem service_name_eq (h : x.Resolves s t) : x.service.name = t.service :=
  nameOf_eq_of_find? h.service

theorem dataSources_name_eq (h : x.Resolves s t) :
    x.dataSources.map (·.name) =
      (x.indicator.metric.sources.filterMap (·.dataSource)).eraseDups :=
  map_nameOf_eq DataSource.name (fun _ _ => nameOf_eq_of_find?) h.dataSources

end Selection.Resolves

/-! ## Templates that can be rendered -/

variable {s : Specification} {t : ObjectiveTemplate}

theorem indicatorOf_eq_ok {i : Indicator} :
    indicatorOf s t = .ok i ↔ match t.indicator with
      | .builtIn own => i = own
      | .external name => s.indicators.find? (·.name = name) = some i := by
  unfold indicatorOf
  cases t.indicator with
  | builtIn own => simp [eq_comm]
  | external name => exact find_eq_ok

theorem policiesOf_eq_ok {ps : List AlertPolicy} (h : policiesOf s t = .ok ps) :
    ps.map some = (policyNames t).map (policy? s t) := by
  obtain ⟨named, hn, h⟩ := bind_eq_ok.mp h
  cases h
  have hnamed := findAll_eq_ok hn
  rw [distinctBy_eq, List.map_append,
    map_nameOf_eq AlertPolicy.name (fun _ _ => nameOf_eq_of_find?) hnamed]
  refine List.map_congr_left fun n _ => ?_
  rw [List.find?_append, find?_of_map_find? hnamed, policy?]
  by_cases hn : n ∈ t.externalPolicies
  · have hmem := List.mem_map_of_mem (f := fun n => s.alertPolicies.find? fun p => p.name = n) hn
    rw [← hnamed] at hmem
    obtain ⟨p, -, hp⟩ := List.mem_map.mp hmem
    simp [hn, ← hp]
  · simp [hn]

theorem targetsOf_eq_ok {ps : List AlertPolicy} {ts : List NotificationTarget}
    (h : targetsOf s ps = .ok ts) :
    ts.map some = (ps.flatMap (·.targets)).eraseDups.map fun name =>
      s.notificationTargets.find? (·.name = name) := by
  rw [← distinctBy_id]
  exact findAll_eq_ok h

theorem dataSourcesOf_eq_ok {i : Indicator} {ds : List DataSource}
    (h : dataSourcesOf s i = .ok ds) :
    ds.map some = (i.metric.sources.filterMap (·.dataSource)).eraseDups.map fun name =>
      s.dataSources.find? (·.name = name) := by
  rw [← distinctBy_id]
  exact findAll_eq_ok h

/-- A bundle is made of what its template asks for. -/
theorem renderTemplate_eq_ok {mode : ThresholdObjectives} {baseName : String}
    {b : ReliabilityBundle} (h : renderTemplate mode s baseName t = .ok b) :
    ∃ x : Selection, x.Resolves s t ∧
      b = ⟨fileName baseName t.name, t.name, x.documents mode t⟩ := by
  obtain ⟨i, hi, h⟩ := bind_eq_ok.mp h
  obtain ⟨ps, hps, h⟩ := bind_eq_ok.mp h
  obtain ⟨ts, hts, h⟩ := bind_eq_ok.mp h
  obtain ⟨service, hservice, h⟩ := bind_eq_ok.mp h
  obtain ⟨ds, hds, h⟩ := bind_eq_ok.mp h
  cases h
  exact ⟨⟨i, ps, ts, service, ds⟩, ⟨indicatorOf_eq_ok.mp hi, policiesOf_eq_ok hps,
    targetsOf_eq_ok hts, find_eq_ok.mp hservice, dataSourcesOf_eq_ok hds⟩, rfl⟩

end Reliability

end ServiceContract
