import ServiceContract.Document.Agreement
import ServiceContract.Proofs.Value.Access

/-!
# What an agreement document keeps

Two lists of agreement templates have the same document exactly when they have the same normal form.
The normal form of a rate plan is its label, a limit on data that stands beside one on calls does
not count, and a number that is not finite is zero; all else is kept, also that something is absent.
-/

namespace ServiceContract

/-! ## Normal forms -/

/-- A number that documents can hold. -/
def Number.normal : Number → Number
  | integer n => integer n
  | decimal (.finite x) => decimal (.finite x)
  | decimal _ => integer 0

def Measurement.normal (m : Measurement) : Measurement := { m with value := m.value.normal }

def LandingZone.normal (z : LandingZone) : LandingZone where
  minimal := z.minimal.normal
  target := z.target.normal
  best := z.best.map Measurement.normal

def Promise.normal : Promise → Promise
  | simple m => simple m.normal
  | landingZone z => landingZone z.normal

def QualityObjective.normal (o : QualityObjective) : QualityObjective :=
  { o with promise := o.promise.normal }

/-- A limit on data does not count beside one on calls. -/
def RateLimit.normal (l : RateLimit) : RateLimit where
  callRate := l.callRate.map Measurement.normal
  dataRate := if l.callRate.isSome then none else l.dataRate.map Measurement.normal
  interval := l.interval.map Measurement.normal

def Agreement.normal (a : Agreement) : Agreement :=
  { a with
    objectives := a.objectives.map QualityObjective.normal
    ratePlan := a.ratePlan.map ratePlanLabel
    rateLimits := a.rateLimits.map RateLimit.normal }

def AgreementTemplate.normal (t : AgreementTemplate) : AgreementTemplate :=
  { t with agreements := t.agreements.map Agreement.normal }

/-! ## What is shown -/

/-- Two things look the same exactly when they have the same normal form. -/
def Shows {α : Type} (render : α → Value) (normal : α → α) : Prop :=
  ∀ a b, render a = render b ↔ normal a = normal b

namespace Shows

variable {α : Type} {render : α → Value} {normal : α → α}

theorem option (h : Shows render normal) (o p : Option α) :
    o.map render = p.map render ↔ o.map normal = p.map normal := by
  cases o <;> cases p <;> simp [h _ _]

theorem list (h : Shows render normal) (as bs : List α) :
    as.map render = bs.map render ↔ as.map normal = bs.map normal := by
  induction as generalizing bs with
  | nil => cases bs <;> simp
  | cons a rest ih =>
      cases bs with
      | nil => simp
      | cons b more => simp [h a b, ih more]

end Shows

theorem map_text_eq_iff {o p : Option String} : o.map Value.text = p.map Value.text ↔ o = p :=
  (Option.map_injective fun _ _ => Value.text.inj).eq_iff

theorem Number.toValue_shows : Shows Number.toValue Number.normal := by
  have hzero : ∀ k : Int64, k.toInt = 0 ↔ k = 0 := fun k => by
    rw [← Int64.toInt_inj]
    rfl
  intro m n
  cases m with
  | integer k =>
      cases n with
      | integer l => simp [toValue, normal, Int64.toInt_inj]
      | decimal x => cases x <;> simp [toValue, normal, hzero]
  | decimal x =>
      cases n with
      | integer l => cases x <;> simp [toValue, normal, hzero, eq_comm]
      | decimal y => cases x <;> cases y <;> simp [toValue, normal]

theorem Measurement.render_shows : Shows Measurement.render Measurement.normal := by
  intro m n
  cases m
  cases n
  simp [render, normal, Value.record_cons_eq_iff, Number.toValue_shows _ _, map_text_eq_iff]

theorem LandingZone.render_shows : Shows LandingZone.render LandingZone.normal := by
  intro y z
  cases y
  cases z
  simp [render, normal, Value.record_cons_eq_iff, Measurement.render_shows _ _,
    Measurement.render_shows.option]

/-- A landing zone has other keys than a plain measurement. -/
theorem Promise.render_shows : Shows Promise.render Promise.normal := by
  intro p q
  have hkeys : ∀ m z, Measurement.render m ≠ LandingZone.render z := by
    intro m z
    simp [Measurement.render, LandingZone.render, Value.record]
  cases p with
  | simple m =>
      cases q with
      | simple n => simp [render, normal, Measurement.render_shows _ _]
      | landingZone z => simp [render, normal, hkeys]
  | landingZone z =>
      cases q with
      | simple n => simp [render, normal, (hkeys _ _).symm]
      | landingZone y => simp [render, normal, LandingZone.render_shows _ _]

theorem QualityObjective.render_shows : Shows QualityObjective.render QualityObjective.normal := by
  intro o p
  cases o
  cases p
  simp [render, normal, Value.record_cons_eq_iff, Promise.render_shows _ _]

/-- The label of a limit says which of its two bounds is given. -/
theorem RateLimit.render_shows : Shows RateLimit.render RateLimit.normal := by
  intro l m
  obtain ⟨calls, data, interval⟩ := l
  obtain ⟨calls', data', interval'⟩ := m
  simp only [render, normal, kind, bound]
  cases calls <;> cases data <;> cases calls' <;> cases data' <;>
    simp [RateLimitKind.label, Value.record_cons_eq_iff, Measurement.render_shows _ _,
      Measurement.render_shows.option]

/-- A list of limits that is not written is empty. -/
theorem Agreement.render_shows : Shows Agreement.render Agreement.normal := by
  intro a b
  obtain ⟨kind, objectives, penalties, reporting, plan, limits⟩ := a
  obtain ⟨kind', objectives', penalties', reporting', plan', limits'⟩ := b
  have hplan : plan.map (fun raw => Value.text (ratePlanLabel raw)) =
      plan'.map (fun raw => Value.text (ratePlanLabel raw)) ↔
        plan.map ratePlanLabel = plan'.map ratePlanLabel := by
    rw [← map_text_eq_iff, Option.map_map, Option.map_map]
    rfl
  have hlimits :
      (if limits.isEmpty then none else some (Value.list (limits.map RateLimit.render))) =
      (if limits'.isEmpty then none else some (Value.list (limits'.map RateLimit.render))) ↔
        limits.map RateLimit.normal = limits'.map RateLimit.normal := by
    rw [← RateLimit.render_shows.list]
    cases limits <;> cases limits' <;> simp
  simp [render, normal, Value.record_cons_eq_iff, QualityObjective.render_shows.list,
    map_text_eq_iff, hplan, hlimits, -List.isEmpty_iff]

theorem AgreementTemplate.render_shows :
    Shows AgreementTemplate.render AgreementTemplate.normal := by
  intro t u
  cases t
  cases u
  simp [render, normal, Value.record_cons_eq_iff, Agreement.render_shows.list]

/-- Two lists of templates have the same document exactly when their normal forms are equal. -/
theorem Agreement.document_eq_iff (ts us : List AgreementTemplate) :
    Agreement.document ts = Agreement.document us ↔
      ts.map AgreementTemplate.normal = us.map AgreementTemplate.normal := by
  rw [← AgreementTemplate.render_shows.list]
  simp [Agreement.document]

end ServiceContract
