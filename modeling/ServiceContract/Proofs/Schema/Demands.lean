import Mathlib.Data.List.Nodup
import ServiceContract.Schema.Check

/-!
# What demands come to

A value meets a schema if it has no violations of it. For every kind of value this comes to a few
facts about the value itself and to schemas of what it holds.
-/

namespace ServiceContract

/-- Whether a value has no violations of a schema. -/
def Schema.Accepts (s : Schema) (v : Value) : Prop := violations s.keywords v = []

instance Schema.decidableAccepts (s : Schema) (v : Value) : Decidable (s.Accepts v) :=
  inferInstanceAs (Decidable (violations s.keywords v = []))

variable {s : Schema} {vs : List Value} {es : Entries}

/-! ## Demands on a value itself -/

@[simp] theorem violationUnless_eq_nil {met : Bool} {violation : Violation} :
    violationUnless met violation = [] ↔ met := by
  cases met <;> simp [violationUnless]

@[simp] theorem missingKeys_eq_nil {keys : List String} :
    missingKeys keys es = [] ↔ ∀ key ∈ keys, key ∈ es.keys := by
  simp [missingKeys, List.filter_eq_nil_iff]

/-- Whether a value meets a demand, not counting what it holds. -/
def Keyword.Met (siblings : List Keyword) (v : Value) (k : Keyword) : Prop :=
  k.ownViolations siblings v = []

namespace Keyword

variable {siblings : List Keyword} {v : Value}

@[simp] theorem met_type {t : JsonType} : (type t).Met siblings v ↔ t.holds v :=
  violationUnless_eq_nil

@[simp] theorem met_oneOf {names : List String} :
    (oneOf names).Met siblings v ↔ ∃ name ∈ names, v = .text name := by
  refine violationUnless_eq_nil.trans ?_
  simp only [List.any_eq_true, decide_eq_true_eq]

@[simp] theorem met_minLength {n : Nat} {t : String} :
    (minLength n).Met siblings (.text t) ↔ n ≤ t.length :=
  violationUnless_eq_nil.trans decide_eq_true_iff

@[simp] theorem met_pattern {p : Pattern} {t : String} :
    (pattern p).Met siblings (.text t) ↔ p.holds t :=
  violationUnless_eq_nil

@[simp] theorem met_items : (items s).Met siblings v := rfl

@[simp] theorem met_uniqueItems : uniqueItems.Met siblings (.list vs) ↔ allDifferent vs :=
  violationUnless_eq_nil

@[simp] theorem met_required {keys : List String} :
    (required keys).Met siblings (.map es) ↔ ∀ key ∈ keys, key ∈ es.keys :=
  missingKeys_eq_nil

@[simp] theorem met_minProperties {n : Nat} :
    (minProperties n).Met siblings (.map es) ↔ n ≤ es.length :=
  violationUnless_eq_nil.trans decide_eq_true_iff

@[simp] theorem met_properties {schemas : List (String × Schema)} :
    (properties schemas).Met siblings v := rfl

@[simp] theorem met_patternProperties {p : Pattern} : (patternProperties p).Met siblings v := rfl

@[simp] theorem met_propertyNames {rule : KeyRule} :
    (propertyNames rule).Met siblings (.map es) ↔ ∀ key ∈ es.keys, rule.violations key = [] :=
  List.flatMap_eq_nil_iff

@[simp] theorem met_additional : (additional s).Met siblings v := rfl

@[simp] theorem met_closed :
    closed.Met siblings (.map es) ↔ ∀ key ∈ es.keys, ∃ k ∈ siblings, k.knows key := by
  refine violationUnless_eq_nil.trans ?_
  simp [List.filter_eq_nil_iff]

@[simp] theorem met_dependentRequired {key : String} {keys : List String} :
    (dependentRequired key keys).Met siblings (.map es) ↔
      (key ∈ es.keys → ∀ other ∈ keys, other ∈ es.keys) := by
  have hown : (dependentRequired key keys).Met siblings (.map es) ↔
      (if es.keys.contains key then missingKeys keys es else []) = [] := Iff.rfl
  rw [hown]
  split <;> simp_all

end Keyword

/-! ## Demands on what a value holds -/

theorem itemViolations_eq_nil {keywords : List Keyword} :
    itemViolations keywords vs = [] ↔ ∀ v ∈ vs, violations keywords v = [] := by
  induction vs with
  | nil => simp [itemViolations]
  | cons v rest ih => simp [itemViolations, ih]

theorem memberViolations_eq_nil {keywords : String → List Keyword} :
    memberViolations keywords es = [] ↔ ∀ e ∈ es, violations (keywords e.1) e.2 = [] := by
  induction es with
  | nil => simp [memberViolations]
  | cons e rest ih => simp [memberViolations, ih]

theorem violations_nil (v : Value) : violations [] v = [] := by
  cases v <;> simp [violations]

theorem accepts_text_iff {t : String} :
    s.Accepts (.text t) ↔ ∀ k ∈ s.keywords, k.Met s.keywords (.text t) := by
  simp [Schema.Accepts, violations, Keyword.Met]

theorem accepts_bool_iff {b : Bool} :
    s.Accepts (.bool b) ↔ ∀ k ∈ s.keywords, k.Met s.keywords (.bool b) := by
  simp [Schema.Accepts, violations, Keyword.Met]

/-- A value that no schema applies to meets it. -/
theorem violations_elim_eq_nil {o : Option Schema} {v : Value} :
    violations (o.elim [] (·.keywords)) v = [] ↔ ∀ s, o = some s → s.Accepts v := by
  cases o with
  | none => simp [violations_nil]
  | some s => simp [Schema.Accepts]

theorem accepts_list_iff :
    s.Accepts (.list vs) ↔ (∀ k ∈ s.keywords, k.Met s.keywords (.list vs)) ∧
      ∀ k ∈ s.keywords, ∀ item, k.itemSchema? = some item → ∀ v ∈ vs, item.Accepts v := by
  simp only [Schema.Accepts, violations, List.flatMap_eq_nil_iff, List.append_eq_nil_iff,
    itemViolations_eq_nil, violations_elim_eq_nil, Keyword.Met]
  constructor
  · intro h
    exact ⟨fun k hk => (h k hk).1, fun k hk item hitem v hv => (h k hk).2 v hv item hitem⟩
  · rintro ⟨hown, hitems⟩ k hk
    exact ⟨hown k hk, fun v hv item hitem => hitems k hk item hitem v hv⟩

theorem accepts_map_iff :
    s.Accepts (.map es) ↔ (∀ k ∈ s.keywords, k.Met s.keywords (.map es)) ∧
      ∀ k ∈ s.keywords, ∀ e ∈ es, ∀ member, k.memberSchema? s.keywords e.1 = some member →
        member.Accepts e.2 := by
  simp only [Schema.Accepts, violations, List.flatMap_eq_nil_iff, List.append_eq_nil_iff,
    memberViolations_eq_nil, violations_elim_eq_nil, Keyword.Met]
  constructor
  · intro h
    exact ⟨fun k hk => (h k hk).1, fun k hk => (h k hk).2⟩
  · rintro ⟨hown, hmembers⟩ k hk
    exact ⟨hown k hk, hmembers k hk⟩

/-! ## Records -/

section

variable {ms : List (String × Option Value)} {siblings : List Keyword}

/-- The keys of a record are those whose value is present. -/
theorem mem_keys_record {key : String} :
    key ∈ Entries.keys (ms.filterMap fun m => m.2.map (m.1, ·)) ↔ ∃ v, (key, some v) ∈ ms := by
  simp only [Entries.keys, List.mem_map, List.mem_filterMap, Option.map_eq_some_iff]
  constructor
  · rintro ⟨_, ⟨⟨k, o⟩, hm, v, rfl, rfl⟩, rfl⟩
    exact ⟨v, hm⟩
  · rintro ⟨v, hm⟩
    exact ⟨(key, v), ⟨(key, some v), hm, v, rfl, rfl⟩, rfl⟩

@[simp] theorem object_holds_record : JsonType.object.holds (.record ms) := rfl

@[simp] theorem Keyword.met_required_record {keys : List String} :
    (required keys).Met siblings (.record ms) ↔ ∀ key ∈ keys, ∃ v, (key, some v) ∈ ms := by
  simp only [Value.record, met_required, mem_keys_record]

@[simp] theorem Keyword.met_closed_record :
    closed.Met siblings (.record ms) ↔
      ∀ m ∈ ms, m.2.isSome → ∃ k ∈ siblings, k.knows m.1 := by
  simp only [Value.record, met_closed, mem_keys_record]
  constructor
  · rintro h ⟨key, o⟩ hm hsome
    obtain ⟨v, rfl⟩ := Option.isSome_iff_exists.mp hsome
    exact h key ⟨v, hm⟩
  · rintro h key ⟨v, hm⟩
    exact h (key, some v) hm rfl

@[simp] theorem Keyword.met_dependentRequired_record {key : String} {keys : List String} :
    (dependentRequired key keys).Met siblings (.record ms) ↔
      ((∃ v, (key, some v) ∈ ms) → ∀ other ∈ keys, ∃ v, (other, some v) ∈ ms) := by
  simp only [Value.record, met_dependentRequired, mem_keys_record]

theorem accepts_record_iff :
    s.Accepts (.record ms) ↔ (∀ k ∈ s.keywords, k.Met s.keywords (.record ms)) ∧
      ∀ k ∈ s.keywords, ∀ m ∈ ms, ∀ member, k.memberSchema? s.keywords m.1 = some member →
        ∀ v, m.2 = some v → member.Accepts v := by
  rw [Value.record, accepts_map_iff]
  refine and_congr_right fun _ => forall₂_congr fun k _ => ?_
  constructor
  · intro h m hm member hmember v hv
    exact h (m.1, v) (List.mem_filterMap.mpr ⟨m, hm, by simp [hv]⟩) member hmember
  · intro h e he member hmember
    obtain ⟨m, hm, he⟩ := List.mem_filterMap.mp he
    obtain ⟨v, hv, rfl⟩ := Option.map_eq_some_iff.mp he
    exact h m hm member hmember v hv

end

/-! ## Common schemas -/

theorem accepts_string (t : String) : Schema.string.Accepts (.text t) := by
  simp [accepts_text_iff, Schema.string, Schema.keywords, JsonType.holds]

theorem accepts_nonEmptyString_iff {t : String} :
    Schema.nonEmptyString.Accepts (.text t) ↔ t ≠ "" := by
  simp [accepts_text_iff, Schema.nonEmptyString, Schema.keywords, JsonType.holds,
    Nat.one_le_iff_ne_zero]

theorem accepts_strings (ts : List String) : Schema.strings.Accepts (.list (ts.map .text)) := by
  simp [accepts_list_iff, Schema.strings, Schema.keywords, JsonType.holds, Keyword.itemSchema?,
    accepts_string]

/-- A map whose values have one schema. -/
theorem accepts_additional_iff :
    (Schema.demands [.type .object, .additional s]).Accepts (.map es) ↔
      ∀ e ∈ es, s.Accepts e.2 := by
  simp [accepts_map_iff, Schema.keywords, JsonType.holds, Keyword.memberSchema?, Keyword.knows]

/-- A map whose keys have one rule and whose values have one schema. -/
theorem accepts_propertyNames_iff {rule : KeyRule} :
    (Schema.demands [.type .object, .propertyNames rule, .additional s]).Accepts (.map es) ↔
      (∀ key ∈ es.keys, rule.violations key = []) ∧ ∀ e ∈ es, s.Accepts e.2 := by
  simp [accepts_map_iff, Schema.keywords, JsonType.holds, Keyword.memberSchema?, Keyword.knows]

/-- Texts are different if and only if they are distinct. -/
theorem allDifferent_texts_iff {ts : List String} :
    allDifferent (ts.map .text) ↔ ts.Nodup := by
  induction ts with
  | nil => simp [allDifferent]
  | cons t rest ih =>
      have hfirst : (rest.map Value.text).all (fun w => !(Value.text t).isSame w) ↔ t ∉ rest := by
        simp only [List.all_map, List.all_eq_true, Function.comp, Value.isSame, Value.text.injEq,
          Bool.not_eq_true', decide_eq_false_iff_not]
        exact ⟨fun h hmem => h t hmem rfl, fun h x hx he => h (he ▸ hx)⟩
      rw [List.map_cons, allDifferent, Bool.and_eq_true, ih, hfirst, List.nodup_cons]

theorem accepts_distinctStrings_iff {ts : List String} :
    (Schema.demands [.type .array, .items Schema.string, .uniqueItems]).Accepts
      (.list (ts.map .text)) ↔ ts.Nodup := by
  simp [accepts_list_iff, Schema.keywords, JsonType.holds, Keyword.itemSchema?, accepts_string,
    allDifferent_texts_iff]

/-! ## Patterns -/

theorem holds_append {p : Pattern} (hp : p.rest = none) (t : String) :
    p.holds (p.beginning ++ t) := by
  simp [Pattern.holds, hp]

end ServiceContract
