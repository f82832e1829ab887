import ServiceContract.Input
import ServiceContract.Proofs.Codec.Record
import ServiceContract.Proofs.Input.Storable
import ServiceContract.Proofs.Numeral.Range

/-!
# Targets that are read

What a record, a choice or a list is decoded to is made of its parts, so that the numbers of a
specification are those of its document. The target of an objective is a finite number, however the
specification was written.
-/

namespace ServiceContract

open Codec Numeral

/-! ## What is decoded from what -/

namespace Codec

variable {α : Type} {P : Value → Prop} {Q : α → Prop} {decode : Decoder α} {d : Dialect}

/-- Where one thing holds of everything in a value, another holds of what it is decoded to. -/
def Keeps (P : Value → Prop) (decode : Decoder α) (Q : α → Prop) : Prop :=
  ∀ d v a, v.Everywhere P → decode d v = .ok a → Q a

theorem everywhere_of_members {title : String} {v : Value} {m : Members Value}
    (hv : v.Everywhere P) (h : members d title v = .ok m) : ∀ w ∈ m.parts, w.Everywhere P := by
  unfold members at h
  split at h
  · next entries =>
      split at h
      · cases h
      · cases h
        intro w hw
        obtain ⟨e, he, rfl⟩ := List.mem_map.mp hw
        exact (Value.everywhere_map_iff.mp hv).2 e he
  · cases h
    exact (Value.everywhere_list_iff.mp hv).2
  · cases h

theorem everywhere_of_selection {v w : Value} {name : String} {alone : Bool}
    (hv : v.Everywhere P) (h : selection d v = .variant name (.given w) alone) :
    w.Everywhere P := by
  unfold selection at h
  split at h
  · cases h
  · cases h
  · split at h
    · cases h
    · cases h
      exact (Value.everywhere_map_iff.mp hv).2 _ List.mem_cons_self
  · cases h
    exact (Value.everywhere_map_iff.mp hv).2 _ List.mem_cons_self
  · cases h

namespace Keeps

variable {r : RecordType} {m : Members Value} {key : String} {fallback : Option α} {a : α}

theorem field (h : Keeps P decode Q) (hm : ∀ w ∈ m.parts, w.Everywhere P)
    (hfallback : ∀ b ∈ fallback, Q b) (ha : field r m key fallback (decode d) = .ok a) : Q a := by
  rcases field_eq_ok ha with hb | ⟨v, hv, hdecode⟩
  · exact hfallback a hb
  · exact h d v a (hm v hv) hdecode

theorem required (h : Keeps P decode Q) (hm : ∀ w ∈ m.parts, w.Everywhere P)
    (ha : required r m key (decode d) = .ok a) : Q a :=
  h.field hm (by simp) ha

theorem listOf (h : Keeps P decode Q) : Keeps P (listOf decode) fun as => ∀ a ∈ as, Q a := by
  intro d v as hv has
  unfold Codec.listOf at has
  split at has
  · intro a ha
    obtain ⟨w, hw, hdecode⟩ := exists_of_mem_items has a ha
    exact h d w a ((Value.everywhere_list_iff.mp hv).2 w hw) hdecode
  · cases has

theorem record {title : String} {F : Dialect → Members Value → Reading α}
    (h : ∀ d m x, (∀ w ∈ m.parts, w.Everywhere P) → (F d m).Yields (· = x) → Q x) :
    Keeps P (fun d v => do let m ← members d title v; build d r m (F d m)) Q := by
  intro d v x hv hx
  obtain ⟨m, hm, hx⟩ := fields_of_decode hx
  exact h d m x (everywhere_of_members hv hm) hx

end Keeps

end Codec

/-! ## Finite targets -/

def Target.IsFinite : Target → Prop
  | fraction x | percent x => ∃ y, x = .finite y

/-- A specification that only aims at finite numbers. -/
def Specification.TargetsFinite (s : Specification) : Prop :=
  ∀ t ∈ s.objectiveTemplates, ∀ o ∈ t.objectives, o.target.IsFinite

/-- An integer of 64 bits is rounded to a finite number. -/
theorem double_keeps : Keeps Value.IsStorable double fun x => ∃ y, x = .finite y := by
  intro d v x hv h
  have hself := hv.self
  unfold double at h
  split at h
  · cases h
    exact Double.exists_ofInt_eq hself
  · cases h
  · next y hnumber =>
      cases h
      cases x with
      | finite y => exact ⟨y, rfl⟩
      | infinite negative => exact hself.elim
      | notANumber => exact absurd rfl hnumber
  · cases h

theorem Target.keeps : Keeps Value.IsStorable decode IsFinite := by
  intro d v x hv h
  obtain ⟨name, content, alone, hselection, h⟩ := exists_pick_of_choose h
  split at h
  · obtain ⟨y, hy, rfl⟩ := map_eq_ok.mp h
    obtain ⟨w, rfl, hw⟩ := exists_of_valueContent hy
    exact double_keeps d w y (everywhere_of_selection hv hselection) hw
  · obtain ⟨y, hy, rfl⟩ := map_eq_ok.mp h
    obtain ⟨w, rfl, hw⟩ := exists_of_valueContent hy
    exact double_keeps d w y (everywhere_of_selection hv hselection) hw

theorem Objective.keeps : Keeps Value.IsStorable decode fun o => o.target.IsFinite := by
  refine .record fun d m x hm h => ?_
  simp only [Reading.seq_yields, Reading.map_yields] at h
  obtain ⟨-, -, -, -, -, -, target, htarget, -, -, -, -, rfl⟩ := h
  exact Target.keeps.required hm htarget

theorem ObjectiveTemplate.keeps :
    Keeps Value.IsStorable decode fun t => ∀ o ∈ t.objectives, o.target.IsFinite := by
  refine .record fun d m x hm h => ?_
  simp only [Reading.seq_yields, Reading.map_yields] at h
  obtain ⟨-, -, -, -, -, -, -, -, -, -, -, -, -, -, objectives, hobjectives, -, -, -, -, rfl⟩ := h
  exact Objective.keeps.listOf.field hm (by simp) hobjectives

theorem Specification.keeps : Keeps Value.IsStorable decode TargetsFinite := by
  refine .record fun d m x hm h => ?_
  simp only [Reading.seq_yields, Reading.map_yields] at h
  obtain ⟨-, -, -, -, -, -, -, -, -, -, -, -, templates, htemplates, -, -, -, -, -, -, -, -, -, -,
    rfl⟩ := h
  exact ObjectiveTemplate.keeps.listOf.field hm (by simp) htemplates

/-! ## Specifications that are read -/

namespace Specification

/-- A specification is read from a tree, or from a text of either form. -/
inductive IsRead (s : Specification) : Prop
  | tree {v : Value} (hv : v.IsSound) (h : ofTree v = .ok s)
  | json {text : String} (h : readJson text = .ok s)
  | yaml {text : String} (h : readYaml text = .ok s)

theorem exists_decode_of_ofTree {v : Value} {s : Specification} (h : ofTree v = .ok s) :
    decode .tree v = .ok s := by
  unfold ofTree at h
  split at h
  · next hs =>
      cases h
      exact hs
  · cases h

theorem IsRead.targetsFinite {s : Specification} (h : s.IsRead) : s.TargetsFinite := by
  cases h with
  | tree hv h => exact keeps _ _ s hv (exists_decode_of_ofTree h)
  | json h =>
      unfold readJson at h
      split at h
      · next v hv =>
          split at h
          · next hs =>
              cases h
              exact keeps _ v s (Json.isSound_of_read? hv) hs
          · cases h
      · split at h
        · next hs =>
            cases h
            obtain ⟨v, hv, hdecode⟩ := Option.map_eq_some_iff.mp hs
            exact keeps _ v s (Json.isSound_of_readLoosely? hv) hdecode
        · cases h
  | yaml h =>
      unfold readYaml at h
      split at h
      · cases h
      · next v hv => exact keeps _ v s (Yaml.isSound_of_read? hv) (exists_decode_of_ofTree h)

end Specification

end ServiceContract
