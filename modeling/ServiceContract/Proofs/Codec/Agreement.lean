import ServiceContract.Codec.Agreement
import ServiceContract.Proofs.Codec.Record

/-!
# Decoding quantities and agreements again

A number stays the literal it is: what was decoded as an integer is written as one, and everything
else as a double, whatever its value.
-/

namespace ServiceContract

open Codec

/-! ## Quantities -/

theorem isSigned_toInt (n : Int64) : Numeral.isSigned 64 n.toInt = true := by
  have hlow := n.le_toInt
  have hhigh := n.toInt_lt
  have hlimit : (Numeral.bitLimit 63 : Int) = 2 ^ 63 := by decide
  simp only [Numeral.isSigned, hlimit, Bool.and_eq_true, decide_eq_true_eq]
  omega

/-- An integer that fits into 64 bits is an integer literal; a larger one and a double are decimal
literals. -/
theorem Number.decode_eq_ok {d : Dialect} {v : Value} {x : Number} :
    Number.decode d v = .ok x ↔
      (∃ n, v = .int n ∧ Numeral.isSigned 64 n ∧ x = .integer (Int64.ofInt n)) ∨
      (∃ n, v = .int n ∧ ¬ Numeral.isSigned 64 n ∧ x = .decimal (.ofInt n)) ∨
      ∃ y, v = .float y ∧ y ≠ .notANumber ∧ x = .decimal y := by
  have hswap : ∀ y : Number, y = x ↔ x = y := fun y => eq_comm
  cases v with
  | int n =>
      by_cases hn : Numeral.isSigned 64 n
      · simp [decode, hn, hswap]
      · simp [decode, hn, hswap]
  | float y => cases y <;> simp [decode, hswap]
  | _ => simp [decode]

theorem Number.restores : Restores decode encode := by
  intro d v x h
  refine decode_eq_ok.mpr ?_
  rcases decode_eq_ok.mp h with ⟨n, -, hn, rfl⟩ | ⟨n, -, -, rfl⟩ | ⟨y, -, hy, rfl⟩
  · refine .inl ⟨_, rfl, isSigned_toInt _, ?_⟩
    rw [Int64.ofInt_toInt]
  · exact .inr (.inr ⟨_, rfl, ofInt_ne_notANumber n, rfl⟩)
  · exact .inr (.inr ⟨y, rfl, hy, rfl⟩)

theorem Number.encode_ne_null (x : Number) : x.encode ≠ .null := by
  cases x <;> nofun

theorem Duration.restores : Restores decode encode := by
  refine .record rfl fun d m x h => ?_
  simp only [Reading.seq_yields, Reading.map_yields] at h ⊢
  obtain ⟨value, hvalue, unit, hunit, rfl⟩ := h
  exact ⟨_, Number.restores.required hvalue rfl, _, text_restores.required hunit rfl, rfl⟩

/-! ## Agreements -/

theorem optionalText_restores : Restores (optional text) (encodeOption .text) :=
  text_restores.optional nofun

theorem Measurement.restores : Restores decode encode := by
  refine .record rfl fun d m x h => ?_
  simp only [Reading.seq_yields, Reading.map_yields] at h ⊢
  obtain ⟨value, hvalue, unit, hunit, rfl⟩ := h
  exact ⟨_, Number.restores.required hvalue rfl, _, optionalText_restores.field rfl hunit rfl, rfl⟩

theorem optionalMeasurement_restores :
    Restores (optional Measurement.decode) (encodeOption Measurement.encode) :=
  Measurement.restores.optional nofun

theorem LandingZone.restores : Restores decode encode := by
  refine .record rfl fun d m x h => ?_
  simp only [Reading.seq_yields, Reading.map_yields] at h ⊢
  obtain ⟨minimal, hminimal, target, htarget, best, hbest, rfl⟩ := h
  exact ⟨_, Measurement.restores.required hminimal rfl, _,
    Measurement.restores.required htarget rfl, _,
    optionalMeasurement_restores.field rfl hbest rfl, rfl⟩

theorem Promise.restores : Restores decode encode :=
  Measurement.restores.either LandingZone.restores (by decide) (fun _ => rfl) fun _ => rfl

theorem QualityObjective.restores : Restores decode encode := by
  refine .record rfl fun d m x h => ?_
  simp only [Reading.seq_yields, Reading.map_yields] at h ⊢
  obtain ⟨name, hname, goal, hgoal, promise, hpromise, rfl⟩ := h
  exact ⟨_, text_restores.required hname rfl, _, text_restores.required hgoal rfl, _,
    Promise.restores.required hpromise rfl, rfl⟩

theorem RateLimit.restores : Restores decode encode := by
  refine .record rfl fun d m x h => ?_
  simp only [Reading.seq_yields, Reading.map_yields] at h ⊢
  obtain ⟨callRate, hcallRate, dataRate, hdataRate, interval, hinterval, rfl⟩ := h
  exact ⟨_, optionalMeasurement_restores.field rfl hcallRate rfl, _,
    optionalMeasurement_restores.field rfl hdataRate rfl, _,
    optionalMeasurement_restores.field rfl hinterval rfl, rfl⟩

theorem Agreement.restores : Restores decode encode := by
  refine .record rfl fun d m x h => ?_
  simp only [Reading.seq_yields, Reading.map_yields] at h ⊢
  obtain ⟨kind, hkind, objectives, hobjectives, penalties, hpenalties, reporting, hreporting,
    ratePlan, hratePlan, rateLimits, hrateLimits, rfl⟩ := h
  exact ⟨_, text_restores.required hkind rfl, _,
    QualityObjective.restores.listOf.field rfl hobjectives rfl, _,
    optionalText_restores.field rfl hpenalties rfl, _,
    optionalText_restores.field rfl hreporting rfl, _,
    optionalText_restores.field rfl hratePlan rfl, _,
    RateLimit.restores.listOf.field rfl hrateLimits rfl, rfl⟩

theorem AgreementTemplate.restores : Restores decode encode := by
  refine .record rfl fun d m x h => ?_
  simp only [Reading.seq_yields, Reading.map_yields] at h ⊢
  obtain ⟨name, hname, agreements, hagreements, rfl⟩ := h
  exact ⟨_, text_restores.required hname rfl, _,
    Agreement.restores.listOf.field rfl hagreements rfl, rfl⟩

end ServiceContract
