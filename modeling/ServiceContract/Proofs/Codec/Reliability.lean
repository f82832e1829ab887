import ServiceContract.Codec.Reliability
import ServiceContract.Proofs.Codec.Agreement
import ServiceContract.Proofs.Value.Unique

/-!
# Decoding objectives again

A query is any value but null. When it is read every key in it counts once, so that it is not
changed when it is read again.
-/

namespace ServiceContract

open Codec

/-! ## Windows -/

theorem CalendarWindow.restores : Restores decode encode := by
  refine .record rfl fun d m x h => ?_
  simp only [Reading.seq_yields, Reading.map_yields] at h ⊢
  obtain ⟨startTime, hstartTime, timeZone, htimeZone, rfl⟩ := h
  exact ⟨_, text_restores.required hstartTime rfl, _, text_restores.required htimeZone rfl, rfl⟩

theorem TimeWindow.restores : Restores decode encode := by
  have hcalendar : Restores (optional CalendarWindow.decode) (encodeOption CalendarWindow.encode) :=
    CalendarWindow.restores.optional nofun
  refine .record rfl fun d m x h => ?_
  simp only [Reading.seq_yields, Reading.map_yields] at h ⊢
  obtain ⟨duration, hduration, calendar, hcalendarEq, rolling, hrolling, rfl⟩ := h
  exact ⟨_, Duration.restores.required hduration rfl, _, hcalendar.field rfl hcalendarEq rfl, _,
    boolean_restores.field rfl hrolling rfl, rfl⟩

theorem SliceWindow.restores : Restores decode encode :=
  Duration.restores.either Number.restores (by decide) (fun _ => rfl) fun _ => rfl

theorem SliceWindow.encode_ne_null (x : SliceWindow) : x.encode ≠ .null := by
  cases x <;> nofun

/-! ## Metrics -/

theorem MetricSource.query_restores : Restores decodeQuery (encodeOption id) := by
  intro d v q h
  unfold decodeQuery Codec.optional at h
  split at h
  · cases h
    rfl
  · next hpresent =>
      obtain ⟨w, hw, rfl⟩ := map_eq_ok.mp h
      dsimp only at hw
      split at hw
      · next hreadable =>
          cases hw
          refine optional_encodeOption ?_ ?_
          · intro q hq
            obtain rfl := Option.mem_some_iff.mp hq
            rw [id, if_pos (Value.isReadable_unique v hreadable), Value.unique_unique]
          · intro q hq
            obtain rfl := Option.mem_some_iff.mp hq
            exact Value.unique_ne_null hpresent
      · cases hw

theorem MetricSource.restores : Restores decode encode := by
  refine .record rfl fun d m x h => ?_
  simp only [Reading.seq_yields, Reading.map_yields] at h ⊢
  obtain ⟨dataSource, hdataSource, kind, hkind, query, hquery, rfl⟩ := h
  exact ⟨_, optionalText_restores.field rfl hdataSource rfl, _,
    optionalText_restores.field rfl hkind rfl, _, query_restores.field rfl hquery rfl, rfl⟩

theorem Ratio.restores : Restores decode encode := by
  intro d v x h
  obtain ⟨name, content, _, -, h⟩ := exists_pick_of_choose h
  split at h
  · obtain ⟨m, -, h⟩ := fields_of_decode h
    simp only [Reading.seq_yields, Reading.map_yields] at h
    obtain ⟨good, hgood, total, htotal, rfl⟩ := h
    refine choose_variant (by decide) (build_named rfl ?_)
    simp only [Reading.seq_yields, Reading.map_yields]
    exact ⟨_, MetricSource.restores.required hgood rfl, _,
      MetricSource.restores.required htotal rfl, rfl⟩
  split at h
  · obtain ⟨m, -, h⟩ := fields_of_decode h
    simp only [Reading.seq_yields, Reading.map_yields] at h
    obtain ⟨bad, hbad, total, htotal, rfl⟩ := h
    rw [encode, decode, selection_single]
    refine choose_variant (by decide) (build_named rfl ?_)
    simp only [Reading.seq_yields, Reading.map_yields]
    exact ⟨_, MetricSource.restores.required hbad rfl, _,
      MetricSource.restores.required htotal rfl, rfl⟩
  · obtain ⟨m, -, h⟩ := fields_of_decode h
    simp only [Reading.seq_yields, Reading.map_yields] at h
    obtain ⟨kind, hkind, source, hsource, rfl⟩ := h
    rw [encode, decode, selection_single]
    refine choose_variant (by decide) (build_named rfl ?_)
    simp only [Reading.seq_yields, Reading.map_yields]
    exact ⟨_, optionalText_restores.field rfl hkind rfl, _,
      MetricSource.restores.required hsource rfl, rfl⟩

theorem Metric.restores : Restores decode encode := by
  intro d v x h
  obtain ⟨name, content, _, -, h⟩ := exists_pick_of_choose h
  split at h
  · obtain ⟨w, -, h⟩ := exists_of_valueContent h
    obtain ⟨m, -, h⟩ := fields_of_decode h
    simp only [Reading.seq_yields, Reading.map_yields] at h
    obtain ⟨counter, hcounter, r, hr, rfl⟩ := h
    refine choose_variant (by decide) (decode_named rfl ?_)
    simp only [Reading.seq_yields, Reading.map_yields]
    exact ⟨_, boolean_restores.field rfl hcounter rfl, _, Ratio.restores.required hr rfl, rfl⟩
  · obtain ⟨w, -, h⟩ := exists_of_valueContent h
    obtain ⟨m, -, h⟩ := fields_of_decode h
    simp only [Reading.map_yields] at h
    obtain ⟨source, hsource, rfl⟩ := h
    rw [encode, decode, selection_single]
    refine choose_variant (by decide) (decode_named rfl ?_)
    simp only [Reading.map_yields]
    exact ⟨_, MetricSource.restores.required hsource rfl, rfl⟩

theorem Indicator.restores : Restores decode encode := by
  refine .record rfl fun d m x h => ?_
  simp only [Reading.seq_yields, Reading.map_yields] at h ⊢
  obtain ⟨name, hname, displayName, hdisplayName, description, hdescription, metric, hmetric,
    rfl⟩ := h
  exact ⟨_, text_restores.required hname rfl, _,
    optionalText_restores.field rfl hdisplayName rfl, _,
    optionalText_restores.field rfl hdescription rfl, _,
    Metric.restores.required hmetric rfl, rfl⟩

theorem IndicatorBinding.restores : Restores decode encode :=
  Indicator.restores.either text_restores (by decide) (fun _ => rfl) fun _ => rfl

/-! ## Objectives -/

theorem Target.restores : Restores decode encode :=
  double_restores.either double_restores (by decide) (fun _ => rfl) fun _ => rfl

theorem Objective.restores : Restores decode encode := by
  have hnumber : Restores (optional Number.decode) (encodeOption Number.encode) :=
    Number.restores.optional Number.encode_ne_null
  have hwindow : Restores (optional SliceWindow.decode) (encodeOption SliceWindow.encode) :=
    SliceWindow.restores.optional SliceWindow.encode_ne_null
  refine .record rfl fun d m x h => ?_
  simp only [Reading.seq_yields, Reading.map_yields] at h ⊢
  obtain ⟨displayName, hdisplayName, operator, hoperator, value, hvalue, target, htarget,
    sliceTarget, hsliceTarget, sliceWindow, hsliceWindow, rfl⟩ := h
  exact ⟨_, optionalText_restores.field rfl hdisplayName rfl, _,
    optionalText_restores.field rfl hoperator rfl, _, hnumber.field rfl hvalue rfl, _,
    Target.restores.required htarget rfl, _, hnumber.field rfl hsliceTarget rfl, _,
    hwindow.field rfl hsliceWindow rfl, rfl⟩

/-! ## Alerts -/

theorem Trigger.restores : Restores decode encode := by
  refine .record rfl fun d m x h => ?_
  simp only [Reading.seq_yields, Reading.map_yields] at h ⊢
  obtain ⟨kind, hkind, operator, hoperator, threshold, hthreshold, lookback, hlookback, after,
    hafter, rfl⟩ := h
  exact ⟨_, text_restores.required hkind rfl, _, text_restores.required hoperator rfl, _,
    Number.restores.required hthreshold rfl, _, Duration.restores.required hlookback rfl, _,
    Duration.restores.required hafter rfl, rfl⟩

theorem AlertCondition.restores : Restores decode encode := by
  refine .record rfl fun d m x h => ?_
  simp only [Reading.seq_yields, Reading.map_yields] at h ⊢
  obtain ⟨name, hname, displayName, hdisplayName, description, hdescription, severity, hseverity,
    trigger, htrigger, rfl⟩ := h
  exact ⟨_, text_restores.required hname rfl, _,
    optionalText_restores.field rfl hdisplayName rfl, _,
    optionalText_restores.field rfl hdescription rfl, _, text_restores.required hseverity rfl, _,
    Trigger.restores.required htrigger rfl, rfl⟩

theorem AlertPolicy.restores : Restores decode encode := by
  refine .record rfl fun d m x h => ?_
  simp only [Reading.seq_yields, Reading.map_yields] at h ⊢
  obtain ⟨name, hname, displayName, hdisplayName, description, hdescription, noData, hnoData,
    resolved, hresolved, breaching, hbreaching, conditions, hconditions, targets, htargets,
    rfl⟩ := h
  exact ⟨_, text_restores.required hname rfl, _,
    optionalText_restores.field rfl hdisplayName rfl, _,
    optionalText_restores.field rfl hdescription rfl, _, boolean_restores.field rfl hnoData rfl, _,
    boolean_restores.field rfl hresolved rfl, _, boolean_restores.field rfl hbreaching rfl, _,
    AlertCondition.restores.listOf.field rfl hconditions rfl, _,
    text_restores.listOf.field rfl htargets rfl, rfl⟩

theorem NotificationTarget.restores : Restores decode encode := by
  refine .record rfl fun d m x h => ?_
  simp only [Reading.seq_yields, Reading.map_yields] at h ⊢
  obtain ⟨name, hname, displayName, hdisplayName, description, hdescription, target, htarget,
    rfl⟩ := h
  exact ⟨_, text_restores.required hname rfl, _,
    optionalText_restores.field rfl hdisplayName rfl, _,
    optionalText_restores.field rfl hdescription rfl, _, text_restores.required htarget rfl, rfl⟩

/-! ## Where objectives are stated -/

theorem DataSource.restores : Restores decode encode := by
  refine .record rfl fun d m x h => ?_
  simp only [Reading.seq_yields, Reading.map_yields] at h ⊢
  obtain ⟨name, hname, displayName, hdisplayName, description, hdescription, kind, hkind, url,
    hurl, rfl⟩ := h
  exact ⟨_, text_restores.required hname rfl, _,
    optionalText_restores.field rfl hdisplayName rfl, _,
    optionalText_restores.field rfl hdescription rfl, _, text_restores.required hkind rfl, _,
    text_restores.required hurl rfl, rfl⟩

theorem Service.restores : Restores decode encode := by
  refine .record rfl fun d m x h => ?_
  simp only [Reading.seq_yields, Reading.map_yields] at h ⊢
  obtain ⟨name, hname, displayName, hdisplayName, description, hdescription, rfl⟩ := h
  exact ⟨_, text_restores.required hname rfl, _,
    optionalText_restores.field rfl hdisplayName rfl, _,
    optionalText_restores.field rfl hdescription rfl, rfl⟩

theorem ObjectiveTemplate.restores : Restores decode encode := by
  refine .record rfl fun d m x h => ?_
  simp only [Reading.seq_yields, Reading.map_yields] at h ⊢
  obtain ⟨name, hname, displayName, hdisplayName, description, hdescription, service, hservice,
    indicator, hindicator, timeWindow, htimeWindow, budgeting, hbudgeting, objectives,
    hobjectives, external, hexternal, builtIn, hbuiltIn, rfl⟩ := h
  exact ⟨_, text_restores.required hname rfl, _,
    optionalText_restores.field rfl hdisplayName rfl, _,
    optionalText_restores.field rfl hdescription rfl, _, text_restores.required hservice rfl, _,
    IndicatorBinding.restores.required hindicator rfl, _,
    TimeWindow.restores.required htimeWindow rfl, _, text_restores.required hbudgeting rfl, _,
    Objective.restores.listOf.field rfl hobjectives rfl, _,
    text_restores.listOf.field rfl hexternal rfl, _,
    AlertPolicy.restores.listOf.field rfl hbuiltIn rfl, rfl⟩

end ServiceContract
