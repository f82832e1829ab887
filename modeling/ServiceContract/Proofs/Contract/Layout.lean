import ServiceContract.Proofs.Contract.Rendering
import ServiceContract.Proofs.Reliability.Selection

/-!
# Places of operations

An operation stands under its path and its method, beside the other methods of the path. A contract
is refused just if two operations ask for one place, and otherwise holds each of them once. A path
is only a text: it does not matter which endpoint it comes from.
-/

namespace ServiceContract.Contract

/-! ## Places -/

/-- Where operations are declared to stand, in order: their paths and methods. -/
def spots (es : List EndpointDeclaration) : List (String × Method) :=
  es.flatMap fun e => e.operations.map fun o =>
    ("/" ++ e.name ++ "/" ++ o.name, o.method.getD .post)

/-- Where an operation stands. -/
def spot (p : Endpoint × Operation) : String × Method := (path p.1 p.2, p.2.method)

/-- An element is the first that is among those before it. -/
def IsFirstRepeat {α : Type} (xs : List α) (x : α) : Prop :=
  ∃ before after, xs = before ++ x :: after ∧ before.Nodup ∧ x ∈ before

/-- A member of a path item is an operation under the keyword of its method. -/
def IsMember (r : Registry) (p : Endpoint × Operation) (member : String × Value) : Prop :=
  member.1 = p.2.method.keyword ∧ operation r p.1 p.2 = .ok member.2

/-- A contract holds the operations of a model, each at its declared place. -/
structure LaysOut (document : Value) (m : Model) (es : List EndpointDeclaration) : Prop where
  /-- The operations of the model are the declared ones, in order. -/
  declared : (operations m.endpoints).map spot = spots es
  /-- The paths come in the order in which they first occur. Each has the operations that are
  declared there, in order, and nothing else. -/
  items : ∃ items, document.at? ["paths"] = some (.map items) ∧
    Entries.keys items = ((spots es).map Prod.fst).eraseDups ∧
    ∀ item ∈ items, ∃ members, item.2 = .map members ∧
      List.Forall₂ (IsMember m.registry)
        ((operations m.endpoints).filter fun p => path p.1 p.2 = item.1) members
  /-- Every operation is found at its place. -/
  found : ∀ p ∈ operations m.endpoints, ∃ v, operation m.registry p.1 p.2 = .ok v ∧
    document.at? ["paths", path p.1 p.2, p.2.method.keyword] = some v

/-! ## Paths that hold operations -/

/-- A method of a path is that of an operation. -/
def IsMethod (r : Registry) (p : Endpoint × Operation) (x : Method × Value) : Prop :=
  x.1 = p.2.method ∧ operation r p.1 p.2 = .ok x.2

/-- Paths hold operations in order: each path comes where it first occurs and has the operations
that stand there. -/
structure Paths.Hold (ps : Paths) (r : Registry) (os : List (Endpoint × Operation)) : Prop where
  names_eq : ps.map Prod.fst = (os.map fun p => path p.1 p.2).eraseDups
  methods : ∀ q, List.Forall₂ (IsMethod r) (os.filter fun p => path p.1 p.2 = q) (ps.at q)

variable {r : Registry} {ps : Paths} {os : List (Endpoint × Operation)} {p : Endpoint × Operation}
  {q : String} {method : Method} {v : Value}

theorem Paths.names_add : (ps.add q method v).map Prod.fst =
    if q ∈ ps.map Prod.fst then ps.map Prod.fst else ps.map Prod.fst ++ [q] := by
  induction ps with
  | nil => rfl
  | cons first rest ih =>
      obtain ⟨k, methods⟩ := first
      unfold add
      by_cases hk : k = q
      · simp [hk]
      · rw [if_neg hk, List.map_cons, ih, List.map_cons]
        by_cases hq : q ∈ rest.map Prod.fst
        · rw [if_pos hq, if_pos (List.mem_cons_of_mem k hq)]
        · have hcons : q ∉ k :: rest.map Prod.fst := by
            rw [List.mem_cons, not_or]
            exact ⟨Ne.symm hk, hq⟩
          rw [if_neg hq, if_neg hcons, List.cons_append]

theorem Paths.at_of_mem (hd : (ps.map Prod.fst).Nodup) {methods : List (Method × Value)}
    (h : (q, methods) ∈ ps) : ps.at q = methods := by
  induction ps with
  | nil => cases h
  | cons first rest ih =>
      obtain ⟨k, others⟩ := first
      obtain ⟨hk, hrest⟩ := List.nodup_cons.mp hd
      rw [at_cons]
      rcases List.mem_cons.mp h with heq | hmem
      · cases heq
        rw [if_pos rfl]
      · have hne : q ≠ k := by
          rintro rfl
          exact hk (List.mem_map.mpr ⟨_, hmem, rfl⟩)
        rw [if_neg hne, ih hrest hmem]

theorem Paths.hold_nil : Paths.Hold [] r [] := ⟨rfl, fun _ => .nil⟩

/-- A place is taken just if an operation stands there. -/
theorem Paths.Hold.isSome_iff (h : ps.Hold r os) :
    ((ps.at q).lookup method).isSome ↔ (q, method) ∈ os.map spot := by
  have hmethods : (ps.at q).map Prod.fst =
      (os.filter fun p => path p.1 p.2 = q).map fun p => p.2.method := by
    rw [← List.forall₂_eq_eq_eq, List.forall₂_map_left_iff, List.forall₂_map_right_iff]
    exact (h.methods q).flip.imp fun _ _ hx => hx.1
  have hlookup : ((ps.at q).lookup method).isSome ↔ method ∈ (ps.at q).map Prod.fst := by
    rw [List.lookup_isSome_iff, List.mem_map]
    simp only [beq_iff_eq, eq_comm (a := method)]
  rw [hlookup, hmethods]
  simp only [List.mem_map, List.mem_filter, decide_eq_true_eq, spot, Prod.mk.injEq, and_assoc]

/-- An operation is added just if its place is free. -/
theorem Paths.Hold.addOperation_eq (h : ps.Hold r os) (hv : operation r p.1 p.2 = .ok v) :
    addOperation r ps p.1 p.2 =
      if spot p ∈ os.map spot then .error (.duplicateOperation p.2.method (path p.1 p.2))
      else .ok (ps.add (path p.1 p.2) p.2.method v) := by
  unfold addOperation
  dsimp only
  rw [hv]
  simp only [h.isSome_iff]
  rfl

/-- Paths that hold operations hold one more when it is added. -/
theorem Paths.Hold.add (h : ps.Hold r os) (hv : operation r p.1 p.2 = .ok v) :
    (ps.add (path p.1 p.2) p.2.method v).Hold r (os ++ [p]) := by
  constructor
  case names_eq =>
    rw [names_add, List.map_append, List.map_singleton, Registers.eraseDups_append_singleton,
      h.names_eq]
    simp only [List.mem_eraseDups]
  case methods =>
    intro q
    rw [at_add, List.filter_append]
    by_cases hq : path p.1 p.2 = q
    · subst hq
      rw [if_pos rfl, List.filter_cons_of_pos (by simp), List.filter_nil]
      exact List.rel_append (h.methods _) (.cons ⟨rfl, hv⟩ .nil)
    · rw [if_neg (Ne.symm hq), List.filter_cons_of_neg (by simpa using hq), List.filter_nil,
        List.append_nil]
      exact h.methods q

/-- Operations that can be added one after the other are held, each at a place of its own. -/
theorem hold_of_foldlM
    (h : os.foldlM (fun done (e, o) => addOperation r done e o) [] = .ok ps) :
    ps.Hold r os ∧ (os.map spot).Nodup := by
  -- from the end, as paths hold all operations that were added before
  induction os using List.reverseRecOn generalizing ps with
  | nil =>
      cases h
      exact ⟨Paths.hold_nil, List.nodup_nil⟩
  | append_singleton os p ih =>
      rw [List.foldlM_append] at h
      obtain ⟨done, hdone, h⟩ := bind_eq_ok.mp h
      rw [List.foldlM_cons] at h
      obtain ⟨next, hnext, h⟩ := bind_eq_ok.mp h
      cases h
      obtain ⟨hhold, hnodup⟩ := ih hdone
      obtain ⟨v, hv, rfl⟩ := addOperation_eq_ok hnext
      refine ⟨hhold.add hv, ?_⟩
      have hfree : spot p ∉ os.map spot := fun htaken => by
        simp [hhold.addOperation_eq hv, if_pos htaken] at hnext
      rw [List.map_append, List.map_singleton, ← List.concat_eq_append]
      exact hnodup.concat hfree

/-- Operations that can be written are added where each has a place of its own. -/
theorem exists_foldlM (hw : ∀ p ∈ os, ∃ v, operation r p.1 p.2 = .ok v)
    (hd : (os.map spot).Nodup) :
    ∃ ps, os.foldlM (fun done (e, o) => addOperation r done e o) [] = .ok ps := by
  induction os using List.reverseRecOn with
  | nil => exact ⟨[], rfl⟩
  | append_singleton os p ih =>
      rw [List.map_append, List.nodup_append] at hd
      obtain ⟨hfront, -, hdisjoint⟩ := hd
      obtain ⟨ps, hps⟩ := ih (fun p hp => hw p (List.mem_append_left _ hp)) hfront
      obtain ⟨v, hv⟩ := hw p (by simp)
      have hfree : spot p ∉ os.map spot := fun hmem => hdisjoint _ hmem _ (by simp) rfl
      refine ⟨Paths.add (path p.1 p.2) p.2.method v ps, ?_⟩
      rw [List.foldlM_append, hps]
      show addOperation r ps p.1 p.2 >>= pure = _
      rw [(hold_of_foldlM hps).1.addOperation_eq hv, if_neg hfree]
      rfl

/-- Operations that can be written are refused at the first place that is asked for again. -/
theorem foldlM_eq_duplicate_iff (hw : ∀ p ∈ os, ∃ v, operation r p.1 p.2 = .ok v) :
    os.foldlM (fun done (e, o) => addOperation r done e o) [] =
        .error (.duplicateOperation method q) ↔
      IsFirstRepeat (os.map spot) (q, method) := by
  rw [foldlM_eq_error]
  constructor
  · rintro ⟨before, p, after, done, rfl, hdone, hadd⟩
    obtain ⟨hhold, hnodup⟩ := hold_of_foldlM hdone
    obtain ⟨v, hv⟩ := hw p (by simp)
    replace hadd : addOperation r done p.1 p.2 = _ := hadd
    rw [hhold.addOperation_eq hv] at hadd
    split at hadd
    · next htaken =>
        cases hadd
        exact ⟨before.map spot, after.map spot, by simp [spot], hnodup, htaken⟩
    · cases hadd
  · rintro ⟨before, after, heq, hnodup, htaken⟩
    obtain ⟨front, rest, rfl, rfl, hrest⟩ := List.map_eq_append_iff.mp heq
    obtain ⟨p, back, rfl, hp, rfl⟩ := List.map_eq_cons_iff.mp hrest
    obtain ⟨done, hdone⟩ := exists_foldlM (fun p hp => hw p (by simp [hp])) hnodup
    obtain ⟨v, hv⟩ := hw p (by simp)
    refine ⟨front, p, back, done, rfl, hdone, ?_⟩
    show addOperation r done p.1 p.2 = _
    rw [(hold_of_foldlM hdone).1.addOperation_eq hv, if_pos (hp ▸ htaken)]
    cases hp
    rfl

/-! ## Paths as values -/

theorem Paths.Hold.isMember_of_mem (h : ps.Hold r os) {item : String × Value}
    (hitem : item ∈ ps.toValue.members) : ∃ members, item.2 = .map members ∧
      List.Forall₂ (IsMember r) (os.filter fun p => path p.1 p.2 = item.1) members := by
  obtain ⟨⟨k, methods⟩, hmem, rfl⟩ := List.mem_map.mp hitem
  have hd : (ps.map Prod.fst).Nodup := h.names_eq ▸ eraseDups_nodup _
  refine ⟨_, rfl, ?_⟩
  rw [List.forall₂_map_right_iff, ← Paths.at_of_mem hd hmem]
  exact (h.methods k).imp fun _ _ hx => ⟨congrArg Method.keyword hx.1, hx.2⟩

/-! ## Whole contracts -/

variable {ts : List TypeDeclaration} {es : List EndpointDeclaration} {m : Model}
  {heading : Heading} {document : Value}

theorem map_spot_operations (h : Model.build ts es = .ok m) :
    (operations m.endpoints).map spot = spots es := by
  obtain ⟨L, -, hm⟩ := Model.build_eq_ok h
  rw [operations, hm.endpoints_eq, spots, List.flatMap_map, List.map_flatMap]
  refine List.flatMap_congr fun e _ => ?_
  rw [List.map_map, show (e.resolved L.names).operations = e.operations.map (·.resolved L.names)
    from rfl, List.map_map]
  rfl

/-- A contract of a built model is refused at the first place that is asked for again. -/
theorem render_eq_duplicate_iff (hbuild : Model.build ts es = .ok m) :
    render heading m = .error (.duplicateOperation method q) ↔
      IsFirstRepeat (spots es) (q, method) := by
  obtain ⟨members, -, hrender⟩ := render_eq_of_build hbuild heading
  rw [hrender, bind_eq_error, ← map_spot_operations hbuild,
    ← foldlM_eq_duplicate_iff (exists_operation hbuild)]
  constructor
  · rintro (h | ⟨ps, -, h⟩)
    · exact h
    · cases h
  · exact .inl

/-- A contract of a built model is rendered where every operation has a place of its own. -/
theorem exists_render (hbuild : Model.build ts es = .ok m) (hd : (spots es).Nodup)
    (heading : Heading) : ∃ document, render heading m = .ok document := by
  obtain ⟨members, -, hrender⟩ := render_eq_of_build hbuild heading
  rw [← map_spot_operations hbuild] at hd
  obtain ⟨ps, hps⟩ := exists_foldlM (exists_operation hbuild) hd
  rw [hrender]
  exact ⟨_, bind_eq_ok.mpr ⟨ps, hps, rfl⟩⟩

theorem nodup_spots_of_render (hbuild : Model.build ts es = .ok m)
    (h : render heading m = .ok document) : (spots es).Nodup := by
  obtain ⟨ps, -, hps, -, -⟩ := render_eq_ok h
  rw [← map_spot_operations hbuild]
  exact (hold_of_foldlM hps).2

/-- A contract of a built model lays out its operations. -/
theorem laysOut_of_render (hbuild : Model.build ts es = .ok m)
    (h : render heading m = .ok document) : LaysOut document m es := by
  obtain ⟨ps, members, hps, -, hdocument⟩ := render_eq_ok h
  obtain ⟨hhold, -⟩ := hold_of_foldlM hps
  constructor
  case declared => exact map_spot_operations hbuild
  case items =>
    refine ⟨ps.toValue.members, by simp [hdocument, Paths.toValue], ?_, fun item hitem =>
      hhold.isMember_of_mem hitem⟩
    have hkeys : Entries.keys ps.toValue.members = ps.map Prod.fst := by
      simp [Entries.keys, Paths.toValue]
    rw [hkeys, hhold.names_eq, ← map_spot_operations hbuild, List.map_map]
    rfl
  case found =>
    intro p hp
    obtain ⟨he, ho⟩ := mem_operations.mp hp
    obtain ⟨v, hv, hat⟩ := at?_operation h he ho
    exact ⟨v, hv, hat []⟩

/-- A contract of a built model is refused just if two operations ask for one place, and the error
names the first place that is asked for again. Otherwise the contract lays out the operations. -/
theorem render_laysOut (hbuild : Model.build ts es = .ok m) (heading : Heading) :
    ((∃ method path, render heading m = .error (.duplicateOperation method path)) ↔
        ¬ (spots es).Nodup) ∧
      (∀ method path, render heading m = .error (.duplicateOperation method path) ↔
        IsFirstRepeat (spots es) (path, method)) ∧
      ((spots es).Nodup → ∃ document, render heading m = .ok document ∧
        LaysOut document m es) := by
  refine ⟨?_, fun _ _ => render_eq_duplicate_iff hbuild, fun hd => ?_⟩
  · constructor
    · rintro ⟨method, path, h⟩ hd
      obtain ⟨document, hdocument⟩ := exists_render hbuild hd heading
      rw [hdocument] at h
      cases h
    · intro hd
      cases h : render heading m with
      | ok document => exact absurd (nodup_spots_of_render hbuild h) hd
      | error err =>
          obtain ⟨method, path, rfl⟩ := render_eq_error hbuild h
          exact ⟨method, path, rfl⟩
  · obtain ⟨document, h⟩ := exists_render hbuild hd heading
    exact ⟨document, h, laysOut_of_render hbuild h⟩

/-- Two endpoints whose operations have one path, and different methods. -/
def nestedEndpoints : List EndpointDeclaration :=
  [⟨"orders", none, [⟨"items/find", none, some .get, none, none⟩]⟩,
    ⟨"orders/items", none, [⟨"find", none, none, none, none⟩]⟩]

/-- A third endpoint asks for a place that is taken. -/
def clashingEndpoints : List EndpointDeclaration :=
  nestedEndpoints ++ [⟨"orders", none, [⟨"items/find", none, some .post, none, none⟩]⟩]

theorem render_laysOut_nested :
    (∃ m, Model.build [] nestedEndpoints = .ok m ∧ ∃ document,
      render ⟨"Shop", none, "1.0"⟩ m = .ok document ∧ LaysOut document m nestedEndpoints) ∧
    ∃ m, Model.build [] clashingEndpoints = .ok m ∧
      render ⟨"Shop", none, "1.0"⟩ m =
        .error (.duplicateOperation .post "/orders/items/find") := by
  constructor
  · obtain ⟨m, h⟩ := exists_of_isOk (x := Model.build [] nestedEndpoints) (by decide +kernel)
    exact ⟨m, h, (render_laysOut h ⟨"Shop", none, "1.0"⟩).2.2 (by decide)⟩
  · obtain ⟨m, h⟩ := exists_of_isOk (x := Model.build [] clashingEndpoints) (by decide +kernel)
    refine ⟨m, h, ((render_laysOut h ⟨"Shop", none, "1.0"⟩).2.1 _ _).mpr ?_⟩
    exact ⟨spots nestedEndpoints, [], by decide, by decide, by decide⟩

end ServiceContract.Contract
