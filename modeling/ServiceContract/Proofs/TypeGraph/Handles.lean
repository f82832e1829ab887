import ServiceContract.Proofs.TypeGraph.Outline
import ServiceContract.Proofs.TypeGraph.Session

/-!
# Handles are kept

The handle that a call has answered with is its answer from then on, and nothing is changed for it
again. A wrapper is told by its name from its base and from every other wrapper.
-/

namespace ServiceContract

namespace TypeGraph

variable {p : Field → Prop} {g g' : TypeGraph} {name : String} {shape : Shape} {base h : Handle}
  {c : Cardinality} {fill : Handle → Build Unit}

/-! ## What the state keeps -/

theorem Evolves.coherent (he : Evolves p g g') (hg : g.registry.Coherent) :
    g'.registry.Coherent :=
  he.grows.coherent hg

/-- A name keeps its handle. -/
theorem Evolves.lookup (he : Evolves p g g') (hg : g.registry.Coherent)
    (hl : g.registry.lookup name = some h) : g'.registry.lookup name = some h :=
  hg.lookup_of_extends (he.coherent hg) he.grows.extends hl

/-! ## What an answer leaves behind -/

theorem lookup_of_insert (hrun : (insert name).runFrom g = (.ok h, g')) :
    g'.registry.lookup name = some h := by
  rw [runFrom_insert] at hrun
  cases hi : g.registry.insert name with
  | error e =>
      rw [hi] at hrun
      cases hrun
  | ok pair =>
      rw [hi] at hrun
      cases hrun
      exact Registry.lookup_of_insert hi

theorem lookup_of_typeFor (hrun : (typeFor name).runFrom g = (.ok h, g')) :
    g'.registry.lookup name = some h := by
  rw [runFrom_typeFor] at hrun
  cases hl : g.registry.lookup name with
  | none =>
      rw [hl] at hrun
      exact lookup_of_insert hrun
  | some k =>
      rw [hl] at hrun
      cases hrun
      exact hl

theorem exists_wrapperNames (hc : c ≠ .scalar) : ∃ ending fieldName,
    wrapperNames c = some (ending, fieldName) ∧ ∀ base, wrappedName base c = base ++ ending := by
  cases c with
  | scalar => exact (hc rfl).elim
  | list => exact ⟨_, _, rfl, fun _ => rfl⟩
  | optional => exact ⟨_, _, rfl, fun _ => rfl⟩

/-- What is wrapped is a type of the registry, and so is what it is wrapped in. -/
theorem lookup_of_wrap (hg : g.registry.Coherent) (hc : c ≠ .scalar)
    (hrun : (wrap base c).runFrom g = (.ok h, g')) :
    ∃ name, g'.registry.lookup name = some base ∧
      g'.registry.lookup (wrappedName name c) = some h := by
  obtain ⟨ending, fieldName, hw, hname⟩ := exists_wrapperNames hc
  have hevolves := (wrap_evolves base c).of_run hrun
  cases hn : g.registry.nameOf base with
  | error e =>
      unfold wrap at hrun
      rw [hw] at hrun
      simp only at hrun
      rw [runFrom_bind, runFrom_ask, hn] at hrun
      cases hrun
  | ok name =>
      refine ⟨name, hevolves.lookup hg (hg.nameOf_eq_ok_iff.mp hn), ?_⟩
      rw [runFrom_wrap hw hn, ← hname] at hrun
      cases hl : g.registry.lookup (wrappedName name c) with
      | some k =>
          rw [hl] at hrun
          cases hrun
          exact hl
      | none =>
          rw [hl] at hrun
          -- a new wrapper is indexed before its field is added, which changes no name
          obtain ⟨k, g₁, hinsert, hpush⟩ := runFrom_bind_eq_ok.mp hrun
          obtain ⟨_, g₂, hfield, hreturn⟩ := runFrom_bind_eq_ok.mp hpush
          have hinserted : Evolves Field.OneLevel g g₁ := (Build.Evolves.insert _).of_run hinsert
          have hpushed : Evolves Field.OneLevel g₁ g₂ :=
            (Build.Evolves.pushField (Field.oneLevel_ofCardinality _ _ _) k).of_run hfield
          cases hreturn
          exact hpushed.lookup (hinserted.coherent hg) (lookup_of_insert hinsert)

/-- The type of a synthesized name stands for the structure. -/
theorem claim_settled {k : Claim} (hrun : (claim name shape).runFrom g = (.ok k, g')) :
    ∃ h, (k = .fresh h ∨ k = .reused h) ∧ g'.shapes.lookup name = some shape ∧
      g'.registry.lookup name = some h := by
  rw [runFrom_claim] at hrun
  cases hs : g.shapes.lookup name with
  | some existing =>
      rw [hs] at hrun
      simp only at hrun
      split at hrun
      · rename_i heq
        subst heq
        cases hr : g.registry.resolve name with
        | error e =>
            rw [hr] at hrun
            cases hrun
        | ok h =>
            rw [hr] at hrun
            cases hrun
            exact ⟨h, .inr rfl, hs, Registry.resolve_eq_ok.mp hr⟩
      · cases hrun
  | none =>
      rw [hs] at hrun
      simp only at hrun
      split at hrun
      · cases hrun
      · cases hi : g.registry.insert name with
        | error e =>
            rw [hi] at hrun
            cases hrun
        | ok pair =>
            rw [hi] at hrun
            cases hrun
            exact ⟨_, .inl rfl, List.lookup_cons_self, Registry.lookup_of_insert hi⟩

theorem establish_settled (hg : g.registry.Coherent) (hfill : ∀ k, (fill k).Evolves p)
    (hrun : (establish name shape fill).runFrom g = (.ok h, g')) :
    g'.shapes.lookup name = some shape ∧ g'.registry.lookup name = some h := by
  obtain ⟨k, g₁, hclaim, hrest⟩ := runFrom_bind_eq_ok.mp hrun
  obtain ⟨h₁, hk, hshape, hlookup⟩ := claim_settled hclaim
  obtain rfl | rfl := hk
  · have hclaimed : Evolves p g g₁ := (claim_evolves name shape).of_run hclaim
    obtain ⟨_, g₂, hfilled, hreturn⟩ := runFrom_bind_eq_ok.mp hrest
    have hevolves := (hfill h₁).of_run hfilled
    cases hreturn
    exact ⟨hevolves.shape hshape, hevolves.lookup (hclaimed.coherent hg) hlookup⟩
  · cases hrest
    exact ⟨hshape, hlookup⟩

/-- A name that stands for the structure is not filled again. -/
theorem establish_run (hs : g.shapes.lookup name = some shape)
    (hl : g.registry.lookup name = some h) :
    (establish name shape fill).runFrom g = (.ok h, g) := by
  have hclaim : (claim name shape).runFrom g = (.ok (.reused h), g) := by
    rw [runFrom_claim, hs]
    simp only [if_true, Registry.resolve, hl]
    rfl
  exact runFrom_bind_eq_ok.mpr ⟨_, g, hclaim, rfl⟩

end TypeGraph

open TypeGraph

/-! ## Calls that answer with a handle -/

inductive Request where
  | typeFor (name : String)
  | wrap (base : Handle) (c : Cardinality)
  | synthesize (name : String) (payload : Payload)

namespace Request

variable {g g' : TypeGraph} {h : Handle} {q : Request}

def build : Request → Build Handle
  | typeFor name => TypeGraph.typeFor name
  | wrap base c => TypeGraph.wrap base c
  | synthesize name payload => TypeGraph.synthesize name payload

def call : Request → Call
  | typeFor name => .typeFor name
  | wrap base c => .wrap base c
  | synthesize name payload => .synthesize name payload

theorem after_call (q : Request) (g : TypeGraph) : q.call.after g = (q.build.runFrom g).2 := by
  cases q <;> rfl

/-- The tables of the state have the answer. -/
def Settled (g : TypeGraph) (h : Handle) : Request → Prop
  | typeFor name => g.registry.lookup name = some h
  | wrap base c => c = .scalar ∧ h = base ∨ c ≠ .scalar ∧ ∃ name,
      g.registry.lookup name = some base ∧ g.registry.lookup (wrappedName name c) = some h
  | synthesize name payload =>
      g.shapes.lookup name = some (.whole payload) ∧ g.registry.lookup name = some h

theorem settled_of_ok (hg : g.registry.Coherent) (hrun : q.build.runFrom g = (.ok h, g')) :
    q.Settled g' h := by
  cases q with
  | typeFor name => exact lookup_of_typeFor hrun
  | wrap base c =>
      by_cases hc : c = .scalar
      · subst hc
        cases hrun
        exact .inl ⟨rfl, rfl⟩
      · exact .inr ⟨hc, lookup_of_wrap hg hc hrun⟩
  | synthesize name payload =>
      exact establish_settled hg (fun k => mapPayload_evolves k payload .onWrapper) hrun

/-- No change of the state takes an answer back. -/
theorem Settled.later {p : Field → Prop} (hs : q.Settled g h) (hg : g.registry.Coherent)
    (he : Evolves p g g') : q.Settled g' h := by
  cases q with
  | typeFor name => exact he.lookup hg hs
  | wrap base c =>
      obtain hscalar | ⟨hc, name, hbase, hwrapper⟩ := hs
      · exact .inl hscalar
      · exact .inr ⟨hc, name, he.lookup hg hbase, he.lookup hg hwrapper⟩
  | synthesize name payload => exact ⟨he.shape hs.1, he.lookup hg hs.2⟩

/-- A call whose answer is there gives it and changes nothing. -/
theorem Settled.run (hs : q.Settled g h) (hg : g.registry.Coherent) :
    q.build.runFrom g = (.ok h, g) := by
  cases q with
  | typeFor name =>
      have hlookup : g.registry.lookup name = some h := hs
      exact (runFrom_typeFor name g).trans (by rw [hlookup])
  | wrap base c =>
      obtain ⟨rfl, rfl⟩ | ⟨hc, name, hbase, hwrapper⟩ := hs
      · rfl
      · obtain ⟨ending, fieldName, hw, hname⟩ := exists_wrapperNames hc
        rw [hname] at hwrapper
        exact (runFrom_wrap hw (hg.nameOf_eq_ok_iff.mpr hbase)).trans (by rw [hwrapper])
  | synthesize name payload => exact establish_run hs.1 hs.2

/-- Of two wrappers each is told from the other, and from what it holds, by its name. -/
theorem Settled.wrap_eq_iff {b₁ b₂ h₁ h₂ : Handle} {c₁ c₂ : Cardinality}
    (hg : g.registry.Coherent) (hc₁ : c₁ ≠ .scalar) (hc₂ : c₂ ≠ .scalar)
    (hs₁ : (wrap b₁ c₁).Settled g h₁) (hs₂ : (wrap b₂ c₂).Settled g h₂) :
    (h₁ = h₂ ↔ b₁ = b₂ ∧ c₁ = c₂) ∧ h₁ ≠ b₁ ∧ h₂ ≠ b₂ := by
  obtain ⟨n₁, hbase₁, hwrapper₁⟩ := (hs₁.resolve_left fun h => hc₁ h.1).2
  obtain ⟨n₂, hbase₂, hwrapper₂⟩ := (hs₂.resolve_left fun h => hc₂ h.1).2
  have hne : ∀ {n b h c}, c ≠ .scalar → g.registry.lookup n = some b →
      g.registry.lookup (wrappedName n c) = some h → h ≠ b := by
    rintro n b h c hc hb hh rfl
    have hlen := length_lt_wrappedName n hc
    rw [← hg.lookup_injective hb hh] at hlen
    exact Nat.lt_irrefl _ hlen
  refine ⟨⟨?_, ?_⟩, hne hc₁ hbase₁ hwrapper₁, hne hc₂ hbase₂ hwrapper₂⟩
  · rintro rfl
    obtain ⟨rfl, rfl⟩ :=
      wrappedName_injective hc₁ hc₂ (hg.lookup_injective hwrapper₁ hwrapper₂)
    exact ⟨Option.some.inj (hbase₁.symm.trans hbase₂), rfl⟩
  · rintro ⟨rfl, rfl⟩
    rw [hg.lookup_injective hbase₁ hbase₂] at hwrapper₁
    exact Option.some.inj (hwrapper₁.symm.trans hwrapper₂)

end Request

/-! ## Sessions -/

theorem foldl_after_evolves (g : TypeGraph) {calls : List Call} (hone : .handOver ∉ calls) :
    Evolves (fun _ => True) g (calls.foldl Call.after g) := by
  induction calls generalizing g with
  | nil => exact .refl
  | cons call rest ih =>
      obtain ⟨hcall, hrest⟩ := not_or.mp (List.mem_cons.not.mp hone)
      exact (call.after_evolves g (Ne.symm hcall)).trans (ih _ hrest)

/-- The answer to a call is there after it and after any later calls of the same builder. -/
theorem settled_session (earlier : List Call) {later : List Call} (hone : .handOver ∉ later)
    {q : Request} {h : Handle} (hok : (q.build.runFrom (session earlier)).1 = .ok h) :
    q.Settled (session (earlier ++ q.call :: later)) h := by
  have hrun : q.build.runFrom (session earlier) = (.ok h, session (earlier ++ [q.call])) := by
    rw [session_append, List.foldl_cons, q.after_call, List.foldl_nil, ← hok]
  rw [List.append_cons, session_append]
  exact (Request.settled_of_ok (session_coherent earlier) hrun).later (session_coherent _)
    (foldl_after_evolves _ hone)

/-- A call that has answered with a handle gives it again after any calls of the same builder, which
may have failed, and changes nothing. Two wrappers are the same handle exactly when they hold the
same base as often, and no wrapper is its base. -/
theorem session_keepsHandles (earlier later : List Call) (hone : .handOver ∉ later) :
    (∀ (q : Request) (h : Handle), (q.build.runFrom (session earlier)).1 = .ok h →
      q.build.runFrom (session (earlier ++ q.call :: later)) =
        (.ok h, session (earlier ++ q.call :: later))) ∧
    ∀ (b₁ b₂ h₁ h₂ : Handle) (c₁ c₂ : Cardinality), c₁ ≠ .scalar → c₂ ≠ .scalar →
      ((wrap b₁ c₁).runFrom (session earlier)).1 = .ok h₁ →
      ((wrap b₂ c₂).runFrom (session (earlier ++ .wrap b₁ c₁ :: later))).1 = .ok h₂ →
      (h₁ = h₂ ↔ b₁ = b₂ ∧ c₁ = c₂) ∧ h₁ ≠ b₁ ∧ h₂ ≠ b₂ := by
  refine ⟨fun q h hok => ?_, fun b₁ b₂ h₁ h₂ c₁ c₂ hc₁ hc₂ hok₁ hok₂ => ?_⟩
  · exact (settled_session earlier hone hok).run (session_coherent _)
  · have hone' : .handOver ∉ later ++ [.wrap b₂ c₂] := by simpa using hone
    have hs₁ : (Request.wrap b₁ c₁).Settled _ h₁ := settled_session earlier hone' hok₁
    have hs₂ : (Request.wrap b₂ c₂).Settled _ h₂ :=
      settled_session (earlier ++ .wrap b₁ c₁ :: later) List.not_mem_nil hok₂
    rw [List.append_assoc, List.cons_append] at hs₂
    exact Request.Settled.wrap_eq_iff (session_coherent _) hc₁ hc₂ hs₁ hs₂

/-- Calls of which the first, the second and the fourth fail: the handle is unknown, the type is
declared already, and the name is blank. -/
def disturbingCalls : List Call :=
  [.wrap ⟨9⟩ .list,
    .declareAll [⟨"Invoice", .atoms ⟨none, [], none⟩⟩, ⟨"Order", .atoms ⟨none, [], none⟩⟩],
    .wrap ⟨0⟩ .optional, .typeFor " "]

/-- The optional list of orders stays handle 2. The optional order is another. -/
theorem session_keepsHandles_orders :
    (TypeGraph.wrap ⟨1⟩ .optional).runFrom (session
        ([.typeFor "Order", .wrap ⟨0⟩ .list] ++ .wrap ⟨1⟩ .optional :: disturbingCalls)) =
      (.ok ⟨2⟩, session
        ([.typeFor "Order", .wrap ⟨0⟩ .list] ++ .wrap ⟨1⟩ .optional :: disturbingCalls)) ∧
    ((TypeGraph.wrap ⟨0⟩ .optional).runFrom (session
        ([.typeFor "Order", .wrap ⟨0⟩ .list] ++ .wrap ⟨1⟩ .optional :: disturbingCalls))).1 =
      .ok ⟨4⟩ ∧
    ((⟨2⟩ : Handle) = ⟨4⟩ ↔ (⟨1⟩ : Handle) = ⟨0⟩ ∧ Cardinality.optional = .optional) := by
  have hkeeps := session_keepsHandles [.typeFor "Order", .wrap ⟨0⟩ .list] disturbingCalls
    (by simp [disturbingCalls])
  have hwrapped : ((TypeGraph.wrap ⟨0⟩ .optional).runFrom (session
      ([.typeFor "Order", .wrap ⟨0⟩ .list] ++ .wrap ⟨1⟩ .optional :: disturbingCalls))).1 =
      .ok ⟨4⟩ := by decide
  exact ⟨hkeeps.1 (.wrap ⟨1⟩ .optional) ⟨2⟩ (by decide), hwrapped,
    (hkeeps.2 ⟨1⟩ ⟨0⟩ ⟨2⟩ ⟨4⟩ .optional .optional nofun nofun (by decide) hwrapped).1⟩

end ServiceContract
