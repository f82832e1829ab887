import ServiceContract.Proofs.TypeGraph.Steadiness

/-!
# What a synthesized type is found with

A name keeps the type that was made when it came to stand for a structure. Where that call failed
half-way, later calls for the same structure succeed with the type as it was left.
-/

namespace ServiceContract

open TypeGraph

variable {g : TypeGraph} {calls : List Call}

/-! ## Structures inside structures -/

/-- The types of an inline structure: its own, and those nested in it. -/
def Payload.inlineTypes (name : String) (payload : Payload) : List Registration :=
  ⟨name, .shape (.whole payload)⟩ :: payload.nested name

section

variable {good : Registration → Prop}

mutual

/-- Filled types claim the types right below them, and so on down to the last one. -/
theorem TreeNode.nested_filled (hgood : ∀ e, g.Claims e → good e → g.Filled e) {owner : String}
    {position : Nat} (node : TreeNode) (hclaims : ∀ c ∈ node.child? owner position, g.Claims c)
    (hall : ∀ e ∈ node.nested owner position, good e) :
    ∀ e ∈ node.nested owner position, g.Claims e ∧ g.Filled e := by
  cases node with
  | single p => exact nofun
  | tree name nodes card =>
      obtain ⟨hfirst, hrest⟩ := List.forall_mem_cons.mp hall
      have hclaim := hclaims _ rfl
      have hfilled := hgood _ hclaim hfirst
      exact List.forall_mem_cons.mpr
        ⟨⟨hclaim, hfilled⟩, nestedTypes_filled hgood nodes hfilled.children hrest⟩
  | list l =>
      have hclaim := hclaims _ rfl
      have hfilled := hgood _ hclaim (hall _ List.mem_cons_self)
      exact List.forall_mem_cons.mpr ⟨⟨hclaim, hfilled⟩, nofun⟩
termination_by structural node

theorem nestedTypes_filled (hgood : ∀ e, g.Claims e → good e → g.Filled e) {owner : String}
    {position : Nat} (nodes : List TreeNode)
    (hclaims : ∀ c ∈ nodeChildren owner position nodes, g.Claims c)
    (hall : ∀ e ∈ nestedTypes owner position nodes, good e) :
    ∀ e ∈ nestedTypes owner position nodes, g.Claims e ∧ g.Filled e := by
  cases nodes with
  | nil => exact nofun
  | cons node rest =>
      obtain ⟨hnode, hrest⟩ := List.forall_mem_append.mp hall
      obtain ⟨hchild, hchildren⟩ := List.forall_mem_append.mp hclaims
      refine List.forall_mem_append.mpr ⟨TreeNode.nested_filled hgood node ?_ hnode,
        nestedTypes_filled hgood rest hchildren hrest⟩
      exact fun c hc => hchild c (Option.mem_toList.mpr hc)
termination_by structural nodes

end

theorem Payload.inlineTypes_filled (hgood : ∀ e, g.Claims e → good e → g.Filled e) {name : String}
    {payload : Payload} (hclaims : g.Claims ⟨name, .shape (.whole payload)⟩)
    (hall : ∀ e ∈ payload.inlineTypes name, good e) :
    ∀ e ∈ payload.inlineTypes name, g.Claims e ∧ g.Filled e := by
  obtain ⟨hfirst, hrest⟩ := List.forall_mem_cons.mp hall
  have hfilled := hgood _ hclaims hfirst
  refine List.forall_mem_cons.mpr ⟨⟨hclaims, hfilled⟩, ?_⟩
  cases payload with
  | tree t => exact nestedTypes_filled hgood t.nodes hfilled.children hrest
  | atoms l => exact nofun
  | single p => exact nofun

end

/-! ## Types that are left unfinished -/

/-- The call fails, and by it the name has come to stand for a structure whose fields its type does
not have. -/
def Call.LeavesUnfinished (g : TypeGraph) (call : Call) (name : String) : Prop :=
  call.Fails g ∧ ∃ shape, g.NewlyClaims (call.after g) ⟨name, .shape shape⟩ ∧
    ¬ (call.after g).registry.Holds ⟨name, .shape shape⟩

/-- Some call of the session has left the type of the name unfinished. -/
def LeftUnfinished (calls : List Call) (name : String) : Prop :=
  ∃ before call, before ++ [call] <+: calls ∧ call.LeavesUnfinished (session before) name

theorem LeftUnfinished.mono {more : List Call} {name : String} (hp : calls <+: more)
    (h : LeftUnfinished calls name) : LeftUnfinished more name := by
  obtain ⟨before, call, hbefore, hleaves⟩ := h
  exact ⟨before, call, hbefore.trans hp, hleaves⟩

/-- A call that succeeds leaves nothing unfinished. -/
theorem LeftUnfinished.of_concat {call : Call} {name : String}
    (h : LeftUnfinished (calls ++ [call]) name) (hok : ¬ call.Fails (session calls)) :
    LeftUnfinished calls name := by
  obtain ⟨before, call', hbefore, hleaves⟩ := h
  rcases List.prefix_concat_iff.mp hbefore with heq | hbefore
  · obtain ⟨rfl, hcall⟩ := List.append_inj' heq rfl
    obtain rfl : call' = call := by simpa using hcall
    exact (hok hleaves.1).elim
  · exact ⟨before, call', hbefore, hleaves⟩

namespace Call

theorem IsUntargeted.ne_handOver {call : Call} (hu : call.IsUntargeted) : call ≠ .handOver := by
  rintro rfl
  exact hu

/-- A call that is given no type to fill gives the types of new names their fields, unless it
fails. -/
theorem after_fills (hg : g.registry.Coherent) {call : Call} (hu : call.IsUntargeted)
    {e : Registration} (hnew : g.NewlyClaims (call.after g) e) :
    (call.after g).Filled e ∨ call.Fails g ∧ (call.after g).registry.LacksFields e := by
  cases call with
  | typeFor name => exact (typeFor_steady name).outcome hg hnew
  | wrap base c => exact (wrap_steady base c).outcome hg hnew
  | declareAll declarations => exact (declareAll_steady declarations).outcome hg hnew
  | synthesize name payload => exact (synthesize_steady name payload).outcome hg hnew
  | convert endpoint => exact (convertEndpoint_steady endpoint).outcome hg hnew
  | insert name => exact hu.elim
  | pushField h field => exact hu.elim
  | handOver => exact hu.elim
  | mapPayload target payload placement => exact hu.elim

end Call

/-! ## Sessions -/

/-- The type of a name that stands for a structure is filled, or it was left unfinished. -/
theorem session_filled (hu : ∀ call ∈ calls, call.IsUntargeted) :
    ∀ e, (session calls).Claims e →
      (session calls).Filled e ∨
        LeftUnfinished calls e.name ∧ (session calls).registry.LacksFields e := by
  induction calls using List.reverseRecOn with
  | nil =>
      rintro e ⟨s, -, hs⟩
      cases hs
  | append_singleton calls call ih =>
      intro e hclaims
      obtain ⟨hcalls, hcall⟩ := List.forall_mem_append.mp hu
      have hcall := hcall call List.mem_cons_self
      have hstep : session (calls ++ [call]) = call.after (session calls) := by
        simp [session_append]
      have hlater := call.after_evolves (session calls) hcall.ne_handOver
      have hkeeps := Call.after_keeps (session calls) hcall
      rw [hstep] at hclaims ⊢
      cases hs : (session calls).shapes.lookup e.name with
      | none =>
          have hnew : (session calls).NewlyClaims (call.after (session calls)) e := ⟨hs, hclaims⟩
          obtain hfilled | ⟨hfails, hlacks⟩ := Call.after_fills (session_coherent calls) hcall hnew
          · exact .inl hfilled
          · obtain ⟨name, origin⟩ := e
            obtain ⟨s, rfl, -⟩ := hclaims
            exact .inr ⟨⟨calls, call, List.prefix_rfl, hfails, s, hnew,
              fun hholds => hholds.not_lacksFields hlacks⟩, hlacks⟩
      | some s =>
          obtain ⟨s', horigin, hs'⟩ := hclaims
          rw [hlater.shape hs] at hs'
          rcases ih hcalls e ⟨s', horigin, hs.trans hs'⟩ with hfilled | ⟨hleft, hlacks⟩
          · exact .inl (hfilled.later hlater hkeeps trivial)
          · exact .inr ⟨hleft.mono (List.prefix_append calls [call]),
              hlacks.later hlater.grows.extends hkeeps trivial⟩

theorem foldl_after_keeps (g : TypeGraph) (hu : ∀ call ∈ calls, call.IsUntargeted) :
    g.registry.Keeps (fun _ => True) (calls.foldl Call.after g).registry := by
  induction calls generalizing g with
  | nil => exact .refl _ g.registry
  | cons call rest ih =>
      obtain ⟨hcall, hrest⟩ := List.forall_mem_cons.mp hu
      exact (Call.after_keeps g hcall).trans (ih _ hrest)

/-- What is left unfinished stays so. -/
theorem LeftUnfinished.lacksFields (hu : ∀ call ∈ calls, call.IsUntargeted) {e : Registration}
    (hleft : LeftUnfinished calls e.name) (hclaims : (session calls).Claims e) :
    (session calls).registry.LacksFields e := by
  obtain ⟨before, call, ⟨rest, rfl⟩, -, s, ⟨-, hclaimed⟩, hholds⟩ := hleft
  obtain ⟨hearlier, hrest⟩ := List.forall_mem_append.mp hu
  have hstep : session (before ++ [call]) = call.after (session before) := by
    simp [session_append]
  rw [← hstep] at hclaimed hholds
  have hlacks : (session (before ++ [call])).registry.LacksFields ⟨e.name, .shape s⟩ := by
    rcases session_filled hearlier _ hclaimed with hfilled | ⟨-, hlacks⟩
    · exact (hholds hfilled.holds).elim
    · exact hlacks
  have hone : .handOver ∉ rest := fun hmem => (hrest _ hmem).ne_handOver rfl
  have hlater := foldl_after_evolves (session (before ++ [call])) hone
  rw [session_append] at hclaims ⊢
  rw [hclaims.unique (hclaimed.later hlater) rfl]
  exact hlacks.later hlater.grows.extends (foldl_after_keeps _ hrest) trivial

/-- A structure that is synthesized with success, after any calls that are given no type to fill,
is found under its name. It is complete, with all structures nested in it, exactly when no call
before has left one of their types unfinished. -/
theorem synthesize_complete_iff (hu : ∀ call ∈ calls, call.IsUntargeted) {name : String}
    {payload : Payload} {h : Handle} {g' : TypeGraph}
    (hrun : (synthesize name payload).runFrom (session calls) = (.ok h, g')) :
    g'.registry.lookup name = some h ∧
      ((∀ e ∈ payload.inlineTypes name, g'.registry.Holds e) ↔
        ∀ e ∈ payload.inlineTypes name, ¬ LeftUnfinished calls e.name) := by
  obtain ⟨hshape, hlookup⟩ := establish_settled (session_coherent calls)
    (fun k => mapPayload_evolves k payload .onWrapper) hrun
  refine ⟨hlookup, ?_⟩
  let call := Call.synthesize name payload
  have hall : ∀ c ∈ calls ++ [call], c.IsUntargeted :=
    List.forall_mem_append.mpr ⟨hu, List.forall_mem_singleton.mpr trivial⟩
  have hok : ¬ call.Fails (session calls) := by
    rintro ⟨err, herr⟩
    rw [hrun] at herr
    cases herr
  have hend : session (calls ++ [call]) = g' := by
    rw [session_append]
    exact congrArg Prod.snd hrun
  rw [← hend] at hshape ⊢
  have hclaims := claims_iff.mpr hshape
  constructor
  · intro hholds e he hleft
    have hgood : ∀ e, (session (calls ++ [call])).Claims e →
        (session (calls ++ [call])).registry.Holds e → (session (calls ++ [call])).Filled e :=
      fun e hclaims hholds => (session_filled hall e hclaims).resolve_right
        fun hlacks => hholds.not_lacksFields hlacks.2
    have hclaimed := (Payload.inlineTypes_filled hgood hclaims hholds e he).1
    exact (hholds e he).not_lacksFields
      ((hleft.mono (List.prefix_append calls [call])).lacksFields hall hclaimed)
  · intro hfinished e he
    have hgood : ∀ e, (session (calls ++ [call])).Claims e →
        ¬ LeftUnfinished calls e.name → (session (calls ++ [call])).Filled e :=
      fun e hclaims hfinished => (session_filled hall e hclaims).resolve_right
        fun hleft => hfinished (hleft.1.of_concat hok)
    exact (Payload.inlineTypes_filled hgood hclaims hfinished e he).2.holds

/-- A cart is synthesized before items are declared, which fails, and the items after it. -/
def cartCalls : List Call :=
  [.synthesize "Cart" cart, .declareAll [⟨"Item", .atoms ⟨none, [⟨some "id", .int, none⟩], none⟩⟩]]

theorem synthesize_complete_iff_basket :
    ∃ g', (synthesize "Basket" cart).runFrom (session cartCalls) = (.ok ⟨2⟩, g') ∧
      g'.registry.lookup "Basket" = some ⟨2⟩ ∧
      ((∀ e ∈ cart.inlineTypes "Basket", g'.registry.Holds e) ↔
        ∀ e ∈ cart.inlineTypes "Basket", ¬ LeftUnfinished cartCalls e.name) := by
  have hu : ∀ call ∈ cartCalls, call.IsUntargeted := by
    simp [cartCalls, Call.IsUntargeted]
  have hrun : (synthesize "Basket" cart).runFrom (session cartCalls) =
      (.ok ⟨2⟩, ((synthesize "Basket" cart).runFrom (session cartCalls)).2) := by decide
  exact ⟨_, hrun, synthesize_complete_iff hu hrun⟩

/-- The cart is answered with although it was never given its field. -/
theorem synthesize_incomplete_cart :
    ∃ g', (synthesize "Cart" cart).runFrom (session [.synthesize "Cart" cart]) = (.ok ⟨0⟩, g') ∧
      g'.registry.get? ⟨0⟩ = some ⟨"Cart", []⟩ ∧
      ¬ g'.registry.Holds ⟨"Cart", .shape (.whole cart)⟩ := by
  refine ⟨((synthesize "Cart" cart).runFrom (session [.synthesize "Cart" cart])).2, by decide,
    by decide, fun hholds => ?_⟩
  have hget := hholds.1
  revert hget
  decide

end ServiceContract
