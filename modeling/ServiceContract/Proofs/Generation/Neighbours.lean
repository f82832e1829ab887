import ServiceContract.Proofs.Generation.History

/-!
# Runs that share a folder

Which files are a run's own is told by their names alone. Two runs without a file in common are both
accepted unless one has a file that has a name of the other, which takes a base name that begins
with the other one.
-/

namespace ServiceContract

variable {root root' : Folder} {folder : String} {here : List String} {r r₁ r₂ : Run}

theorem IsRunName.isPrefix {baseName name : String} (h : IsRunName baseName name) :
    baseName.toList <+: name.toList := by
  rcases h with rfl | rfl | ⟨template, rfl⟩
  all_goals simp [String.toList_append, List.append_assoc]

/-- A file of a run that has a name of another one. -/
structure IsTaken (r neighbour : Run) (name : String) : Prop where
  mem : name ∈ neighbour.paths
  isRunName : IsRunName r.baseName name

/-- Between base names of which neither begins with the other no file is taken. -/
theorem not_isTaken {neighbour : Run} {name : String} (hg : neighbour.Generates)
    (h : ¬ r.baseName.toList <+: neighbour.baseName.toList)
    (h' : ¬ neighbour.baseName.toList <+: r.baseName.toList) : ¬ IsTaken r neighbour name := by
  rintro ⟨hmem, hname⟩
  rcases List.prefix_or_prefix_of_prefix hname.isPrefix (hg.isRunName hmem).isPrefix with hle | hle
  · exact h hle
  · exact h' hle

theorem isStray_iff_isTaken (hdisjoint : r₁.paths.Disjoint r₂.paths) {name : String} :
    (IsStray [r₁, r₂] r₁ name ↔ IsTaken r₁ r₂ name) ∧
      (IsStray [r₁, r₂] r₂ name ↔ IsTaken r₂ r₁ name) := by
  refine ⟨⟨?_, ?_⟩, ⟨?_, ?_⟩⟩
  · rintro ⟨hmem, hname, hnot⟩
    exact ⟨by simpa [hnot] using hmem, hname⟩
  · rintro ⟨hmem, hname⟩
    exact ⟨⟨r₂, by simp, hmem⟩, hname, fun h => hdisjoint h hmem⟩
  · rintro ⟨hmem, hname, hnot⟩
    exact ⟨by simpa [hnot] using hmem, hname⟩
  · rintro ⟨hmem, hname⟩
    exact ⟨⟨r₁, by simp, hmem⟩, hname, hdisjoint hmem⟩

/-- Two runs without a file in common are each refused just for the least file of the other that has
a name of their own. -/
theorem verify_amongNeighbours (hopen : root.openAt folder = .ok (here, []))
    (hwritten : Written folder root [r₁, r₂] root') (hdisjoint : r₁.paths.Disjoint r₂.paths) :
    ∃ v₁ v₂, (r₁.verify folder).run root' = (v₁, root') ∧
      (r₂.verify folder).run root' = (v₂, root') ∧
      RefusesLeast (IsTaken r₁ r₂) v₁ ∧ RefusesLeast (IsTaken r₂ r₁) v₂ ∧
      (¬ r₁.baseName.toList <+: r₂.baseName.toList →
        ¬ r₂.baseName.toList <+: r₁.baseName.toList → v₁ = .ok () ∧ v₂ = .ok ()) := by
  have hgenerates := (hwritten.leaves hopen).generates
  have hg₁ : r₁.Generates := hgenerates r₁ (by simp)
  have hg₂ : r₂.Generates := hgenerates r₂ (by simp)
  obtain ⟨v₁, hrun₁, hleast₁⟩ := Written.verify_refusesLeast [] hopen hwritten
    (by simpa using hdisjoint)
  obtain ⟨v₂, hrun₂, hleast₂⟩ := Written.verify_refusesLeast [r₁] hopen hwritten
    (by simp)
  have htaken₁ := hleast₁.congr fun name => (isStray_iff_isTaken hdisjoint).1
  have htaken₂ := hleast₂.congr fun name => (isStray_iff_isTaken hdisjoint).2
  refine ⟨v₁, v₂, hrun₁, hrun₂, htaken₁, htaken₂, fun h₁ h₂ => ⟨?_, ?_⟩⟩
  · exact htaken₁.eq_ok_iff.mpr fun _ => not_isTaken hg₂ h₁ h₂
  · exact htaken₂.eq_ok_iff.mpr fun _ => not_isTaken hg₁ h₂ h₁

/-! ## Two small runs -/

theorem disjoint_plainShopRun {first second : String}
    (h : Contract.fileName first ≠ Contract.fileName second) :
    (plainShopRun first).paths.Disjoint (plainShopRun second).paths := by
  simpa [Run.paths, plainShopRun] using h.symm

/-- A run for the base name `shop`, and then one for another base name. -/
theorem written_afterShop {baseName : String} (hname : isFileName (Contract.fileName baseName))
    (hready : ∀ a ∈ (plainShopRun baseName).generation.artifacts,
      ((Folder.withArtifacts [] (artifactsOf [plainShopRun "shop"])).get?
        (temporaryName 1 a.path)).isNone ∧
        a.hasPlace (Folder.withArtifacts [] (artifactsOf [plainShopRun "shop"])) 1) :
    Written "out" (runsRoot []) [plainShopRun "shop", plainShopRun baseName]
      (runsRoot [plainShopRun "shop", plainShopRun baseName]) := by
  have hshop : (plainShopRun "shop").Writes "out" (runsRoot []) (runsRoot [plainShopRun "shop"]) :=
    (generates_plainShopRun (by decide)).writes (by decide +kernel)
  exact .snoc (.snoc .nil hshop) ((generates_plainShopRun hname).writes hready)

theorem verify_amongNeighbours_cart :
    Written "out" (runsRoot []) [plainShopRun "shop", plainShopRun "cart"]
      (runsRoot [plainShopRun "shop", plainShopRun "cart"]) ∧
    ((plainShopRun "shop").verify "out").run (runsRoot [plainShopRun "shop", plainShopRun "cart"]) =
      (.ok (), runsRoot [plainShopRun "shop", plainShopRun "cart"]) ∧
    ((plainShopRun "cart").verify "out").run (runsRoot [plainShopRun "shop", plainShopRun "cart"]) =
      (.ok (), runsRoot [plainShopRun "shop", plainShopRun "cart"]) := by
  have hwritten : Written "out" (runsRoot []) [plainShopRun "shop", plainShopRun "cart"]
      (runsRoot [plainShopRun "shop", plainShopRun "cart"]) :=
    written_afterShop (by decide) (by decide +kernel)
  obtain ⟨v₁, v₂, hrun₁, hrun₂, -, -, haccepted⟩ := verify_amongNeighbours (openAt_runsRoot [])
    hwritten (disjoint_plainShopRun (by decide))
  obtain ⟨rfl, rfl⟩ := haccepted (by decide) (by decide)
  exact ⟨hwritten, hrun₁, hrun₂⟩

/-- The contract of the second run could be the agreements of the first. -/
theorem verify_refuses_shopSla :
    Written "out" (runsRoot []) [plainShopRun "shop", plainShopRun "shop-sla"]
      (runsRoot [plainShopRun "shop", plainShopRun "shop-sla"]) ∧
    (plainShopRun "shop").baseName ≠ (plainShopRun "shop-sla").baseName ∧
    (plainShopRun "shop").paths.Disjoint (plainShopRun "shop-sla").paths ∧
    ((plainShopRun "shop").verify "out").run
        (runsRoot [plainShopRun "shop", plainShopRun "shop-sla"]) =
      (.error (.unexpectedArtifact "shop-sla.yaml"),
        runsRoot [plainShopRun "shop", plainShopRun "shop-sla"]) := by
  have hwritten : Written "out" (runsRoot []) [plainShopRun "shop", plainShopRun "shop-sla"]
      (runsRoot [plainShopRun "shop", plainShopRun "shop-sla"]) :=
    written_afterShop (by decide) (by decide +kernel)
  have hdisjoint : (plainShopRun "shop").paths.Disjoint (plainShopRun "shop-sla").paths :=
    disjoint_plainShopRun (by decide)
  obtain ⟨verdict, hrun, hleast⟩ :=
    hwritten.verify_refusesLeast [] (openAt_runsRoot []) (by simpa using hdisjoint)
  have htaken : ∀ name, IsStray [plainShopRun "shop", plainShopRun "shop-sla"] (plainShopRun "shop")
      name ↔ name = "shop-sla.yaml" := by
    intro name
    rw [(isStray_iff_isTaken hdisjoint).1]
    constructor
    · rintro ⟨hmem, -⟩
      exact List.mem_singleton.mp hmem
    · rintro rfl
      exact ⟨by decide, .inr (.inl rfl)⟩
  refine ⟨hwritten, by decide, hdisjoint, hrun.trans ?_⟩
  have hrefused := hleast.congr htaken
  cases verdict with
  | ok _ => exact absurd rfl (hrefused.eq_ok_iff.mp rfl "shop-sla.yaml")
  | error e =>
      obtain ⟨name, rfl, -, rfl⟩ := hrefused.of_error e rfl
      rfl

end ServiceContract
