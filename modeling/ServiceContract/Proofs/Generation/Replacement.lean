import ServiceContract.Proofs.Folder.Program
import ServiceContract.Proofs.Generation.Writing

/-!
# Files are replaced whole

Whenever a folder is looked at while a run is written to it, and however steps fail, an artifact is
there as before or complete. What is not complete stands under a temporary name, one at a time, and
is gone in the end.
-/

namespace ServiceContract

variable {f f' : Folder} {run : Nat} {a : Artifact} {as : List Artifact}

/-! ## One artifact -/

/-- What the placing of an artifact can have come to: nothing has changed, something stands under
the temporary name, or it has ended with the artifact in its place or with nothing changed. -/
inductive Artifact.Placing (f : Folder) (run : Nat) (a : Artifact) :
    Program (Except GenerationError Unit) → Folder → Prop where
  | untouched {p : Program (Except GenerationError Unit)} : p.IsPending → Placing f run a p f
  | written {p : Program (Except GenerationError Unit)} (part : ByteArray) :
      p.IsPending → Placing f run a p (f.put (temporaryName run a.path) (.file part))
  | placed : Placing f run a (.done (.ok ())) (f.put a.path (.file a.content))
  | failed : Placing f run a (.done (.error (.io ("write " ++ a.path)))) f

/-- Takes away what was written, and ends with an error. -/
def Artifact.cleanUp (run : Nat) (a : Artifact) : Program (Except GenerationError Unit) :=
  .step (.remove (temporaryName run a.path)) fun _ => .done (.error (.io ("write " ++ a.path)))

/-- The steps of placing an artifact. -/
theorem Artifact.place_perform : a.place Program.perform run =
    .step (.write (temporaryName run a.path) a.content) fun written =>
      if written then
        .step (.rename (temporaryName run a.path) a.path) fun renamed =>
          if renamed then .done (.ok ()) else a.cleanUp run
      else a.cleanUp run := rfl

theorem Artifact.placing_of_cleanUp {p' : Program (Except GenerationError Unit)} {f₁ : Folder}
    (hfree : f.get? (temporaryName run a.path) = none)
    (hf₁ : f₁ = f ∨ ∃ part, f₁ = f.put (temporaryName run a.path) (.file part))
    (h : (a.cleanUp run).Reaches f₁ p' f') : a.Placing f run p' f' := by
  cases h with
  | refl =>
      rcases hf₁ with rfl | ⟨part, rfl⟩
      · exact .untouched (Program.isPending_step _ _)
      · exact .written part (Program.isPending_step _ _)
  | step hperforms hrest =>
      obtain ⟨rfl, rfl⟩ := Program.reaches_done hrest
      rcases hf₁ with rfl | ⟨part, rfl⟩
      · cases hperforms with
        | taken hremove => simp [Folder.perform?, Folder.remove?, hfree] at hremove
        | refused _ => exact .failed
      · have hremove : (f.put (temporaryName run a.path) (.file part)).remove?
            (temporaryName run a.path) = some f := by
          rw [Folder.remove?, Folder.get?_put_self, Folder.erase_put hfree]
        cases hperforms with
        | taken htaken =>
            obtain rfl := Option.some.inj (hremove.symm.trans htaken)
            exact .failed
        | refused hrefused =>
            rw [hrefused _ rfl] at hremove
            cases hremove

/-- A complete file takes the place of its artifact, or the clean-up follows. -/
theorem Artifact.placing_of_rename {p' : Program (Except GenerationError Unit)}
    (ha : a.IsReady f run) (hfits : Folder.fits (temporaryName run a.path))
    (h : Program.Reaches (.step (.rename (temporaryName run a.path) a.path) fun renamed =>
        if renamed then .done (.ok ()) else a.cleanUp run)
      (f.put (temporaryName run a.path) (.file a.content)) p' f') : a.Placing f run p' f' := by
  cases h with
  | refl => exact .written _ (Program.isPending_step _ _)
  | step hperforms hrest =>
      cases hperforms with
      | taken hrename =>
          rw [Folder.perform?, Folder.rename?_temporary ha hfits] at hrename
          split at hrename
          · cases hrename
            obtain ⟨rfl, rfl⟩ := Program.reaches_done hrest
            exact .placed
          · cases hrename
      | refused _ => exact placing_of_cleanUp ha.free (.inr ⟨_, rfl⟩) hrest

/-- What is reached from the placing of an artifact, however steps fail. -/
theorem Artifact.placing_of_reaches {p' : Program (Except GenerationError Unit)}
    (ha : a.IsReady f run) (h : (a.place Program.perform run).Reaches f p' f') :
    a.Placing f run p' f' := by
  have hwrite := Folder.write?_of_free (isPlain_temporaryName run ha.isFileName) ha.free
  have hwritten : ∀ {content : ByteArray} {f₁ : Folder},
      f.write? (temporaryName run a.path) content = some f₁ →
        Folder.fits (temporaryName run a.path) ∧
          f₁ = f.put (temporaryName run a.path) (.file content) := by
    intro content f₁ hf₁
    rw [hwrite] at hf₁
    split at hf₁
    · next hfits =>
        cases hf₁
        exact ⟨hfits, rfl⟩
    · cases hf₁
  rw [place_perform] at h
  cases h with
  | refl => exact .untouched (Program.isPending_step _ _)
  | step hperforms hrest =>
      cases hperforms with
      | taken htaken =>
          obtain ⟨hfits, rfl⟩ := hwritten htaken
          exact placing_of_rename ha hfits hrest
      | refused _ => exact placing_of_cleanUp ha.free (.inl rfl) hrest
      | torn htorn =>
          obtain ⟨-, rfl⟩ := hwritten htorn
          exact placing_of_cleanUp ha.free (.inr ⟨_, rfl⟩) hrest

/-! ## All artifacts -/

/-- What the placing of artifacts can have come to: the first of them are in their places, and the
next one can stand under its temporary name while there are steps to take. -/
inductive PlacingAll {α : Type} (f : Folder) (run : Nat) (as : List Artifact) (p : Program α) :
    Folder → Prop where
  | between (placed : List Artifact) {rest : List Artifact} : as = placed ++ rest →
      PlacingAll f run as p (f.withArtifacts placed)
  | within (placed : List Artifact) {rest : List Artifact} {a : Artifact} (part : ByteArray) :
      as = placed ++ a :: rest → p.IsPending →
      PlacingAll f run as p
        ((f.withArtifacts placed).put (temporaryName run a.path) (.file part))

/-- What is reached from the placing of artifacts, however steps fail. -/
theorem placingAll_of_reaches {p' : Program (Except GenerationError Unit)}
    (has : ∀ a ∈ as, a.IsReady f run)
    (h : (placeAll Program.perform run as).Reaches f p' f') : PlacingAll f run as p' f' := by
  induction as generalizing f with
  | nil =>
      obtain ⟨-, rfl⟩ := Program.reaches_done h
      exact .between [] rfl
  | cons a rest ih =>
      obtain ⟨ha, hrest⟩ := List.forall_mem_cons.mp has
      rcases Program.reaches_bind h with ⟨x', hpending, hx, rfl⟩ | ⟨r, f₁, hx, hk⟩
      · cases Artifact.placing_of_reaches ha hx with
        | untouched _ => exact .between [] rfl
        | written part _ => exact .within [] part rfl (hpending.bind _)
        | placed => exact absurd rfl (hpending _)
        | failed => exact absurd rfl (hpending _)
      · cases Artifact.placing_of_reaches ha hx with
        | untouched hpending => exact absurd rfl (hpending _)
        | written part hpending => exact absurd rfl (hpending _)
        | placed =>
            have hready : ∀ b ∈ rest, b.IsReady (f.put a.path (.file a.content)) run :=
              fun b hb => (hrest b hb).put ha.path_eq _
            cases ih hready hk with
            | between placed hsplit =>
                exact .between (a :: placed) (congrArg (a :: ·) hsplit)
            | within placed part hsplit hpending =>
                exact .within (a :: placed) part (congrArg (a :: ·) hsplit) hpending
        | failed =>
            obtain ⟨-, rfl⟩ := Program.reaches_done hk
            exact .between [] rfl

theorem PlacingAll.bind {α β : Type} {p : Program α} (h : PlacingAll f run as p f')
    (k : α → Program β) : PlacingAll f run as (p >>= k) f' := by
  cases h with
  | between placed hsplit => exact .between placed hsplit
  | within placed part hsplit hpending => exact .within placed part hsplit (hpending.bind k)

/-- What has ended leaves nothing under a temporary name, whatever follows it. -/
theorem PlacingAll.of_done {α β : Type} {r : α} (h : PlacingAll f run as (.done r) f')
    (p : Program β) : PlacingAll f run as p f' := by
  cases h with
  | between placed hsplit => exact .between placed hsplit
  | within _ _ _ hpending => exact absurd rfl (hpending r)

/-! ## Files that are replaced whole -/

theorem temporaryName_injective (run : Nat) : Function.Injective (temporaryName run) := by
  intro p q h
  have hlists := congrArg String.toList h
  simp only [temporaryName, String.toList_append, List.append_cancel_left_eq,
    List.append_cancel_right_eq] at hlists
  exact String.toList_inj.mp hlists

/-- A folder in which each artifact stands as before or complete, beside at most one temporary
file. -/
structure Folder.ReplacesWhole (f f' : Folder) (run : Nat) (as : List Artifact) : Prop where
  /-- At the path of an artifact is what was there before, or a file with all its bytes. -/
  artifacts : ∀ a ∈ as, f'.get? a.path = f.get? a.path ∨ f'.get? a.path = some (.file a.content)
  /-- All other names but the temporary ones stand for what they stood for. -/
  others : ∀ name, (∀ a ∈ as, name ≠ a.path ∧ name ≠ temporaryName run a.path) →
    f'.get? name = f.get? name
  /-- At most one artifact has something under its temporary name. -/
  temporary : ∀ a ∈ as, ∀ b ∈ as, f'.get? (temporaryName run a.path) ≠ none →
    f'.get? (temporaryName run b.path) ≠ none → a = b
  /-- No temporary name is the path of an artifact. -/
  distinct : ∀ a ∈ as, ∀ b ∈ as, temporaryName run a.path ≠ b.path

section

variable {placed rest : List Artifact}
  (has : ∀ a ∈ as, a.IsReady f run) (hnodup : (as.map (·.path)).Nodup)

include has

theorem temporaryName_ne_path {b : Artifact} (hb : b ∈ as) (path : String) :
    temporaryName run path ≠ b.path := by
  obtain ⟨stem, hstem⟩ := (has b hb).path_eq
  exact hstem ▸ temporaryName_ne run path stem

theorem get?_temporaryName_withArtifacts (hsplit : as = placed ++ rest) (ha : a ∈ as) :
    (f.withArtifacts placed).get? (temporaryName run a.path) = none := by
  rw [Folder.get?_withArtifacts_of_notMem, (has a ha).free]
  intro hmem
  obtain ⟨b, hb, hpath⟩ := List.mem_map.mp hmem
  exact temporaryName_ne_path has (hsplit ▸ List.mem_append_left _ hb) a.path hpath.symm

include hnodup

/-- Between two artifacts nothing stands under a temporary name. -/
theorem replacesWhole_withArtifacts (hsplit : as = placed ++ rest) :
    f.ReplacesWhole (f.withArtifacts placed) run as where
  artifacts a ha := by
    have hplaced : (placed.map (·.path)).Nodup := by
      rw [hsplit, List.map_append] at hnodup
      exact (List.nodup_append.mp hnodup).1
    by_cases hmem : a.path ∈ placed.map (·.path)
    · obtain ⟨b, hb, hpath⟩ := List.mem_map.mp hmem
      have hb' : b ∈ as := hsplit ▸ List.mem_append_left _ hb
      obtain rfl := List.inj_on_of_nodup_map hnodup hb' ha hpath
      exact .inr (Folder.get?_withArtifacts hplaced hb)
    · exact .inl (Folder.get?_withArtifacts_of_notMem hmem)
  others name hname := by
    refine Folder.get?_withArtifacts_of_notMem ?_
    intro hmem
    obtain ⟨a, ha, hpath⟩ := List.mem_map.mp hmem
    exact (hname a (hsplit ▸ List.mem_append_left _ ha)).1 hpath.symm
  temporary a ha _ _ h :=
    absurd (get?_temporaryName_withArtifacts has hsplit ha) h
  distinct a _ b hb := temporaryName_ne_path has hb a.path

/-- Within an artifact only its own temporary name is added. -/
theorem replacesWhole_put (hsplit : as = placed ++ a :: rest) (part : ByteArray) :
    f.ReplacesWhole ((f.withArtifacts placed).put (temporaryName run a.path) (.file part)) run
      as := by
  have hbefore := replacesWhole_withArtifacts has hnodup hsplit
  have ha : a ∈ as := by simp [hsplit]
  have hown : ∀ b ∈ as, ((f.withArtifacts placed).put (temporaryName run a.path) (.file part)).get?
      (temporaryName run b.path) ≠ none → b = a := by
    intro b hb hpresent
    by_contra hne
    have hname : temporaryName run b.path ≠ temporaryName run a.path := fun h =>
      hne (List.inj_on_of_nodup_map hnodup hb ha (temporaryName_injective run h))
    rw [Folder.get?_put_of_ne _ _ hname] at hpresent
    exact hpresent (get?_temporaryName_withArtifacts has hsplit hb)
  refine ⟨?_, ?_, ?_, hbefore.distinct⟩
  · intro b hb
    rw [Folder.get?_put_of_ne _ _ (hbefore.distinct a ha b hb).symm]
    exact hbefore.artifacts b hb
  · intro name hname
    rw [Folder.get?_put_of_ne _ _ (hname a ha).2]
    exact hbefore.others name hname
  · intro b hb b' hb' h h'
    rw [hown b hb h, hown b' hb' h']

theorem PlacingAll.replacesWhole {α : Type} {p : Program α} (h : PlacingAll f run as p f') :
    f.ReplacesWhole f' run as := by
  cases h with
  | between _ hsplit => exact replacesWhole_withArtifacts has hnodup hsplit
  | within _ part hsplit _ => exact replacesWhole_put has hnodup hsplit part

omit hnodup in
theorem PlacingAll.get?_temporaryName_of_done {α : Type} {r : α}
    (h : PlacingAll f run as (.done r) f') (ha : a ∈ as) :
    f'.get? (temporaryName run a.path) = none := by
  cases h with
  | between _ hsplit => exact get?_temporaryName_withArtifacts has hsplit ha
  | within _ _ _ hpending => exact absurd rfl (hpending r)

end

/-! ## Runs -/

section

variable {folder : String} {storage : Storage Program}
  (hmake : ∃ made, storage.makeFolder folder = .done made)
  (hperform : ∀ location, storage.perform location = Program.perform)

include hmake hperform

theorem placingAll_of_writeAll (has : ∀ a ∈ as, a.IsReady f run)
    {p' : Program (Except GenerationError Unit)}
    (h : (writeAll storage run folder as).Reaches f p' f') : PlacingAll f run as p' f' := by
  obtain ⟨made, hmake⟩ := hmake
  unfold writeAll at h
  split at h
  · obtain ⟨-, rfl⟩ := Program.reaches_done h
    exact .between [] rfl
  · rw [hmake] at h
    cases made with
    | error fault =>
        obtain ⟨-, rfl⟩ := Program.reaches_done h
        exact .between [] rfl
    | ok location =>
        have hplace : (placeAll (storage.perform location) run as).Reaches f p' f' := h
        rw [hperform] at hplace
        exact placingAll_of_reaches has hplace

theorem placingAll_of_writeTo {s : Specification} {c : Configuration} {baseName : String}
    {g : Generation} (hg : s.generate c baseName = .ok g) (has : ∀ a ∈ g.artifacts, a.IsReady f run)
    {p' : Program (Except GenerationError Generation)}
    (h : (s.writeTo storage c baseName folder run).Reaches f p' f') :
    PlacingAll f run g.artifacts p' f' := by
  unfold Specification.writeTo at h
  rw [hg] at h
  rcases Program.reaches_bind h with ⟨x', -, hx, rfl⟩ | ⟨r, f₁, hx, hk⟩
  · exact (placingAll_of_writeAll hmake hperform has hx).bind _
  · obtain ⟨-, rfl⟩ := Program.reaches_done hk
    exact (placingAll_of_writeAll hmake hperform has hx).of_done _

/-- While a run is written, and when it has ended, each artifact stands as before or complete,
nothing else but one temporary file has changed, and that is gone in the end. Steps can fail
anywhere; the folder itself is made before. -/
theorem Specification.writeTo_replacesWhole {s : Specification} {c : Configuration}
    {baseName : String} {g : Generation} (hg : s.generate c baseName = .ok g)
    (hclear : ∀ a ∈ g.artifacts, f.get? (temporaryName run a.path) = none)
    {p' : Program (Except GenerationError Generation)}
    (h : (s.writeTo storage c baseName folder run).Reaches f p' f') :
    f.ReplacesWhole f' run g.artifacts ∧
      ((∃ r, p' = .done r) → ∀ a ∈ g.artifacts, f'.get? (temporaryName run a.path) = none) := by
  have has : ∀ a ∈ g.artifacts, a.IsReady f run := fun a ha =>
    ⟨isFileName_of_mem_artifacts hg ha, exists_path_eq hg ha, hclear a ha⟩
  have hplacing := placingAll_of_writeTo hmake hperform hg has h
  refine ⟨hplacing.replacesWhole has (artifacts_nodup hg), ?_⟩
  rintro ⟨r, rfl⟩ a ha
  exact hplacing.get?_temporaryName_of_done has ha

end

/-! ## A write that is torn -/

/-- A write that is torn can begin the placing of artifacts. -/
theorem exists_reaches_of_torn {part : ByteArray} (rest : List Artifact)
    (h : f.write? (temporaryName run a.path) part = some f') :
    ∃ p', (placeAll Program.perform run (a :: rest)).Reaches f p' f' :=
  ⟨_, Program.Reaches.bind (.step (.torn h) .refl) _⟩

/-- A place where files are kept whose folders are there, and in which steps are taken one by
one. -/
def Program.storage : Storage Program where
  Location := Unit
  read _ := .done (.error .notFound)
  isFile _ := .done false
  makeFolder _ := .done (.ok ())
  view _ _ := .done (.ok [])
  perform _ := perform

namespace Specification

theorem writeTo_storage {s : Specification} {c : Configuration} {baseName folder : String}
    {g : Generation} (hname : folder ≠ "") (hg : s.generate c baseName = .ok g) :
    s.writeTo Program.storage c baseName folder run =
      placeAll Program.perform run g.artifacts >>= fun r => .done (r.map fun () => g) := by
  simp only [writeTo, hg, writeAll, if_neg hname]
  rfl

/-- What is left when the first write of a run is torn, before the clean-up. -/
def tornFolder : Folder :=
  blockedFolder.put (temporaryName 1 "base-sla.yaml") (.file "apiV".toUTF8)

theorem reaches_tornFolder : ∃ p' : Program (Except GenerationError Generation),
    (goldShop.writeTo Program.storage {} "base" "out" 1).Reaches blockedFolder p' tornFolder := by
  have hname : isFileName "base-sla.yaml" := by decide
  have hwrite : blockedFolder.write? (temporaryName 1 "base-sla.yaml") "apiV".toUTF8 =
      some tornFolder :=
    (Folder.write?_of_free (isPlain_temporaryName (a := ⟨"base-sla.yaml", ""⟩) 1 hname)
      (by decide) _).trans (if_pos (by decide))
  obtain ⟨p', hplace⟩ : ∃ p', (placeAll Program.perform 1 goldShopRun.artifacts).Reaches
      blockedFolder p' tornFolder := exists_reaches_of_torn _ hwrite
  rw [writeTo_storage (by decide) generate_goldShop]
  exact ⟨_, hplace.bind _⟩

theorem writeTo_replacesWhole_tornFolder :
    (∃ p' : Program (Except GenerationError Generation),
      (goldShop.writeTo Program.storage {} "base" "out" 1).Reaches blockedFolder p' tornFolder) ∧
      blockedFolder.ReplacesWhole tornFolder 1 goldShopRun.artifacts ∧
      tornFolder.get? (temporaryName 1 "base-sla.yaml") ≠ none := by
  obtain ⟨p', hreaches⟩ := reaches_tornFolder
  have hclear := isClear_blockedFolder goldShopRun generate_goldShop
  refine ⟨⟨p', hreaches⟩, ?_, ?_⟩
  · exact (writeTo_replacesWhole ⟨.ok (), rfl⟩ (fun _ => rfl) generate_goldShop hclear hreaches).1
  · rw [tornFolder, Folder.get?_put_self]
    exact nofun

end Specification

/-! ## Runs in a folder -/

namespace Program

variable {α β : Type} {root : Folder} {here : List String}

/-- Takes the steps of a program in the folder at a list of names. -/
def runAt (here : List String) : Program α → StateM Folder α
  | done a => pure a
  | step s next => do runAt here (next (← Folder.performAt here s))

theorem runAt_bind (here : List String) (x : Program α) (k : α → Program β) :
    (x >>= k).runAt here = x.runAt here >>= fun a => (k a).runAt here := by
  induction x with
  | done a => rfl
  | step s next ih =>
      show (Folder.performAt here s >>= fun ok => (next ok >>= k).runAt here) = _
      simp only [ih]
      rfl

/-- The steps that are taken in a folder are some that can be taken. -/
theorem reaches_runAt (h : root.at? here = some (.folder f)) (p : Program α) :
    ∃ a f', p.Reaches f (done a) f' ∧
      (p.runAt here).run root = pure (a, root.modify (fun _ => f') here) := by
  induction p generalizing root f with
  | done a => exact ⟨a, f, .refl, by rw [Folder.modify_self h]; rfl⟩
  | step s next ih =>
      cases hstep : f.perform? s with
      | some f₁ =>
          have hat := Folder.at?_modify (fun _ => f₁) h
          obtain ⟨a, f', hreaches, hrun⟩ := ih true hat
          refine ⟨a, f', .step (.taken hstep) hreaches, ?_⟩
          rw [runAt, Folder.performAt_bind_of_some s _ h hstep, hrun, Folder.modify_modify h]
      | none =>
          obtain ⟨a, f', hreaches, hrun⟩ := ih false h
          refine ⟨a, f', .step (.refused ?_) hreaches, ?_⟩
          · rintro name rfl
            exact hstep
          · rw [runAt, Folder.performAt_bind_of_none s _ h hstep, hrun]

theorem place_runAt (here : List String) (run : Nat) (a : Artifact) :
    (a.place perform run).runAt here = a.place (Folder.performAt here) run := by
  unfold Artifact.place
  refine (runAt_bind here _ _).trans (bind_congr fun written => ?_)
  cases written with
  | true =>
      refine (runAt_bind here _ _).trans (bind_congr fun renamed => ?_)
      cases renamed <;> rfl
  | false => rfl

theorem placeAll_runAt (here : List String) (run : Nat) (as : List Artifact) :
    (placeAll perform run as).runAt here = placeAll (Folder.performAt here) run as := by
  induction as with
  | nil => rfl
  | cons a rest ih =>
      refine (runAt_bind here _ _).trans ?_
      rw [place_runAt]
      refine bind_congr fun r => ?_
      cases r with
      | ok _ => exact ih
      | error e => rfl

end Program

/-- What placing artifacts does to a folder is one of the things that it can come to. -/
theorem reaches_placeAll {root : Folder} {here : List String} (run : Nat) (as : List Artifact)
    (h : root.at? here = some (.folder f)) :
    ∃ r f', (placeAll Program.perform run as).Reaches f (.done r) f' ∧
      (placeAll (Folder.performAt here) run as).run root =
        pure (r, root.modify (fun _ => f') here) := by
  rw [← Program.placeAll_runAt]
  exact Program.reaches_runAt h _

namespace Specification

variable {folder : String} {root : Folder} {here : List String}

/-- What a run does to the folder that its path leads to is one of the things that it can come to
there. -/
theorem writeTo_reaches (s : Specification) (c : Configuration) (baseName : String) (run : Nat)
    (hopen : root.openAt folder = .ok (here, f)) :
    ∃ r f', (s.writeTo Program.storage c baseName folder run).Reaches f (.done r) f' ∧
      (s.writeTo Folder.storage c baseName folder run).run root =
        pure (r, root.modify (fun _ => f') here) := by
  have hat := Folder.at?_of_openAt hopen
  cases hg : s.generate c baseName with
  | error e =>
      refine ⟨.error e, f, ?_, ?_⟩
      · simp only [writeTo, hg]
        exact .refl
      · rw [writeTo_of_error hg, Folder.modify_self hat]
  | ok g =>
      obtain ⟨r, f', hreaches, hrun⟩ := reaches_placeAll run g.artifacts hat
      refine ⟨r.map fun () => g, f', ?_, ?_⟩
      · rw [writeTo_storage (Folder.openAt_eq_ok.mp hopen).1 hg]
        exact hreaches.bind _
      · rw [writeTo_run hopen hg, StateT.run_bind, hrun]
        rfl

/-- When a run has been written to a folder, or has failed, each artifact stands there as before or
complete, nothing else has changed, and nothing is left under a temporary name. -/
theorem exists_replacesWhole_of_writeTo {s : Specification} {c : Configuration}
    {baseName : String} {g : Generation} {root' : Folder}
    {outcome : Except GenerationError Generation} (hopen : root.openAt folder = .ok (here, f))
    (hg : s.generate c baseName = .ok g) (hclear : s.IsClear c baseName f run)
    (h : (s.writeTo Folder.storage c baseName folder run).run root = (outcome, root')) :
    ∃ f', root' = root.modify (fun _ => f') here ∧ f.ReplacesWhole f' run g.artifacts ∧
      ∀ a ∈ g.artifacts, f'.get? (temporaryName run a.path) = none := by
  have has := hclear.isReady hg
  obtain ⟨r, f', hreaches, hrun⟩ := writeTo_reaches s c baseName run hopen
  rw [h] at hrun
  obtain ⟨-, rfl⟩ := Prod.mk.inj hrun
  have hplacing := placingAll_of_writeTo ⟨.ok (), rfl⟩ (fun _ => rfl) hg has hreaches
  exact ⟨f', rfl, hplacing.replacesWhole has (artifacts_nodup hg),
    fun a ha => hplacing.get?_temporaryName_of_done has ha⟩

end Specification

end ServiceContract
