import ServiceContract.Proofs.Folder.Walk
import ServiceContract.Proofs.Generation.Artifacts
import ServiceContract.Storage

/-!
# Placing artifacts

Artifacts are put in their places one after another. One of them has no place if a folder is there,
or if its temporary name is too long; then those before it stay, and it leaves nothing behind.
-/

namespace ServiceContract

variable {f root : Folder} {here : List String} {run : Nat} {a : Artifact} {as : List Artifact}

/-! ## Temporary names -/

theorem isPlain_of_isFileName {name : String} (h : isFileName name) : Folder.IsPlain name := by
  rw [isFileName, Bool.and_eq_true, Bool.and_eq_true, Bool.and_eq_true] at h
  obtain ⟨⟨⟨hblank, hdot⟩, hdots⟩, hchars⟩ := h
  refine ⟨?_, of_decide_eq_true hdot, of_decide_eq_true hdots, ?_⟩
  · rintro rfl
    exact absurd hblank (by decide)
  · intro c hc
    have hchar := List.all_eq_true.mp hchars c hc
    rw [Bool.and_eq_true, Bool.and_eq_true] at hchar
    exact ⟨of_decide_eq_true hchar.1.1, of_decide_eq_true hchar.2⟩

theorem isPlain_temporaryName (run : Nat) (h : isFileName a.path) :
    Folder.IsPlain (temporaryName run a.path) := by
  have hpath := (isPlain_of_isFileName h).chars
  have hrun : ∀ c ∈ (toString run).toList, c ≠ '/' ∧ c.toNat ≠ 0 := by
    intro c hc
    rw [Nat.toString_eq_ofList_toDigits, String.toList_ofList] at hc
    have hdigit := Nat.isDigit_of_mem_toDigits (by decide) (by decide) hc
    constructor
    · rintro rfl
      exact absurd hdigit (by decide)
    · have hle := (Char.isDigit_iff_toNat.mp hdigit).1
      have hzero : '0'.toNat = 48 := rfl
      omega
  have htoList : (temporaryName run a.path).toList =
      '.' :: (a.path.toList ++ '.' :: ((toString run).toList ++ ['.', 't', 'm', 'p'])) := by
    simp [temporaryName]
  have hlong : ∀ name, name.toList.length < 3 → temporaryName run a.path ≠ name := by
    rintro name hname rfl
    rw [htoList] at hname
    simp at hname
    omega
  refine ⟨hlong _ (by decide), hlong _ (by decide), hlong _ (by decide), ?_⟩
  intro c hc
  rw [htoList] at hc
  simp only [List.mem_cons, List.mem_append, List.not_mem_nil, or_false] at hc
  rcases hc with rfl | hc | rfl | hc | rfl | rfl | rfl | rfl
  · decide
  · exact hpath c hc
  · decide
  · exact hrun c hc
  all_goals decide

/-- A temporary name does not end as the files of runs do. -/
theorem temporaryName_ne (run : Nat) (path stem : String) :
    temporaryName run path ≠ stem ++ ".yaml" := by
  intro h
  have hlast := congrArg (fun s => s.toList.getLast?) h
  have htmp : ".tmp".toList.getLast? = some 'p' := by decide
  have hyaml : ".yaml".toList.getLast? = some 'l' := by decide
  simp only [temporaryName, String.toList_append, List.getLast?_append, htmp, hyaml,
    Option.some_or] at hlast
  exact absurd hlast (by decide)

theorem fits_of_fits_temporaryName (h : Folder.fits (temporaryName run a.path)) :
    Folder.fits a.path := by
  simp only [Folder.fits, temporaryName, String.utf8ByteSize_append, decide_eq_true_eq] at h ⊢
  omega

/-! ## One artifact -/

/-- Whether an artifact can be placed in a folder. -/
def Artifact.hasPlace (f : Folder) (run : Nat) (a : Artifact) : Bool :=
  Folder.fits (temporaryName run a.path) &&
    match f.get? a.path with
    | some (.folder _) => false
    | _ => true

theorem Artifact.fits_of_hasPlace (h : a.hasPlace f run) : Folder.fits a.path :=
  fits_of_fits_temporaryName (Bool.and_eq_true_iff.mp h).1

/-- The folder with artifacts in their places. -/
def Folder.withArtifacts (f : Folder) (as : List Artifact) : Folder :=
  as.foldl (fun f a => f.put a.path (.file a.content)) f

/-- What the names of an artifact are like, in a folder that holds nothing under its temporary
name. -/
structure Artifact.IsReady (f : Folder) (run : Nat) (a : Artifact) : Prop where
  isFileName : isFileName a.path
  path_eq : ∃ stem, a.path = stem ++ ".yaml"
  free : f.get? (temporaryName run a.path) = none

/-- A file at the place of an artifact takes no place from another one. -/
theorem Artifact.hasPlace_put (b : Artifact) (ha : a.hasPlace f run) (content : ByteArray) :
    b.hasPlace (f.put a.path (.file content)) run = b.hasPlace f run := by
  unfold hasPlace at ha ⊢
  rw [Folder.get?_put]
  by_cases hb : b.path = a.path
  · simp only [hb, if_true, Bool.and_true]
    exact ((Bool.and_eq_true_iff.mp ha).1.trans ha.symm)
  · rw [if_neg hb]

theorem Artifact.IsReady.put {b : Artifact} (hb : b.IsReady f run)
    (ha : ∃ stem, a.path = stem ++ ".yaml") (e : Entry) : b.IsReady (f.put a.path e) run := by
  obtain ⟨stem, ha⟩ := ha
  refine ⟨hb.isFileName, hb.path_eq, ?_⟩
  rw [Folder.get?_put_of_ne _ _ (ha ▸ temporaryName_ne run b.path stem), hb.free]

namespace Folder

section

variable {α : Type} (step : Step) (next : Bool → StateM Folder α)

/-- After a step that succeeds its folder is changed. -/
theorem performAt_bind_of_some {f' : Folder} (h : root.at? here = some (.folder f))
    (hstep : f.perform? step = some f') :
    (performAt here step >>= next).run root =
      (next true).run (root.modify (fun _ => f') here) := by
  simp only [performAt, StateT.run_bind, StateT.run_get, pure_bind, h, hstep, StateT.run_set,
    StateT.run_pure]

/-- After a step that fails everything is as it was. -/
theorem performAt_bind_of_none (h : root.at? here = some (.folder f))
    (hstep : f.perform? step = none) :
    (performAt here step >>= next).run root = (next false).run root := by
  simp only [performAt, StateT.run_bind, StateT.run_get, pure_bind, h, hstep, StateT.run_pure]

end

/-- A complete file goes to the place of its artifact, if no folder is there. -/
theorem rename?_temporary (ha : a.IsReady f run) (hfits : fits (temporaryName run a.path))
    (content : ByteArray) :
    (f.put (temporaryName run a.path) (.file content)).rename? (temporaryName run a.path) a.path =
      if a.hasPlace f run then some (f.put a.path (.file content)) else none := by
  obtain ⟨stem, hpath⟩ := ha.path_eq
  have hne : a.path ≠ temporaryName run a.path := by
    intro he
    exact temporaryName_ne run a.path stem (he.symm.trans hpath)
  have htarget := get?_put_of_ne f (.file content) hne
  have hshort := fits_of_fits_temporaryName hfits
  unfold rename? Artifact.hasPlace
  rw [get?_put_self, htarget, erase_put ha.free, hfits, hshort, Bool.true_and]
  cases f.get? a.path with
  | none => rfl
  | some e => cases e <;> rfl

/-- An artifact is placed as a whole, or not at all. -/
theorem place_run (h : root.at? here = some (.folder f)) (ha : a.IsReady f run) :
    (a.place (performAt here) run).run root =
      if a.hasPlace f run then
        pure (.ok (), root.modify (fun _ => f.put a.path (.file a.content)) here)
      else pure (.error (.io ("write " ++ a.path)), root) := by
  have hwrite := write?_of_free (isPlain_temporaryName run ha.isFileName) ha.free a.content
  unfold Artifact.place
  by_cases hfits : fits (temporaryName run a.path)
  · let f' := f.put (temporaryName run a.path) (.file a.content)
    have hat : (root.modify (fun _ => f') here).at? here = some (.folder f') := at?_modify _ h
    have hrename := rename?_temporary ha hfits a.content
    rw [if_pos hfits] at hwrite
    rw [performAt_bind_of_some (.write _ _) _ h hwrite, if_pos rfl]
    by_cases hplace : a.hasPlace f run
    · rw [if_pos hplace] at hrename ⊢
      rw [performAt_bind_of_some (.rename _ _) _ hat hrename, if_pos rfl, StateT.run_pure,
        modify_modify h]
    · have hremove : f'.remove? (temporaryName run a.path) = some f := by
        rw [remove?, get?_put_self, erase_put ha.free]
      rw [if_neg hplace] at hrename ⊢
      rw [performAt_bind_of_none (.rename _ _) _ hat hrename, if_neg Bool.false_ne_true,
        performAt_bind_of_some (.remove _) _ hat hremove, StateT.run_pure, modify_modify h,
        modify_self h]
  · have hplace : ¬ a.hasPlace f run := by simp [Artifact.hasPlace, hfits]
    have hremove : f.remove? (temporaryName run a.path) = none := by rw [remove?, ha.free]
    rw [if_neg hfits] at hwrite
    rw [performAt_bind_of_none (.write _ _) _ h hwrite, if_neg Bool.false_ne_true,
      performAt_bind_of_none (.remove _) _ h hremove, StateT.run_pure, if_neg hplace]

/-! ## All artifacts -/

/-- What comes of placing artifacts: the first without a place is an error. -/
def placeOutcome (f : Folder) (run : Nat) (as : List Artifact) : Except GenerationError Unit :=
  match as.find? fun a => !a.hasPlace f run with
  | none => .ok ()
  | some a => .error (.io ("write " ++ a.path))

theorem placeOutcome_eq_ok : placeOutcome f run as = .ok () ↔ ∀ a ∈ as, a.hasPlace f run := by
  rw [placeOutcome]
  cases hfind : as.find? fun a => !a.hasPlace f run with
  | none => simpa using hfind
  | some a => simpa using ⟨a, List.mem_of_find?_eq_some hfind, by simpa using List.find?_some hfind⟩

theorem placeOutcome_eq_error {e : GenerationError} (h : placeOutcome f run as = .error e) :
    ∃ placed a rest, as = placed ++ a :: rest ∧ (∀ b ∈ placed, b.hasPlace f run) ∧
      ¬ a.hasPlace f run ∧ e = .io ("write " ++ a.path) ∧
      as.takeWhile (·.hasPlace f run) = placed := by
  rw [placeOutcome] at h
  cases hfind : as.find? fun a => !a.hasPlace f run with
  | none => simp [hfind] at h
  | some a =>
      obtain ⟨ha, placed, rest, rfl, hplaced⟩ := List.find?_eq_some_iff_append.mp hfind
      have hblocked : ¬ a.hasPlace f run := by simpa using ha
      have hplaced : ∀ b ∈ placed, b.hasPlace f run := by simpa using hplaced
      rw [hfind] at h
      cases h
      refine ⟨placed, a, rest, rfl, hplaced, hblocked, rfl, ?_⟩
      rw [List.takeWhile_append_of_pos hplaced, List.takeWhile_cons_of_neg hblocked,
        List.append_nil]

/-- The artifacts before the first without a place are placed. -/
theorem placeAll_run (h : root.at? here = some (.folder f)) (has : ∀ a ∈ as, a.IsReady f run) :
    (placeAll (performAt here) run as).run root =
      pure (placeOutcome f run as,
        root.modify (fun _ => f.withArtifacts (as.takeWhile (·.hasPlace f run))) here) := by
  induction as generalizing f root with
  | nil =>
      rw [placeAll, StateT.run_pure, List.takeWhile_nil, withArtifacts, List.foldl_nil,
        modify_self h]
      rfl
  | cons a rest ih =>
      obtain ⟨ha, hrest⟩ := List.forall_mem_cons.mp has
      rw [placeAll, StateT.run_bind, place_run h ha]
      by_cases hplace : a.hasPlace f run
      · -- the folder has changed, but not which artifacts have a place in it
        let f' := f.put a.path (.file a.content)
        have hat : (root.modify (fun _ => f') here).at? here = some (.folder f') := at?_modify _ h
        have hready : ∀ b ∈ rest, b.IsReady f' run := fun b hb => (hrest b hb).put ha.path_eq _
        have hsame : (fun b : Artifact => b.hasPlace f' run) = fun b => b.hasPlace f run :=
          funext fun b => Artifact.hasPlace_put b hplace a.content
        have houtcome : placeOutcome f' run rest = placeOutcome f run (a :: rest) := by
          unfold placeOutcome
          rw [List.find?_cons_of_neg (by simp [hplace])]
          simp only [congrFun hsame]
        rw [if_pos hplace, pure_bind]
        dsimp only
        rw [ih hat hready, modify_modify h, houtcome, hsame, List.takeWhile_cons_of_pos hplace]
        rfl
      · rw [if_neg hplace, pure_bind, StateT.run_pure, List.takeWhile_cons_of_neg hplace,
          placeOutcome, List.find?_cons_of_pos (by simp [hplace]), withArtifacts, List.foldl_nil,
          modify_self h]

end Folder

end ServiceContract
