import ServiceContract.Proofs.Folder.Entries

/-!
# Where paths lead

A path leads to the same folder whether or not it is written with empty parts and single dots, and a
folder that is there is not made again.
-/

namespace ServiceContract.Folder

variable {f root : Folder} {follow : Bool} {links : Nat} {here : List String}

/-! ## Plain names -/

/-- A name that is no path. -/
structure IsPlain (name : String) : Prop where
  ne_empty : name ≠ ""
  ne_dot : name ≠ "."
  ne_dots : name ≠ ".."
  chars : ∀ c ∈ name.toList, c ≠ '/' ∧ c.toNat ≠ 0

theorem splitChars_of_notMem {c : Char} {cs : List Char} (h : c ∉ cs) :
    Text.splitChars c cs = [cs] := by
  induction cs with
  | nil => rfl
  | cons d rest ih =>
      obtain ⟨hd, hrest⟩ := not_or.mp (mt List.mem_cons.mpr h)
      simp [Text.splitChars, ih hrest, Ne.symm hd]

theorem IsPlain.rawParts_eq {name : String} (h : IsPlain name) : rawParts name = [name] := by
  have hslash : '/' ∉ name.toList := fun hmem => (h.chars _ hmem).1 rfl
  simp [rawParts, splitChars_of_notMem hslash]

theorem IsPlain.isUsable_eq {name : String} (h : IsPlain name) : isUsable name = fits name := by
  have hall : name.toList.all (·.toNat ≠ 0) := by
    simpa using fun c hc => (h.chars c hc).2
  rw [isUsable, hall, Bool.and_true]

theorem IsPlain.resolve_eq {name : String} (h : IsPlain name) :
    f.resolve follow name = walk f follow maxLinks [] [name] := by
  have habsolute : Text.isAbsolute name = false := by
    unfold Text.isAbsolute
    cases hcs : name.toList with
    | nil => rfl
    | cons c rest =>
        have hc := (h.chars c (by simp [hcs])).1
        simpa using hc
  simp [resolve, h.ne_empty, habsolute, h.rawParts_eq]

/-- A name that is free is written to, if it is short enough. -/
theorem write?_of_free {name : String} (h : IsPlain name) (hfree : f.get? name = none)
    (content : ByteArray) :
    f.write? name content = if fits name then some (f.put name (.file content)) else none := by
  rw [write?, h.resolve_eq, walk]
  by_cases hfits : fits name
  · simp [h.ne_empty, h.ne_dot, h.ne_dots, h.isUsable_eq, hfits, at?, hfree, modify]
  · simp [h.ne_empty, h.ne_dot, h.ne_dots, h.isUsable_eq, hfits]

/-! ## Parts that lead nowhere else -/

/-- Whether a part of a path leads to something else. -/
def isMove (part : String) : Bool := part ≠ "" && part ≠ "."

theorem walk_append {idle rest : List String} (h : ∀ part ∈ idle, ¬ isMove part) :
    walk root follow links here (idle ++ rest) = walk root follow links here rest := by
  induction idle with
  | nil => rfl
  | cons part more ih =>
      obtain ⟨hpart, hmore⟩ := List.forall_mem_cons.mp h
      have hskip : (part = "" || part = ".") = true := by
        simpa [isMove, or_iff_not_imp_left] using hpart
      rw [List.cons_append, walk, if_pos hskip, ih hmore]

/-- Parts with the same moves as a list that starts with one start with that move, too. -/
theorem exists_of_filter_eq_cons {part : String} {rest parts : List String} (hpart : isMove part)
    (h : (part :: rest).filter isMove = parts.filter isMove) :
    ∃ idle rest', parts = idle ++ part :: rest' ∧ (∀ p ∈ idle, ¬ isMove p) ∧
      rest.filter isMove = rest'.filter isMove := by
  rw [List.filter_cons_of_pos hpart] at h
  obtain ⟨idle, rest', hparts, hidle, -, hrest⟩ := List.filter_eq_cons_iff.mp h.symm
  exact ⟨idle, rest', hparts, hidle, hrest.symm⟩

/-- Where a walk that ends at a folder leads depends on the moves only. -/
theorem walk_eq_of_filter_eq {parts parts' : List String} {path : List String}
    (hparts : parts.filter isMove = parts'.filter isMove)
    (h : walk root true links here parts = .ok (.entry path (.folder f))) :
    walk root true links here parts' = .ok (.entry path (.folder f)) := by
  -- by the first walk: the second skips what is idle before each of its moves
  fun_induction walk root true links here parts generalizing parts' with
  | case1 links here e he =>
      have hidle : ∀ part ∈ parts', ¬ isMove part := List.filter_eq_nil_iff.mp hparts.symm
      rw [← List.append_nil parts', walk_append hidle, walk, he]
      exact h
  | case3 links here part rest hskip ih =>
      refine ih ?_ h
      rwa [List.filter_cons_of_neg (by simpa [isMove, or_iff_not_imp_left] using hskip)] at hparts
  | case5 links here rest hhere hskip ih =>
      obtain ⟨idle, rest', rfl, hidle, hrest⟩ := exists_of_filter_eq_cons (by decide) hparts
      rw [walk_append hidle, walk, if_neg hskip, if_pos rfl, if_neg hhere]
      exact ih hrest h
  | case9 links here part rest hskip hdots husable path inner hat =>
      rename_i ih
      have hmove : isMove part := by simpa [isMove] using hskip
      obtain ⟨idle, rest', rfl, hidle, hrest⟩ := exists_of_filter_eq_cons hmove hparts
      rw [walk_append hidle, walk, if_neg hskip, if_neg hdots, if_neg husable]
      simp only
      rw [hat]
      exact ih hrest h
  | case15 here part rest hskip hdots husable path target hat hend habsolute links =>
      rename_i ih
      have hmove : isMove part := by simpa [isMove] using hskip
      obtain ⟨idle, rest', rfl, hidle, hrest⟩ := exists_of_filter_eq_cons hmove hparts
      rw [walk_append hidle, walk, if_neg hskip, if_neg hdots, if_neg husable]
      simp only
      rw [hat]
      simp only [Bool.not_true, Bool.and_false, Bool.false_eq_true, if_false, habsolute]
      refine ih ?_ h
      rw [List.filter_append, List.filter_append, hrest]
  | _ => simp at h

/-- A name that is free without following a link at the end is free. -/
theorem walk_free {parts dir : List String} {name : String}
    (h : walk root false links here parts = .ok (.free dir name)) :
    walk root true links here parts = .ok (.free dir name) := by
  fun_induction walk root false links here parts with
  | case3 links here part rest hskip ih => rw [walk, if_pos hskip, ih h]
  | case5 links here rest hhere hskip ih =>
      rw [walk, if_neg hskip, if_pos rfl, if_neg hhere, ih h]
  | case7 links here part rest hskip hdots husable path hat hend =>
      rw [walk, if_neg hskip, if_neg hdots, if_neg husable]
      simp only
      rw [hat, if_pos hend, h]
  | case9 links here part rest hskip hdots husable path inner hat =>
      rename_i ih
      rw [walk, if_neg hskip, if_neg hdots, if_neg husable]
      simp only
      rw [hat]
      exact ih h
  | case15 here part rest hskip hdots husable path target hat hend habsolute links =>
      rename_i ih
      rw [walk, if_neg hskip, if_neg hdots, if_neg husable]
      simp only
      rw [hat]
      simp only [Bool.not_true, Bool.and_false, Bool.false_eq_true, if_false, habsolute]
      exact ih h
  | _ => simp at h

/-! ## Folders that are there -/

/-- Nothing is made where a folder is. -/
theorem ensure_of_isFolder {parts : List String} (h : isFolder root parts) :
    ensure root parts = .ok root := by
  -- a folder may be there through a link, which is then in the way of making one
  have hmake : ∀ made, make root parts ≠ .ok made := by
    intro made hmade
    unfold make at hmade
    cases hw : walk root false maxLinks [] parts with
    | error fault => simp [hw] at hmade
    | ok place =>
        cases place with
        | entry path e => simp [hw] at hmade
        | free dir name => simp [isFolder, walk_free hw] at h
  unfold ensure
  cases hm : make root parts with
  | ok made => exact absurd hm (hmake made)
  | error fault => simp [h]

/-- What a walk leads to stands where it ends. -/
theorem at?_of_walk {parts path : List String} {e : Entry}
    (h : walk root follow links here parts = .ok (.entry path e)) : root.at? path = some e := by
  fun_induction walk root follow links here parts with
  | case1 links here e' he | case10 links here part rest _ _ _ path' content he
  | case12 links here part rest _ _ _ path' target he =>
      simp only [Except.ok.injEq, Place.entry.injEq] at h
      obtain ⟨rfl, rfl⟩ := h
      exact he
  | case3 links here part rest hskip ih => exact ih h
  | case5 links here rest hhere hskip ih => exact ih h
  | case9 | case15 =>
      rename_i ih
      exact ih h
  | _ => simp at h

theorem openAt_eq_ok {path : String} :
    root.openAt path = .ok (here, f) ↔ path ≠ "" ∧ Text.isAbsolute path = false ∧
      walk root true maxLinks [] (rawParts path) = .ok (.entry here (.folder f)) := by
  unfold openAt resolve
  by_cases hempty : path = ""
  · simp [hempty]
  cases habsolute : Text.isAbsolute path with
  | true => simp
  | false =>
      cases walk root true maxLinks [] (rawParts path) with
      | error fault => simp [hempty]
      | ok place =>
          cases place with
          | free dir name => simp [hempty]
          | entry p e => cases e <;> simp [hempty]

/-- A folder that a path leads to stands where the path ends. -/
theorem at?_of_openAt {path : String} (h : root.openAt path = .ok (here, f)) :
    root.at? here = some (.folder f) :=
  at?_of_walk (openAt_eq_ok.mp h).2.2

/-- A folder within a folder is found by its name. -/
theorem openAt_of_get? {name : String} (h : IsPlain name) (hfits : fits name)
    (hget : root.get? name = some (.folder f)) : root.openAt name = .ok ([name], f) := by
  have hat : root.at? [name] = some (.folder f) := by
    rw [at?_cons, hget]
    rfl
  have hwalk : root.walk true maxLinks [] [name] = .ok (.entry [name] (.folder f)) := by
    rw [walk]
    simp only [h.ne_empty, h.ne_dot, h.ne_dots, h.isUsable_eq, hfits, List.nil_append, hat,
      decide_false, Bool.or_self, Bool.false_eq_true, if_false, Bool.not_true]
    rw [walk, hat]
  rw [openAt, h.resolve_eq, hwalk]

/-- A folder that a path leads to is not made again. -/
theorem makeAll_of_openAt {path : String} (h : root.openAt path = .ok (here, f)) :
    root.makeAll path = .ok root := by
  obtain ⟨-, habsolute, hwalk⟩ := openAt_eq_ok.mp h
  have hparts : (rawParts path).filter isMove = (Text.pathParts path).filter isMove := by
    have hpath : Text.pathParts path = (rawParts path).filter isMove := rfl
    simp [hpath, List.filter_filter]
  have hfolder : isFolder root (Text.pathParts path) := by
    simp [isFolder, walk_eq_of_filter_eq hparts hwalk]
  have hensure := ensure_of_isFolder hfolder
  rw [makeAll, if_neg (by simp [habsolute])]
  cases hrev : (Text.pathParts path).reverse with
  | nil => rfl
  | cons part before =>
      rw [← List.reverse_reverse (Text.pathParts path), hrev] at hensure
      rw [ensureAll, hensure]

/-! ## Folders that change -/

/-- Whether the folders and links of a folder are still there in another one. -/
structure Keeps (root root' : Folder) : Prop where
  folder : ∀ path inner, root.at? path = some (.folder inner) →
    ∃ inner', root'.at? path = some (.folder inner')
  link : ∀ path target, root.at? path = some (.link target) →
    root'.at? path = some (.link target)

variable {root' f' : Folder}

theorem walk_of_keeps (hkeeps : root.Keeps root') {parts path : List String}
    (h : walk root true links here parts = .ok (.entry path (.folder f))) :
    ∃ f', walk root' true links here parts = .ok (.entry path (.folder f')) := by
  -- a walk that ends at a folder meets nothing but folders and links
  fun_induction walk root true links here parts with
  | case1 links here e he =>
      obtain ⟨rfl, rfl⟩ : here = path ∧ e = .folder f := by simpa using h
      obtain ⟨f', hf'⟩ := hkeeps.folder here f he
      exact ⟨f', by rw [walk, hf']⟩
  | case3 links here part rest hskip ih =>
      obtain ⟨f', hf'⟩ := ih h
      exact ⟨f', by rw [walk, if_pos hskip, hf']⟩
  | case5 links here rest hhere hskip ih =>
      obtain ⟨f', hf'⟩ := ih h
      exact ⟨f', by rw [walk, if_neg hskip, if_pos rfl, if_neg hhere, hf']⟩
  | case9 links here part rest hskip hdots husable path' inner hat =>
      rename_i ih
      obtain ⟨f', hf'⟩ := ih h
      obtain ⟨inner', hinner⟩ := hkeeps.folder path' inner hat
      refine ⟨f', ?_⟩
      rw [walk, if_neg hskip, if_neg hdots, if_neg husable]
      simp only
      rw [hinner]
      exact hf'
  | case15 here part rest hskip hdots husable path' target hat hend habsolute links =>
      rename_i ih
      obtain ⟨f', hf'⟩ := ih h
      refine ⟨f', ?_⟩
      rw [walk, if_neg hskip, if_neg hdots, if_neg husable]
      simp only
      rw [hkeeps.link path' target hat]
      simp only [Bool.not_true, Bool.and_false, Bool.false_eq_true, if_false, habsolute]
      exact hf'
  | _ => simp at h

/-- Files may come and change. -/
theorem keeps_of_get? (h : ∀ name e, f.get? name = some e → (∀ content, e ≠ .file content) →
    f'.get? name = some e) : f.Keeps f' := by
  constructor
  · intro path inner hat
    cases path with
    | nil => exact ⟨f', rfl⟩
    | cons name rest =>
        obtain ⟨next, hget, hat⟩ := at?_cons_eq_folder hat
        exact ⟨inner, by rw [at?_cons, h name _ hget (by simp)]; exact hat⟩
  · intro path target hat
    cases path with
    | nil => simp [at?] at hat
    | cons name rest =>
        rw [at?_cons] at hat ⊢
        cases hget : f.get? name with
        | none => simp [hget] at hat
        | some e =>
            cases e with
            | file content => simp [hget] at hat
            | link t => rwa [h name _ hget (by simp), ← hget]
            | folder inner => rwa [h name _ hget (by simp), ← hget]

theorem keeps_modify (hat : root.at? here = some (.folder f)) (h : f.Keeps f') :
    root.Keeps (root.modify (fun _ => f') here) := by
  induction here generalizing root with
  | nil =>
      obtain rfl : root = f := by simpa [at?] using hat
      exact h
  | cons n rest ih =>
      obtain ⟨next, hget, hat⟩ := at?_cons_eq_folder hat
      have hnext := ih hat
      rw [modify_cons hget]
      constructor
      · intro path inner hpath
        cases path with
        | nil => exact ⟨_, rfl⟩
        | cons name more =>
            by_cases hname : name = n
            · subst hname
              rw [at?_cons, hget] at hpath
              rw [at?_cons, get?_put_self]
              exact hnext.folder more inner hpath
            · exact ⟨inner, by rw [at?_cons, get?_put_of_ne _ _ hname, ← at?_cons]; exact hpath⟩
      · intro path target hpath
        cases path with
        | nil => simp [at?] at hpath
        | cons name more =>
            by_cases hname : name = n
            · subst hname
              rw [at?_cons, hget] at hpath
              rw [at?_cons, get?_put_self]
              exact hnext.link more target hpath
            · rw [at?_cons, get?_put_of_ne _ _ hname, ← at?_cons]
              exact hpath

/-- A path still leads to a folder in which only files have come and changed. -/
theorem openAt_modify {path : String} (h : root.openAt path = .ok (here, f)) (hkeeps : f.Keeps f') :
    (root.modify (fun _ => f') here).openAt path = .ok (here, f') := by
  obtain ⟨hempty, habsolute, hwalk⟩ := openAt_eq_ok.mp h
  have hat := at?_of_walk hwalk
  obtain ⟨f'', hwalk'⟩ := walk_of_keeps (keeps_modify hat hkeeps) hwalk
  have hfolder := (at?_of_walk hwalk').symm.trans (at?_modify (fun _ => f') hat)
  obtain rfl : f'' = f' := by simpa using hfolder
  exact openAt_eq_ok.mpr ⟨hempty, habsolute, hwalk'⟩

/-- Whether a path leads to the folder at a list of names, and not through anything that the folder
holds. -/
def LeadsTo (root : Folder) (path : String) (here : List String) : Prop :=
  (root.modify (fun _ => []) here).openAt path = .ok (here, [])

/-- Such a path leads there whatever the folder holds. -/
theorem LeadsTo.openAt_modify {path : String} (h : root.LeadsTo path here)
    (hat : root.at? here = some (.folder f)) (f' : Folder) :
    (root.modify (fun _ => f') here).openAt path = .ok (here, f') := by
  have hkeeps : Keeps [] f' := keeps_of_get? (by simp [get?])
  have hopen := Folder.openAt_modify h hkeeps
  rwa [modify_modify hat] at hopen

end ServiceContract.Folder
