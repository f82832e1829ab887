import ServiceContract.Proofs.Yaml.Nodes

/-!
# Written values read back

Every text that is written for a value without numbers is read as that value, with every key once.
-/

namespace ServiceContract.Yaml

/-! ## The characters of a written text -/

variable {c : Char} {cs : List Char} {n k d : Nat} {v : Value}

theorem isPrintable_of_mem_pad (h : c ∈ pad n) : isPrintable c = true := by
  rw [List.eq_of_mem_replicate h]
  rfl

theorem isPrintable_of_goesOn {inWord : Bool} (h : GoesOn inWord cs) :
    ∀ c ∈ cs, isPrintable c = true := by
  induction cs generalizing inWord with
  | nil => simp
  | cons c rest ih => exact List.forall_mem_cons.mpr ⟨h.1.printable, ih h.2.2.2⟩

theorem isPrintable_continued {each : Char → List Char} {atStart : Bool}
    (h : ∀ c ∈ cs, isPrintable c = true)
    (heach : ∀ c, isPrintable c = true → ∀ d ∈ each c, isPrintable d = true) :
    ∀ c ∈ continued n each atStart cs, isPrintable c = true := by
  induction cs generalizing atStart with
  | nil => simp [continued]
  | cons c rest ih =>
      rw [List.forall_mem_cons] at h
      rw [continued]
      split
      · exact List.forall_mem_cons.mpr ⟨h.1, ih h.2⟩
      · simp only [List.forall_mem_append]
        refine ⟨⟨fun d hd => ?_, heach c h.1⟩, ih h.2⟩
        split at hd
        · exact isPrintable_of_mem_pad hd
        · cases hd

theorem isPrintable_singleQuoted (h : ∀ c ∈ cs, isPrintable c = true) :
    ∀ c ∈ singleQuoted n cs, isPrintable c = true := by
  have htext : ∀ c ∈ continued n singleQuotedChar false cs, isPrintable c = true := by
    refine isPrintable_continued h fun c hc d hd => ?_
    by_cases hquote : c = '\'' <;> simp_all [singleQuotedChar]
  simp only [singleQuoted, List.forall_mem_cons, List.forall_mem_append]
  refine ⟨rfl, ⟨htext, fun c hc => ?_⟩, by simp [isPrintable]⟩
  split at hc
  · exact isPrintable_of_mem_pad hc
  · cases hc

theorem isPrintable_hexText {width value : Nat} :
    ∀ c ∈ Json.hexText true width value, isPrintable c = true := by
  have hdigit : ∀ d < 16, isPrintable (Json.hexDigit true d) = true := by decide
  induction width generalizing value with
  | zero => simp [Json.hexText]
  | succ width ih =>
      rw [Json.hexText, List.forall_mem_append]
      exact ⟨ih, by simpa using hdigit (value % 16) (Nat.mod_lt _ (by decide))⟩

theorem isPrintable_doubleQuoted : ∀ c ∈ doubleQuoted cs, isPrintable c = true := by
  have hchar (c : Char) : ∀ d ∈ doubleQuotedChar c, isPrintable d = true := by
    have hwritten := isEscaped_doubleQuotedChar c
    generalize doubleQuotedChar c = written at hwritten ⊢
    cases hwritten with
    | inline h => simpa using h.printable
    | letter x hx => simpa using ⟨rfl, hx.printable⟩
    | code x width hx =>
        rw [List.forall_mem_cons, List.forall_mem_cons]
        exact ⟨rfl, hx.printable, isPrintable_hexText⟩
  simp only [doubleQuoted, List.forall_mem_cons, List.forall_mem_append, List.forall_mem_flatMap]
  exact ⟨rfl, fun c _ => hchar c, by simp [isPrintable]⟩

theorem isPrintable_literal (h : ∀ c ∈ cs, isPrintable c = true) :
    ∀ c ∈ literal n cs, isPrintable c = true := by
  have htext : ∀ c ∈ continued n (fun c => [c]) true cs, isPrintable c = true :=
    isPrintable_continued h fun c hc d hd => by simp_all
  have hmarks : ∀ c ∈ literalMarks cs, isPrintable c = true := by
    unfold literalMarks
    dsimp only
    split_ifs <;> simp [isPrintable]
  simp only [literal, List.forall_mem_cons, List.forall_mem_append]
  refine ⟨rfl, hmarks, rfl, htext, ?_⟩
  split_ifs <;> simp [isPrintable]

theorem isPrintable_stringLine : ∀ c ∈ stringLine n cs, isPrintable c = true := by
  have hnewline : ∀ c ∈ ['\n'], isPrintable c = true := List.all_eq_true.mp rfl
  rw [stringLine]
  cases hstyle : styleOf cs with
  | plain =>
      exact List.forall_mem_append.mpr
        ⟨isPrintable_of_goesOn (isPlainText_of_styleOf hstyle).1.goesOn, hnewline⟩
  | singleQuoted =>
      exact List.forall_mem_append.mpr
        ⟨isPrintable_singleQuoted (isSingleText_of_styleOf hstyle).printable, hnewline⟩
  | doubleQuoted => exact List.forall_mem_append.mpr ⟨isPrintable_doubleQuoted, hnewline⟩
  | literal => exact isPrintable_literal (isLiteralText_of_styleOf hstyle).printable

theorem isPrintable_simpleKey : ∀ c ∈ simpleKey n cs, isPrintable c = true := by
  rw [simpleKey]
  cases hstyle : styleOf cs with
  | plain => exact isPrintable_of_goesOn (isPlainText_of_styleOf hstyle).1.goesOn
  | singleQuoted => exact isPrintable_singleQuoted (isSingleText_of_styleOf hstyle).printable
  | doubleQuoted => exact isPrintable_doubleQuoted
  | literal => exact isPrintable_doubleQuoted

theorem isPrintable_keyText {key : String} : ∀ c ∈ keyText n key, isPrintable c = true := by
  rw [keyText]
  split
  · exact List.forall_mem_append.mpr ⟨isPrintable_simpleKey, List.all_eq_true.mp rfl⟩
  · simp only [List.forall_mem_cons, List.forall_mem_append]
    exact ⟨rfl, rfl, ⟨isPrintable_stringLine, fun c hc => isPrintable_of_mem_pad hc⟩, rfl, by simp⟩

/-- A value that is written with printable characters only. -/
structure IsShown (v : Value) : Prop where
  afterMark : ∀ k, ∀ c ∈ afterMark k v, isPrintable c = true
  afterKey : ∀ k, ∀ c ∈ afterKey k v, isPrintable c = true

theorem isPrintable_sequence {items : List Value} (h : ∀ w ∈ items, IsShown w) :
    ∀ c ∈ sequence k items, isPrintable c = true := by
  induction items with
  | nil => simp [sequence]
  | cons v rest ih =>
      rw [List.forall_mem_cons] at h
      have hv := h.1.afterMark k
      cases rest with
      | nil => exact List.forall_mem_cons.mpr ⟨rfl, hv⟩
      | cons w rest =>
          simp only [sequence, List.forall_mem_cons, List.forall_mem_append]
          exact ⟨rfl, ⟨hv, fun c hc => isPrintable_of_mem_pad hc⟩, ih h.2⟩

theorem isPrintable_mapping {entries : List (String × Value)} (h : ∀ e ∈ entries, IsShown e.2) :
    ∀ c ∈ mapping k entries, isPrintable c = true := by
  induction entries with
  | nil => simp [mapping]
  | cons e rest ih =>
      obtain ⟨key, v⟩ := e
      rw [List.forall_mem_cons] at h
      have hv : ∀ c ∈ if isSimpleKey key then afterKey k v else afterMark k v,
          isPrintable c = true := by
        split
        · exact h.1.afterKey k
        · exact h.1.afterMark k
      cases rest with
      | nil =>
          simp only [mapping, List.forall_mem_append]
          exact ⟨isPrintable_keyText, hv⟩
      | cons e rest =>
          simp only [mapping, List.forall_mem_append]
          exact ⟨⟨⟨isPrintable_keyText, hv⟩, fun c hc => isPrintable_of_mem_pad hc⟩, ih h.2⟩

theorem isPrintable_scalarLine (hv : v.IsWordy d) : ∀ c ∈ scalarLine k v, isPrintable c = true := by
  cases hv with
  | null => exact List.all_eq_true.mp (rfl : "null\n".toList.all isPrintable = true)
  | bool b =>
      cases b with
      | true => exact List.all_eq_true.mp (rfl : "true\n".toList.all isPrintable = true)
      | false => exact List.all_eq_true.mp (rfl : "false\n".toList.all isPrintable = true)
  | text s => exact isPrintable_stringLine
  | list h => exact List.all_eq_true.mp (rfl : "[]\n".toList.all isPrintable = true)
  | map h => exact List.all_eq_true.mp (rfl : "{}\n".toList.all isPrintable = true)

theorem isShown_of_isScalar (hscalar : Lexer.isScalar v = true) (hv : v.IsWordy d) : IsShown v := by
  have hline (k : Nat) : ∀ c ∈ ' ' :: scalarLine (k + 2) v, isPrintable c = true :=
    List.forall_mem_cons.mpr ⟨rfl, isPrintable_scalarLine hv⟩
  refine ⟨fun k => ?_, fun k => ?_⟩
  · rw [afterMark_eq, Lexer.inline_eq_scalarLine hscalar]
    exact hline k
  · rw [Lexer.afterKey_eq_scalarLine hscalar]
    exact hline k

theorem isShown_of_isWordy (hv : v.IsWordy d) : IsShown v := by
  induction hv with
  | @null d => exact isShown_of_isScalar rfl (.null (d := d))
  | @bool d b => exact isShown_of_isScalar rfl (.bool (d := d) b)
  | @text d s => exact isShown_of_isScalar rfl (.text (d := d) s)
  | @list d items h ih =>
      cases items with
      | nil => exact isShown_of_isScalar rfl (.list h)
      | cons v rest =>
          refine ⟨fun k => List.forall_mem_cons.mpr ⟨rfl, isPrintable_sequence ih⟩,
            fun k => List.forall_mem_cons.mpr ⟨rfl, List.forall_mem_append.mpr
              ⟨fun c hc => isPrintable_of_mem_pad hc, isPrintable_sequence ih⟩⟩⟩
  | @map d entries h ih =>
      cases entries with
      | nil => exact isShown_of_isScalar rfl (.map h)
      | cons e rest =>
          refine ⟨fun k => List.forall_mem_cons.mpr ⟨rfl, isPrintable_mapping ih⟩,
            fun k => List.forall_mem_cons.mpr ⟨rfl, List.forall_mem_append.mpr
              ⟨fun c hc => isPrintable_of_mem_pad hc, isPrintable_mapping ih⟩⟩⟩

theorem isPrintable_documentText (hv : v.IsWordy d) :
    ∀ c ∈ documentText v, isPrintable c = true := by
  cases hv with
  | @null d => exact isPrintable_scalarLine (k := 2) (.null (d := d))
  | @bool d b => exact isPrintable_scalarLine (.bool (d := d) b)
  | @text d s => exact isPrintable_scalarLine (.text (d := d) s)
  | @list d items h =>
      cases items with
      | nil => exact isPrintable_scalarLine (k := 2) (.list h)
      | cons v rest => exact isPrintable_sequence fun w hw => isShown_of_isWordy (h w hw)
  | @map d entries h =>
      cases entries with
      | nil => exact isPrintable_scalarLine (k := 2) (.map h)
      | cons e rest => exact isPrintable_mapping fun e' he' => isShown_of_isWordy (h e' he')

/-! ## Reading back -/

theorem isTextChar_of_isPrintable (h : isPrintable c = true) : isTextChar c = true := by
  simp only [isPrintable, isTextChar, Bool.or_eq_true, Bool.and_eq_true, decide_eq_true_eq] at h ⊢
  omega

theorem skipByteOrderMark_eq_self (h : ∀ c ∈ cs, isPrintable c = true) :
    skipByteOrderMark cs = cs := by
  cases cs with
  | nil => rfl
  | cons c rest =>
      have hc : c.toNat ≠ 0xFEFF := by
        have hprintable := h c (List.mem_cons_self ..)
        simp only [isPrintable, Bool.or_eq_true, Bool.and_eq_true, decide_eq_true_eq] at hprintable
        omega
      exact if_neg hc

theorem tokens?_documentText (hv : v.IsWordy d) :
    tokens? (documentText v) = some (valueTokens false v ++ [.streamEnd]) := by
  have hprintable := isPrintable_documentText hv
  have hall : (documentText v).all isTextChar = true :=
    List.all_eq_true.mpr fun c hc => isTextChar_of_isPrintable (hprintable c hc)
  rw [tokens?, if_pos hall, skipByteOrderMark_eq_self hprintable,
    skipByteOrderMark_eq_self hprintable]
  exact Lexer.run_documentText hv

/-- What is written for a value is read as the value. -/
theorem read?_render (hv : v.IsWordy 128) : read? (render v) = some v.unique := by
  rw [read?, render, String.toList_ofList, tokens?_documentText hv]
  simp [document?_valueTokens hv, value?_valueNode hv]

end ServiceContract.Yaml
