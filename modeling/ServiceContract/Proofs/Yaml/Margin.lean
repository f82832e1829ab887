import ServiceContract.Proofs.Text.Lines
import ServiceContract.Proofs.Yaml.RoundTrip

/-!
# The margin of a written text

Lines that go on with the text of a value are indented, and all others begin with a key, or with a
dash and a blank. So no line is made of dashes alone, whatever the keys and texts of a value hold.
-/

namespace ServiceContract.Yaml

open Numeral Text

/-- What stands on a line so far: nothing, dashes alone, or more than that. -/
inductive LineState where
  | blank
  | dashes
  | filled
deriving DecidableEq

/-- A text that goes on a line, and what stands on the line that it leaves. A line of dashes alone
does not end in it. -/
inductive Writes : LineState → List Char → LineState → Prop where
  | nil (m : LineState) : Writes m [] m
  | dash {m m' : LineState} {rest : List Char} (h : m ≠ .filled) :
      Writes .dashes rest m' → Writes m ('-' :: rest) m'
  | fill {m m' : LineState} {c : Char} {rest : List Char} (hc : isBreak c = false)
      (h : c = '-' → m = .filled) : Writes .filled rest m' → Writes m (c :: rest) m'
  | lineEnd {m m' : LineState} {c : Char} {rest : List Char} (hc : isBreak c = true)
      (h : m ≠ .dashes) : Writes .blank rest m' → Writes m (c :: rest) m'

variable {m m' m'' : LineState} {cs ds line : List Char} {c : Char} {k n : ℕ} {v : Value}

/-! ## Lines -/

namespace Writes

theorem append (h : Writes m cs m') (h' : Writes m' ds m'') : Writes m (cs ++ ds) m'' := by
  induction h with
  | nil => exact h'
  | dash h _ ih => exact .dash h (ih h')
  | fill hc h _ ih => exact .fill hc h (ih h')
  | lineEnd hc h _ ih => exact .lineEnd hc h (ih h')

/-- A text that ends its lines is written line by line. -/
theorem lines {lines : List (List Char)} (h : Writes m cs .blank)
    (hlines : Lines isBreak cs lines) : (∀ line ∈ lines.head?, Writes m line .blank) ∧
      ∀ line ∈ lines.tail, Writes .blank line .blank := by
  generalize hblank : LineState.blank = m' at h
  induction h generalizing lines with
  | nil => cases hlines; simp
  | @dash m m' rest hm h ih =>
      subst hblank
      cases hlines with
      | ended hc _ => cases hc
      | last _ => cases h
      | longer _ hlines =>
          rcases ih hlines rfl with ⟨hhead, htail⟩
          refine ⟨?_, htail⟩
          intro line hline
          obtain rfl := Option.some.inj hline
          exact .dash hm (hhead _ rfl)
  | @fill m m' c rest hc hm h ih =>
      subst hblank
      cases hlines with
      | ended hends _ => simp [hc] at hends
      | last _ => cases h
      | longer _ hlines =>
          rcases ih hlines rfl with ⟨hhead, htail⟩
          refine ⟨?_, htail⟩
          intro line hline
          obtain rfl := Option.some.inj hline
          exact .fill hc hm (hhead _ rfl)
  | @lineEnd m m' c rest hc hm h ih =>
      subst hblank
      cases hlines with
      | @ended _ _ rest _ hlines =>
          rcases ih hlines rfl with ⟨hhead, htail⟩
          constructor
          · intro line hline
            obtain rfl := Option.some.inj hline
            exact .lineEnd hc hm (.nil _)
          · intro line hline
            cases rest with
            | nil => cases hline
            | cons first more =>
                rcases List.mem_cons.mp hline with rfl | hline
                · exact hhead line rfl
                · exact htail line hline
      | last hno => simp [hc] at hno
      | longer hno _ => simp [hc] at hno

/-- A dash is followed by something else. -/
theorem of_dash (h : Writes m ('-' :: cs) m') (hm : m ≠ .filled) : Writes .dashes cs m' := by
  cases h with
  | dash _ h => exact h
  | fill _ hfilled _ => exact absurd (hfilled rfl) hm
  | lineEnd hc _ _ => cases hc

/-- A text that leaves nothing on its line has ended the one before. -/
theorem isBreak_getLast? (h : Writes m cs .blank) : ∀ c ∈ cs.getLast?, isBreak c = true := by
  generalize hblank : LineState.blank = m' at h
  induction h with
  | nil => simp
  | @dash m m' rest _ h ih =>
      subst hblank
      cases rest with
      | nil => cases h
      | cons d rest => simpa using ih rfl
  | @fill m m' c rest _ _ h ih =>
      subst hblank
      cases rest with
      | nil => cases h
      | cons d rest => simpa using ih rfl
  | @lineEnd m m' c rest hc _ _ ih =>
      subst hblank
      cases rest with
      | nil => simpa using hc
      | cons d rest => simpa using ih rfl

/-- A line of three dashes is not written. -/
theorem content_ne (h : Writes .blank line .blank) : content isBreak line ≠ "---".toList := by
  intro hrule
  have hline : line = "---".toList ++ line.dropWhile fun c => !isBreak c := by
    rw [← hrule]
    exact List.takeWhile_append_dropWhile.symm
  have hends : ∀ c ∈ (line.dropWhile fun c => !isBreak c).head?, isBreak c = true := by
    intro c hc
    have hno := List.head?_dropWhile_not (fun c => !isBreak c) line
    rw [hc] at hno
    simpa using hno
  generalize line.dropWhile (fun c => !isBreak c) = rest at hline hends
  subst hline
  have hdashes : Writes .dashes rest .blank :=
    ((h.of_dash (by decide)).of_dash (by decide)).of_dash (by decide)
  cases rest with
  | nil => cases hdashes
  | cons c rest =>
      have hc := hends c rfl
      cases hdashes with
      | dash _ _ => cases hc
      | fill hno _ _ => simp [hc] at hno
      | lineEnd _ hne _ => exact hne rfl

end Writes

/-! ## Texts within a line -/

theorem isBreak_of_any (h : cs.any isBreak = false) : ∀ c ∈ cs, isBreak c = false := by
  simpa using h

/-- A text within a line leaves the line filled. -/
theorem writes_inline (h : ∀ c ∈ cs, isBreak c = false) : Writes .filled cs .filled := by
  induction cs with
  | nil => exact .nil _
  | cons c rest ih =>
      rw [List.forall_mem_cons] at h
      exact .fill h.1 (fun _ => rfl) (ih h.2)

/-- What fills a line makes it filled, whatever stands on it. -/
theorem writes_fill (hc : isBreak c = false) (hdash : c ≠ '-') (h : Writes .filled cs m') :
    Writes m (c :: cs) m' := .fill hc (fun heq => absurd heq hdash) h

theorem exists_writes_inline (h : ∀ c ∈ cs, isBreak c = false) (m : LineState) :
    ∃ m', Writes m cs m' := by
  induction cs generalizing m with
  | nil => exact ⟨m, .nil m⟩
  | cons c rest ih =>
      rw [List.forall_mem_cons] at h
      by_cases hdash : c = '-' ∧ m ≠ .filled
      · rcases ih h.2 .dashes with ⟨m', hrest⟩
        rw [hdash.1]
        exact ⟨m', .dash hdash.2 hrest⟩
      · rcases ih h.2 .filled with ⟨m', hrest⟩
        exact ⟨m', .fill h.1 (fun heq => not_not.mp fun hm => hdash ⟨heq, hm⟩) hrest⟩

theorem isBreak_replicate (hc : isBreak c = false) (n : ℕ) :
    ∀ d ∈ List.replicate n c, isBreak d = false := by
  intro d hd
  rwa [List.eq_of_mem_replicate hd]

theorem writes_pad (n : ℕ) : Writes m (pad (n + 1)) .filled := by
  rw [pad, List.replicate_succ]
  exact writes_fill rfl (by decide) (writes_inline (isBreak_replicate rfl n))

theorem exists_writes_pad (n : ℕ) (m : LineState) : ∃ m', Writes m (pad n) m' :=
  exists_writes_inline (isBreak_replicate rfl n) m

/-- A line that is filled is ended. -/
theorem writes_line (h : ∀ c ∈ cs, isBreak c = false) : Writes .filled (cs ++ ['\n']) .blank :=
  (writes_inline h).append (.lineEnd rfl (by decide) (.nil _))

theorem writes_dash (h : ∀ m, Writes m cs m') : Writes m ('-' :: cs) m' := by
  by_cases hm : m = .filled
  · exact .fill rfl (fun _ => hm) (h .filled)
  · exact .dash hm (h .dashes)

/-! ## Numbers -/

theorem isBreak_of_isDigit (h : c.isDigit = true) : isBreak c = false := by
  have hsmall : 48 ≤ c.toNat ∧ c.toNat ≤ 57 := Char.isDigit_iff_toNat.mp h
  rw [← Bool.not_eq_true]
  intro hbreak
  simp only [isBreak, Bool.or_eq_true, decide_eq_true_eq] at hbreak
  rcases hbreak with (((rfl | rfl) | hc) | hc) | hc
  · cases h
  · cases h
  · omega
  · omega
  · omega

theorem isBreak_digits (n : ℕ) : ∀ c ∈ digits n, isBreak c = false := by
  intro c hc
  exact isBreak_of_isDigit (Nat.isDigit_of_mem_toDigits (by decide) (by decide) hc)

theorem isBreak_intText (n : ℤ) : ∀ c ∈ intText n, isBreak c = false := by
  rw [intText]
  split
  · exact List.forall_mem_cons.mpr ⟨rfl, isBreak_digits _⟩
  · exact isBreak_digits _

theorem isBreak_positionalText {fraction : Bool} (h : ∀ c ∈ cs, isBreak c = false) (k : ℤ) :
    ∀ c ∈ positionalText fraction cs k, isBreak c = false := by
  have hfront : ∀ c ∈ cs.take k.toNat, isBreak c = false := fun c hc =>
    h c (List.mem_of_mem_take hc)
  have hback : ∀ c ∈ cs.drop k.toNat, isBreak c = false := fun c hc =>
    h c (List.mem_of_mem_drop hc)
  unfold positionalText
  split
  · simp only [List.forall_mem_cons, List.forall_mem_append]
    exact ⟨rfl, rfl, isBreak_replicate rfl _, h⟩
  · dsimp only
    split
    · simp only [List.forall_mem_append]
      refine ⟨⟨hfront, isBreak_replicate rfl _⟩, ?_⟩
      cases fraction <;> simp [isBreak]
    · simp only [List.forall_mem_append, List.forall_mem_cons]
      exact ⟨⟨hfront, isBreak_replicate rfl _⟩, rfl, hback⟩

theorem isBreak_exponentText {plus : Bool} (h : ∀ c ∈ cs, isBreak c = false) (k : ℤ) :
    ∀ c ∈ exponentText plus cs k, isBreak c = false := by
  have hback : ∀ c ∈ cs.drop 1, isBreak c = false := fun c hc => h c (List.mem_of_mem_drop hc)
  unfold exponentText
  simp only [List.forall_mem_append, List.forall_mem_cons]
  refine ⟨⟨fun c hc => h c (List.mem_of_mem_take hc), ?_⟩, rfl, ?_, isBreak_intText _⟩
  · split
    · simp
    · exact List.forall_mem_cons.mpr ⟨rfl, hback⟩
  · split <;> simp [isBreak]

theorem isBreak_text (layout : Layout) (x : FiniteDouble) :
    ∀ c ∈ x.text layout, isBreak c = false := by
  have hdigits := isBreak_digits (x.shortest layout.tie).digits
  unfold FiniteDouble.text
  extract_lets d ds k body
  have hbody : ∀ c ∈ body, isBreak c = false := by
    unfold body
    split
    · split <;> exact isBreak_of_any rfl
    · split
      · exact isBreak_positionalText hdigits k
      · split
        · exact isBreak_positionalText hdigits k
        · exact isBreak_exponentText hdigits k
  split
  · exact List.forall_mem_cons.mpr ⟨rfl, hbody⟩
  · exact hbody

theorem isBreak_yamlText (x : Double) : ∀ c ∈ x.yamlText, isBreak c = false := by
  cases x with
  | infinite negative => cases negative <;> exact isBreak_of_any rfl
  | notANumber => exact isBreak_of_any rfl
  | finite x => exact isBreak_text Layout.yaml x

/-! ## Texts -/

/-- What stands on a line behind a break, or behind anything else. -/
def behind (atStart : Bool) : LineState := if atStart then .blank else .filled

theorem behind_ne_dashes (atStart : Bool) : behind atStart ≠ .dashes := by
  cases atStart <;> decide

/-- A text goes on in the next line behind blanks. -/
theorem writes_continued {each : Char → List Char}
    (heach : ∀ c, isBreak c = false → ∀ d ∈ each c, isBreak d = false) (atStart : Bool)
    (cs : List Char) : Writes (behind atStart) (continued (n + 1) each atStart cs)
      (behind (cs.getLast?.elim atStart isBreak)) := by
  induction cs generalizing atStart with
  | nil => exact .nil _
  | cons c rest ih =>
      have hlast : (c :: rest).getLast?.elim atStart isBreak =
          rest.getLast?.elim (isBreak c) isBreak := by
        rw [List.getLast?_cons]
        cases rest.getLast? <;> rfl
      rw [hlast, continued]
      cases hc : isBreak c with
      | true => exact .lineEnd hc (behind_ne_dashes atStart) (ih true)
      | false =>
          have hpad : Writes (behind atStart) (if atStart then pad (n + 1) else []) .filled := by
            cases atStart with
            | true => exact writes_pad n
            | false => exact .nil _
          exact (hpad.append (writes_inline (heach c hc))).append (ih false)

theorem isBreak_singleQuotedChar (h : isBreak c = false) :
    ∀ d ∈ singleQuotedChar c, isBreak d = false := by
  rw [singleQuotedChar]
  split
  · simp [isBreak]
  · simpa using h

theorem writes_singleQuoted (cs : List Char) : Writes m (singleQuoted (n + 1) cs) .filled := by
  have hpad : ∃ m', Writes (behind (cs.getLast?.elim false isBreak))
      (if endsInBreak cs then pad (n + 1) else []) m' := by
    split
    · exact exists_writes_pad _ _
    · exact ⟨_, .nil _⟩
  rcases hpad with ⟨m', hpad⟩
  apply writes_fill rfl (by decide)
  apply ((writes_continued (fun _ => isBreak_singleQuotedChar) false cs).append hpad).append
  exact writes_fill rfl (by decide) (.nil _)

theorem isBreak_hexText {width value : ℕ} :
    ∀ c ∈ Json.hexText true width value, isBreak c = false := by
  have hdigit : ∀ d < 16, isBreak (Json.hexDigit true d) = false := by decide
  induction width generalizing value with
  | zero => simp [Json.hexText]
  | succ width ih =>
      rw [Json.hexText, List.forall_mem_append]
      exact ⟨ih, by simpa using hdigit (value % 16) (Nat.mod_lt _ (by decide))⟩

theorem isBreak_doubleQuoted : ∀ c ∈ doubleQuoted cs, isBreak c = false := by
  have hchar (c : Char) : ∀ d ∈ doubleQuotedChar c, isBreak d = false := by
    have hwritten := isEscaped_doubleQuotedChar c
    generalize doubleQuotedChar c = written at hwritten ⊢
    cases hwritten with
    | inline h => simpa using h.notBreak
    | letter x hx => simpa using ⟨rfl, hx.notBreak⟩
    | code x width hx =>
        rw [List.forall_mem_cons, List.forall_mem_cons]
        exact ⟨rfl, hx.notBreak, isBreak_hexText⟩
  simp only [doubleQuoted, List.forall_mem_cons, List.forall_mem_append, List.forall_mem_flatMap]
  exact ⟨rfl, fun c _ => hchar c, by simp [isBreak]⟩

theorem isBreak_of_goesOn {inWord : Bool} (h : GoesOn inWord cs) :
    ∀ c ∈ cs, isBreak c = false := by
  induction cs generalizing inWord with
  | nil => simp
  | cons c rest ih => exact List.forall_mem_cons.mpr ⟨h.1.notBreak, ih h.2.2.2⟩

theorem writes_literal (cs : List Char) : Writes .filled (literal (n + 1) cs) .blank := by
  have hmarks : ∀ c ∈ literalMarks cs, isBreak c = false := by
    unfold literalMarks
    dsimp only
    split_ifs <;> simp [isBreak]
  have htext : Writes .blank (continued (n + 1) (fun c => [c]) true cs)
      (behind (cs.getLast?.elim true isBreak)) := writes_continued (by simp) true cs
  apply writes_fill rfl (by decide)
  apply (writes_inline hmarks).append
  apply Writes.lineEnd rfl (by decide)
  apply htext.append
  cases hends : endsInBreak cs with
  | true =>
      rw [endsInBreak] at hends
      cases hlast : cs.getLast? with
      | none => simp [hlast] at hends
      | some c =>
          rw [hlast] at hends
          have hc : isBreak c = true := hends
          simpa [behind, hc] using Writes.nil .blank
  | false => exact .lineEnd rfl (behind_ne_dashes _) (.nil _)

theorem writes_stringLine : Writes .filled (stringLine (n + 1) cs) .blank := by
  rw [stringLine]
  cases hstyle : styleOf cs with
  | plain => exact writes_line (isBreak_of_goesOn (isPlainText_of_styleOf hstyle).1.goesOn)
  | singleQuoted =>
      exact (writes_singleQuoted cs).append (.lineEnd rfl (by decide) (.nil _))
  | doubleQuoted => exact writes_line isBreak_doubleQuoted
  | literal => exact writes_literal cs

theorem writes_word (word : String) (h : word.toList.any isBreak = false) :
    Writes .filled (word.toList ++ ['\n']) .blank := writes_line (isBreak_of_any h)

theorem writes_scalarLine (v : Value) : Writes .filled (scalarLine (n + 1) v) .blank := by
  cases v with
  | null => exact writes_word "null" rfl
  | bool b =>
      cases b with
      | true => exact writes_word "true" rfl
      | false => exact writes_word "false" rfl
  | int n => exact writes_line (isBreak_intText n)
  | float x => exact writes_line (isBreak_yamlText x)
  | text s => exact writes_stringLine
  | list items => exact writes_word "[]" rfl
  | map entries => exact writes_word "\x7b\x7d" rfl

/-! ## Keys -/

theorem isBreak_simpleKey {key : String} (h : isSimpleKey key = true) :
    ∀ c ∈ simpleKey k key.toList, isBreak c = false := by
  have hinline := (Lexer.isInline_of_isSimpleKey h).1
  rw [simpleKey]
  cases hstyle : styleOf key.toList with
  | plain => exact hinline
  | singleQuoted =>
      have hquoted : singleQuoted k key.toList = '\'' :: (key.toList.flatMap singleQuotedChar ++
          ['\'']) := by
        simp [singleQuoted, continued_of_inline hinline, endsInBreak_of_inline hinline]
      simp only [hquoted, List.forall_mem_cons, List.forall_mem_append, List.forall_mem_flatMap]
      exact ⟨rfl, fun c hc => isBreak_singleQuotedChar (hinline c hc), rfl, by simp⟩
  | doubleQuoted => exact isBreak_doubleQuoted
  | literal => exact isBreak_doubleQuoted

/-- A key fills the line that its mark stands on. -/
theorem writes_keyText (key : String) : Writes m (keyText k key) .filled := by
  rw [keyText]
  split
  · next hsimple =>
      rcases exists_writes_inline (isBreak_simpleKey hsimple) m with ⟨m', hkey⟩
      exact hkey.append (writes_fill rfl (by decide) (.nil _))
  · rcases exists_writes_pad k .blank with ⟨m', hpad⟩
    apply writes_fill rfl (by decide)
    apply writes_fill rfl (by decide)
    exact (writes_stringLine.append hpad).append (writes_fill rfl (by decide) (.nil _))

/-! ## Values -/

/-- A value ends its lines, behind a mark and behind a key. -/
structure EndsLines (v : Value) : Prop where
  afterMark : ∀ k m, Writes m (afterMark k v) .blank
  afterKey : ∀ k, Writes .filled (afterKey k v) .blank

theorem writes_sequence {items : List Value} (h : ∀ w ∈ items, EndsLines w) (hne : items ≠ [])
    (k : ℕ) (m : LineState) : Writes m (sequence k items) .blank := by
  induction items generalizing m with
  | nil => exact absurd rfl hne
  | cons v rest ih =>
      rw [List.forall_mem_cons] at h
      cases rest with
      | nil => exact writes_dash (h.1.afterMark k)
      | cons w rest =>
          rcases exists_writes_pad k .blank with ⟨m', hpad⟩
          apply writes_dash
          intro m
          exact ((h.1.afterMark k m).append hpad).append (ih h.2 (by simp) m')

theorem writes_mapping {entries : List (String × Value)} (h : ∀ e ∈ entries, EndsLines e.2)
    (hne : entries ≠ []) (k : ℕ) (m : LineState) : Writes m (mapping k entries) .blank := by
  induction entries generalizing m with
  | nil => exact absurd rfl hne
  | cons e rest ih =>
      obtain ⟨key, v⟩ := e
      rw [List.forall_mem_cons] at h
      have hv : Writes .filled
          (if isSimpleKey key then afterKey k v else afterMark k v) .blank := by
        split
        · exact h.1.afterKey k
        · exact h.1.afterMark k .filled
      have hentry : Writes m (keyText k key ++
          if isSimpleKey key then afterKey k v else afterMark k v) .blank :=
        (writes_keyText key).append hv
      cases rest with
      | nil => exact hentry
      | cons e rest =>
          rcases exists_writes_pad k .blank with ⟨m', hpad⟩
          exact (hentry.append hpad).append (ih h.2 (by simp) m')

theorem endsLines_of_isScalar (h : Lexer.isScalar v = true) : EndsLines v := by
  constructor
  · intro k m
    rw [afterMark_eq, Lexer.inline_eq_scalarLine h]
    exact writes_fill rfl (by decide) (writes_scalarLine v)
  · intro k
    rw [Lexer.afterKey_eq_scalarLine h]
    exact writes_fill rfl (by decide) (writes_scalarLine v)

theorem endsLines_list {v : Value} {rest : List Value} (h : ∀ w ∈ v :: rest, EndsLines w) :
    EndsLines (.list (v :: rest)) := by
  constructor
  · intro k m
    exact writes_fill rfl (by decide) (writes_sequence h (by simp) _ _)
  · intro k
    rcases exists_writes_pad k .blank with ⟨m', hpad⟩
    exact .lineEnd rfl (by decide) (hpad.append (writes_sequence h (by simp) k m'))

theorem endsLines_map {e : String × Value} {rest : List (String × Value)}
    (h : ∀ x ∈ e :: rest, EndsLines x.2) : EndsLines (.map (e :: rest)) := by
  constructor
  · intro k m
    exact writes_fill rfl (by decide) (writes_mapping h (by simp) _ _)
  · intro k
    rcases exists_writes_pad (k + 2) .blank with ⟨m', hpad⟩
    exact .lineEnd rfl (by decide) (hpad.append (writes_mapping h (by simp) _ m'))

mutual

theorem endsLines : ∀ v : Value, EndsLines v
  | .null => endsLines_of_isScalar rfl
  | .bool _ => endsLines_of_isScalar rfl
  | .int _ => endsLines_of_isScalar rfl
  | .float _ => endsLines_of_isScalar rfl
  | .text _ => endsLines_of_isScalar rfl
  | .list [] => endsLines_of_isScalar rfl
  | .list (v :: rest) => endsLines_list (endsLines_items (v :: rest))
  | .map [] => endsLines_of_isScalar rfl
  | .map (e :: rest) => endsLines_map (endsLines_entries (e :: rest))

theorem endsLines_items : ∀ items : List Value, ∀ w ∈ items, EndsLines w
  | [] => by simp
  | v :: rest => List.forall_mem_cons.mpr ⟨endsLines v, endsLines_items rest⟩

theorem endsLines_entries : ∀ entries : List (String × Value), ∀ e ∈ entries, EndsLines e.2
  | [] => by simp
  | (_, v) :: rest => List.forall_mem_cons.mpr ⟨endsLines v, endsLines_entries rest⟩

end

/-- The text of a map ends its lines. -/
theorem writes_documentText (entries : List (String × Value)) :
    Writes .blank (documentText (.map entries)) .blank := by
  cases entries with
  | nil =>
      apply writes_fill rfl (by decide)
      exact writes_word "\x7d" rfl
  | cons e rest => exact writes_mapping (endsLines_entries _) (by simp) 0 .blank

end ServiceContract.Yaml
