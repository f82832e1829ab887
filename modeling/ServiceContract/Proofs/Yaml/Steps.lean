import ServiceContract.Proofs.Yaml.Blocks

/-!
# Single tokens

What is read at the place of a token, and where reading goes on.
-/

namespace ServiceContract.Yaml

namespace Lexer

/-! ## Which token is read -/

section

variable {m : Lexer} {t : List Char} {c : Char}

theorem IsReady.exists_eq (hm : m.IsReady) :
    ∃ m', dropStaleKeys { m with cursor := m.cursor, keyAllowed := m.passed.2 } = some m' ∧
      m'.unrollIndent (some m.cursor.column) = m ∧ m.passed.1 = m.cursor := by
  have hcursor := cursor_of_arrive hm
  obtain ⟨m', hdrop, hunroll⟩ := Option.bind_eq_some_iff.mp hm
  rw [hcursor] at hdrop hunroll
  exact ⟨m', hdrop, Option.some_inj.mp hunroll, hcursor⟩

theorem noMark_of_rest (hrest : m.cursor.rest = c :: t) (hdash : c ≠ '-') (hdot : c ≠ '.') :
    m.cursor.atDocumentMark = false := by
  simp [Cursor.atDocumentMark, hrest, hdash.symm, hdot.symm]

theorem next_dash (hm : m.IsReady) (hrest : m.cursor.rest = '-' :: ' ' :: t) :
    m.next = m.blockEntry.map (·, true) := by
  obtain ⟨m', hdrop, hunroll, hcursor⟩ := hm.exists_eq
  have hmark : m.cursor.atDocumentMark = false := by simp [Cursor.atDocumentMark, hrest]
  have hpeek : m.cursor.peek 0 = some '-' := by simp [Cursor.peek, hrest]
  have hends : m.cursor.endsAt 1 = true := by simp [Cursor.endsAt, Cursor.peek, hrest, isBlankOrEnd]
  unfold passed at *
  simp only [next, hcursor, hdrop, hunroll, Option.bind_eq_bind, Option.bind_some, hpeek, hmark,
    hends]
  simp

theorem next_question (hm : m.IsReady) (hrest : m.cursor.rest = '?' :: ' ' :: t) :
    m.next = m.markedKey.map (·, true) := by
  obtain ⟨m', hdrop, hunroll, hcursor⟩ := hm.exists_eq
  have hmark : m.cursor.atDocumentMark = false := noMark_of_rest hrest (by decide) (by decide)
  have hpeek : m.cursor.peek 0 = some '?' := by simp [Cursor.peek, hrest]
  have hends : m.cursor.endsAt 1 = true := by simp [Cursor.endsAt, Cursor.peek, hrest, isBlankOrEnd]
  unfold passed at *
  simp only [next, hcursor, hdrop, hunroll, Option.bind_eq_bind, Option.bind_some, hpeek, hmark,
    hends]
  simp

theorem next_colon (hm : m.IsReady) (ht : isBlankOrEnd t.head? = true)
    (hrest : m.cursor.rest = ':' :: t) :
    m.next = m.colon.map (·, true) := by
  obtain ⟨m', hdrop, hunroll, hcursor⟩ := hm.exists_eq
  have hmark : m.cursor.atDocumentMark = false := noMark_of_rest hrest (by decide) (by decide)
  have hpeek : m.cursor.peek 0 = some ':' := by simp [Cursor.peek, hrest]
  have hends : m.cursor.endsAt 1 = true := by
    rw [Cursor.endsAt, Cursor.peek, hrest, ← ht]
    cases t <;> rfl
  unfold passed at *
  simp only [next, hcursor, hdrop, hunroll, Option.bind_eq_bind, Option.bind_some, hpeek, hmark,
    hends]
  simp

/-- The brackets of a list or the braces of a map, and their tokens. -/
def opening (isList : Bool) : Char × Token :=
  if isList then ('[', .flowSequenceStart) else ('{', .flowMappingStart)

/-- What ends a list in brackets or a map in braces. -/
def ending (isList : Bool) : Char × Token :=
  if isList then (']', .flowSequenceEnd) else ('}', .flowMappingEnd)

theorem next_opening (hm : m.IsReady) {isList : Bool}
    (hrest : m.cursor.rest = (opening isList).1 :: t) :
    m.next = (m.openFlow (opening isList).2).map (·, true) := by
  obtain ⟨m', hdrop, hunroll, hcursor⟩ := hm.exists_eq
  have hmark : m.cursor.atDocumentMark = false := by
    cases isList <;> exact noMark_of_rest hrest (by decide) (by decide)
  have hpeek : m.cursor.peek 0 = some (opening isList).1 := by simp [Cursor.peek, hrest]
  unfold passed at *
  simp only [next, hcursor, hdrop, hunroll, Option.bind_eq_bind, Option.bind_some, hpeek, hmark]
  cases isList <;> simp [opening]

theorem next_ending (hm : m.IsReady) {isList : Bool}
    (hrest : m.cursor.rest = (ending isList).1 :: t) :
    m.next = (m.closeFlow (ending isList).2).map (·, true) := by
  obtain ⟨m', hdrop, hunroll, hcursor⟩ := hm.exists_eq
  have hmark : m.cursor.atDocumentMark = false := by
    cases isList <;> exact noMark_of_rest hrest (by decide) (by decide)
  have hpeek : m.cursor.peek 0 = some (ending isList).1 := by simp [Cursor.peek, hrest]
  unfold passed at *
  simp only [next, hcursor, hdrop, hunroll, Option.bind_eq_bind, Option.bind_some, hpeek, hmark]
  cases isList <;> simp [ending]

theorem next_bar (hm : m.IsReady) (hflow : m.inFlow = false) (hrest : m.cursor.rest = '|' :: t) :
    m.next = (m.block true).map (·, true) := by
  obtain ⟨m', hdrop, hunroll, hcursor⟩ := hm.exists_eq
  have hmark : m.cursor.atDocumentMark = false := noMark_of_rest hrest (by decide) (by decide)
  have hpeek : m.cursor.peek 0 = some '|' := by simp [Cursor.peek, hrest]
  unfold passed at *
  simp only [next, hcursor, hdrop, hunroll, Option.bind_eq_bind, Option.bind_some, hpeek, hmark]
  simp [hflow]

theorem next_single (hm : m.IsReady) (hrest : m.cursor.rest = '\'' :: t) :
    m.next = (m.scalar false fun c =>
      singleQuotedScalar (c.rest.drop 1) (c.index + 1) c.line (c.column + 1) true .empty).map
        (·, true) := by
  obtain ⟨m', hdrop, hunroll, hcursor⟩ := hm.exists_eq
  have hmark : m.cursor.atDocumentMark = false := noMark_of_rest hrest (by decide) (by decide)
  have hpeek : m.cursor.peek 0 = some '\'' := by simp [Cursor.peek, hrest]
  unfold passed at *
  simp only [next, hcursor, hdrop, hunroll, Option.bind_eq_bind, Option.bind_some, hpeek, hmark]
  simp

theorem next_double (hm : m.IsReady) (hrest : m.cursor.rest = '"' :: t) :
    m.next = (m.scalar false fun c =>
      doubleQuotedScalar (c.rest.drop 1) (c.index + 1) c.line (c.column + 1) true none .empty).map
        (·, true) := by
  obtain ⟨m', hdrop, hunroll, hcursor⟩ := hm.exists_eq
  have hmark : m.cursor.atDocumentMark = false := noMark_of_rest hrest (by decide) (by decide)
  have hpeek : m.cursor.peek 0 = some '"' := by simp [Cursor.peek, hrest]
  unfold passed at *
  simp only [next, hcursor, hdrop, hunroll, Option.bind_eq_bind, Option.bind_some, hpeek, hmark]
  simp

/-- A plain scalar begins with a character that begins nothing else. -/
theorem next_plain (hm : m.IsReady) (hflow : m.inFlow = false) (hrest : m.cursor.rest = c :: t)
    (hmark : m.cursor.atDocumentMark = false) (hinline : IsInline c) (hspace : c ≠ ' ')
    (hindicator : isIndicator c = false)
    (hends : c = '-' ∨ c = '?' ∨ c = ':' → isBlankOrEnd t.head? = false) :
    m.next = (m.scalar true fun c =>
      plainScalar false (m.indent.elim 0 (· + 1)) c.rest c.index c.line c.column true .empty).map
        (·, true) := by
  obtain ⟨m', hdrop, hunroll, hcursor⟩ := hm.exists_eq
  have hpeek : m.cursor.peek 0 = some c := by simp [Cursor.peek, hrest]
  have hends' : c = '-' ∨ c = '?' ∨ c = ':' → m.cursor.endsAt 1 = false := by
    intro hc
    rw [Cursor.endsAt, Cursor.peek, hrest, ← hends hc]
    cases t <;> rfl
  have hne (d : Char) (hd : isIndicator d = true) : c ≠ d := by
    rintro rfl
    simp [hindicator] at hd
  have hplain : startsPlain false m.cursor = true := by
    have hblank : isBlankOrEnd (some c) = false := by simp [hinline.isBlankOrEnd_eq, hspace]
    by_cases hmarked : c = '-' ∨ c = '?' ∨ c = ':'
    · have hnext : (m.cursor.peek 1).any isBlankChar = false := by
        have hend := hends' hmarked
        rw [Cursor.endsAt] at hend
        cases hpeek : m.cursor.peek 1 with
        | none => rfl
        | some d =>
            rw [hpeek] at hend
            simp [isBlankOrEnd] at hend
            simp [isBlankChar, hend]
      rcases hmarked with rfl | rfl | rfl <;> simp [startsPlain, hpeek, hnext, hends']
    · simp only [not_or] at hmarked
      have hmark : isMark c = false := by
        simp_all [isMark, isIndicator]
      simp [startsPlain, hpeek, hblank, hmark]
  have hdash : (decide (c = '-') && m.cursor.endsAt 1) = false := by
    by_cases hc : c = '-' <;> simp [hc, hends']
  have hquestion : (decide (c = '?') && m.cursor.endsAt 1) = false := by
    by_cases hc : c = '?' <;> simp [hc, hends']
  have hcolon : (decide (c = ':') && m.cursor.endsAt 1) = false := by
    by_cases hc : c = ':' <;> simp [hc, hends']
  unfold passed at *
  simp only [next, hcursor, hdrop, hunroll, Option.bind_eq_bind, Option.bind_some, hpeek, hmark]
  simp only [hflow, Bool.false_or, hdash, hquestion, hcolon, hplain]
  simp [hne '%' rfl, hne '[' rfl, hne ']' rfl, hne '{' rfl, hne '}' rfl, hne ',' rfl, hne '*' rfl,
    hne '&' rfl, hne '!' rfl, hne '|' rfl, hne '>' rfl, hne '\'' rfl, hne '"' rfl]
  cases m.indent <;> rfl

theorem next_end (hm : m.IsReady) (hrest : m.cursor.rest = []) :
    m.next = (m.unrollIndent none).dropKey.map fun l => (l.emit .streamEnd, false) := by
  obtain ⟨m', hdrop, hunroll, hcursor⟩ := hm.exists_eq
  have hpeek : m.cursor.peek 0 = none := by simp [Cursor.peek, hrest]
  unfold passed at *
  simp only [next, hcursor, hdrop, hunroll, Option.bind_eq_bind, Option.bind_some, hpeek]
  cases (m.unrollIndent none).dropKey <;> rfl

end

/-! ## Marks -/

section

variable {blocks : List Nat} {c : Cursor} {ts : List Token} {n k i l : Nat} {key : Option SimpleKey}
  {allowed : Bool} {t : List Char} {start s : Token}

/-- The collections and the tokens when one begins at a column, unless it goes on there. -/
def opened (k : Nat) (start : Token) (blocks : List Nat) (ts : List Token) :
    List Nat × List Token :=
  if blocks.head? = some k then (blocks, ts) else (k :: blocks, start :: ts)

theorem head_opened : (opened k start blocks ts).1.head? = some k := by
  unfold opened
  split
  · assumption
  · rfl

theorem isDeeper_within (hhead : ∀ b ∈ blocks.head?, b ≤ k) :
    (within blocks c ts n key allowed).isDeeper k = decide (blocks.head? ≠ some k) := by
  cases blocks with
  | nil => rfl
  | cons b blocks =>
      have hb : b ≤ k := hhead b rfl
      simp only [isDeeper, within, List.head?_cons, ne_eq, Option.some_inj]
      exact decide_eq_decide.mpr (by omega)

theorem around_cons : around (k :: blocks) = blocks.head? :: around blocks := by
  cases blocks <;> rfl

variable (c ts n key allowed start) in
theorem rollIndent_within (hhead : ∀ b ∈ blocks.head?, b ≤ k) :
    ∃ n', (within blocks c ts n key allowed).rollIndent k none start =
      within (opened k start blocks ts).1 c (opened k start blocks ts).2 n' key allowed := by
  have hflow : (within blocks c ts n key allowed).inFlow = false := rfl
  rw [rollIndent, hflow, isDeeper_within hhead, opened]
  by_cases hopen : blocks.head? = some k
  · exact ⟨n, by simp [hopen]⟩
  · exact ⟨n + 1, by simp [hopen, within, emit, around_cons]⟩

variable (ts n i l allowed) in
theorem reads_blank (hhead : ∀ b ∈ blocks.head?, b ≤ k + 1) (ht : StandsOut t) :
    ∃ n', Reads (within blocks ⟨' ' :: t, i, l, k⟩ ts n none allowed)
      (within blocks ⟨t, i + 1, l, k + 1⟩ ts n' none allowed) := by
  have hpass : passBlanks false (' ' :: t) i l k false allowed = (⟨t, i + 1, l, k + 1⟩, allowed) :=
    passBlanks_pad (m := 1) ht
  have hkey : dropStale ⟨t, i + 1, l, k + 1⟩ none = some none := rfl
  obtain ⟨n', harrive⟩ := arrive_within (c := ⟨' ' :: t, i, l, k⟩) blocks ts n hpass hkey
  rw [closing_eq_self hhead] at harrive
  exact ⟨n', .arrive harrive (isReady_within ht rfl hhead) (Nat.le_succ _)⟩

/-- The state behind a mark and its blank, which may open a collection. -/
def behindMark (blocks : List Nat) (c : Cursor) (ts : List Token) (n : Nat) (start mark : Token) :
    Lexer :=
  within (opened c.column start blocks ts).1 (c.skip 2)
    (mark :: (opened c.column start blocks ts).2) n none true

variable (ts n i l) in
theorem reads_mark {x : Char} {mark : Token} (hhead : ∀ b ∈ blocks.head?, b ≤ k)
    (ht : StandsOut t)
    (hnext : ∀ n', (within blocks ⟨x :: ' ' :: t, i, l, k⟩ ts n none true).rollIndent k none start =
        within (opened k start blocks ts).1 ⟨x :: ' ' :: t, i, l, k⟩ (opened k start blocks ts).2 n'
          none true →
      (within blocks ⟨x :: ' ' :: t, i, l, k⟩ ts n none true).next =
        some (within (opened k start blocks ts).1 ⟨' ' :: t, i + 1, l, k + 1⟩
          (mark :: (opened k start blocks ts).2) (n' + 1) none true, true)) :
    ∃ n', Reads (within blocks ⟨x :: ' ' :: t, i, l, k⟩ ts n none true)
      (behindMark blocks ⟨x :: ' ' :: t, i, l, k⟩ ts n' start mark) := by
  obtain ⟨n', hroll⟩ := rollIndent_within ⟨x :: ' ' :: t, i, l, k⟩ ts n none true start hhead
  have hhead' : ∀ b ∈ (opened k start blocks ts).1.head?, b ≤ k + 1 + 1 := by
    intro b hb
    rw [head_opened] at hb
    cases hb
    omega
  obtain ⟨n'', hblank⟩ := reads_blank (mark :: (opened k start blocks ts).2) (n' + 1) (i + 1) l true
    hhead' ht
  exact ⟨n'', .next (hnext n' hroll) (Nat.lt_succ_self _) hblank⟩

variable (ts n i l) in
/-- A dash. -/
theorem reads_dash (hhead : ∀ b ∈ blocks.head?, b ≤ k) (ht : StandsOut t) :
    ∃ n', Reads (within blocks ⟨'-' :: ' ' :: t, i, l, k⟩ ts n none true)
      (behindMark blocks ⟨'-' :: ' ' :: t, i, l, k⟩ ts n' .blockSequenceStart .blockEntry) := by
  refine reads_mark ts n i l hhead ht fun n' hroll => (next_dash (isReady_within
    (standsOut_cons ⟨rfl, rfl⟩ (by decide) (by decide)) rfl hhead) rfl).trans ?_
  rw [blockEntry, show (within blocks ⟨'-' :: ' ' :: t, i, l, k⟩ ts n none true).cursor.column = k
    from rfl, hroll]
  rfl

variable (ts n i l) in
/-- The mark of a key that stands on a line of its own. -/
theorem reads_question (hhead : ∀ b ∈ blocks.head?, b ≤ k) (ht : StandsOut t) :
    ∃ n', Reads (within blocks ⟨'?' :: ' ' :: t, i, l, k⟩ ts n none true)
      (behindMark blocks ⟨'?' :: ' ' :: t, i, l, k⟩ ts n' .blockMappingStart .key) := by
  refine reads_mark ts n i l hhead ht fun n' hroll => (next_question (isReady_within
    (standsOut_cons ⟨rfl, rfl⟩ (by decide) (by decide)) rfl hhead) rfl).trans ?_
  rw [markedKey, show (within blocks ⟨'?' :: ' ' :: t, i, l, k⟩ ts n none true).cursor.column = k
    from rfl, hroll]
  rfl

variable (ts n i l) in
/-- The colon behind such a key. -/
theorem reads_colon (hhead : ∀ b ∈ blocks.head?, b ≤ k) (ht : StandsOut t) :
    ∃ n', Reads (within blocks ⟨':' :: ' ' :: t, i, l, k⟩ ts n none true)
      (behindMark blocks ⟨':' :: ' ' :: t, i, l, k⟩ ts n' .blockMappingStart .value) := by
  refine reads_mark ts n i l hhead ht fun n' hroll => (next_colon (isReady_within
    (standsOut_cons ⟨rfl, rfl⟩ (by decide) (by decide)) rfl hhead) rfl rfl).trans ?_
  rw [colon, show (within blocks ⟨':' :: ' ' :: t, i, l, k⟩ ts n none true).key = none from rfl]
  dsimp only
  rw [show (within blocks ⟨':' :: ' ' :: t, i, l, k⟩ ts n none true).cursor.column = k
    from rfl, hroll]
  rfl

end

end Lexer

end ServiceContract.Yaml
