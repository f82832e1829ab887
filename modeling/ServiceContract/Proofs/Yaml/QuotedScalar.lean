import Mathlib.Algebra.Group.Nat.Defs
import ServiceContract.Proofs.Yaml.PlainScalar

/-!
# Quoted scalars read back

What has been read of a quoted scalar at any place is the text up to there, although blanks and
line breaks are held back until the next word.
-/

namespace ServiceContract.Yaml

/-! ## What is held back -/

/-- What has been read, its last character first: blanks or line breaks at its end are held back. -/
inductive Folding.Holds : Folding → List Char → Prop where
  | within (text blanks : List Char) (hblanks : ∀ b ∈ blanks, b = ' ')
      (htext : ∀ c ∈ text.head?, isBreak c = false) :
      Folding.Holds ⟨text, blanks, none, [], false⟩ (blanks ++ text)
  | behind (text trailing : List Char) (first : Char) (hfirst : first ≠ '\n')
      (hbreaks : ∀ c ∈ trailing ++ [first], isBreak c = true) :
      Folding.Holds ⟨text, [], some first, trailing, true⟩ (trailing ++ first :: text)

namespace Folding.Holds

variable {f : Folding} {done : List Char} {c : Char}

theorem empty : Folding.empty.Holds [] := .within [] [] (by simp) (by simp)

theorem joined_eq (h : f.Holds done) : f.joined = ⟨done, [], none, [], false⟩ := by
  cases h with
  | within text blanks => rfl
  | behind text trailing first hfirst =>
      simp only [Folding.joined]
      simp

theorem push (h : f.Holds done) (hc : isBreak c = false) : (f.push c).Holds (c :: done) := by
  rw [Folding.push, h.joined_eq]
  exact .within (c :: done) [] (by simp) (by simpa using hc)

theorem broken_eq (h : f.Holds done) : f.broken = done.head?.any isBreak := by
  cases h with
  | within text blanks hblanks htext =>
      cases blanks with
      | nil => cases text with
        | nil => rfl
        | cons d text => simpa using (htext d rfl).symm
      | cons b blanks =>
          have hb : b = ' ' := hblanks b (by simp)
          subst hb
          rfl
  | behind text trailing first hfirst hbreaks =>
      cases trailing with
      | nil => simpa using (hbreaks first (by simp)).symm
      | cons d trailing => simpa using (hbreaks d (by simp)).symm

theorem blank (h : f.Holds done) (hbroken : f.broken = false) :
    (f.blank ' ').Holds (' ' :: done) := by
  cases h with
  | within text blanks hblanks htext =>
      exact .within text (' ' :: blanks) (by simpa using hblanks) htext
  | behind => cases hbroken

theorem lineEnd (h : f.Holds done) (hlast : done.head? ≠ some ' ') (hc : isBreak c = true)
    (hstands : breakChar c = c) (hnewline : c ≠ '\n') : (f.lineEnd c).Holds (c :: done) := by
  cases h with
  | within text blanks hblanks htext =>
      cases blanks with
      | nil =>
          have : Folding.lineEnd ⟨text, [], none, [], false⟩ c = ⟨text, [], some c, [], true⟩ := by
            simp [Folding.lineEnd, hstands]
          rw [this]
          exact .behind text [] c hnewline (by simpa using hc)
      | cons b blanks =>
          have hb : b = ' ' := hblanks b (by simp)
          exact absurd (by rw [hb]; rfl) hlast
  | behind text trailing first hfirst hbreaks =>
      have : Folding.lineEnd ⟨text, [], some first, trailing, true⟩ c =
          ⟨text, [], some first, c :: trailing, true⟩ := by
        simp [Folding.lineEnd, hstands]
      rw [this]
      exact .behind text (c :: trailing) first hfirst (by simpa using ⟨hc, by simpa using hbreaks⟩)

end Folding.Holds

/-! ## Single quotes -/

section

variable {i l k n : Nat} {cs t done : List Char} {c : Char} {inWord ends : Bool}
  {f : Folding}

theorem atDocumentMark_of_ne (hdash : c ≠ '-') (hdot : c ≠ '.') :
    (⟨c :: t, i, l, k⟩ : Cursor).atDocumentMark = false := by
  simp [Cursor.atDocumentMark, hdash.symm, hdot.symm]

/-- A step within single quotes, where neither a doubled quote nor the two characters of a line end
stand. -/
theorem singleQuotedScalar_cons (hquote : c = '\'' → t.head? ≠ some '\'') (hreturn : c ≠ '\r')
    (hmark : inWord = true ∨ (⟨c :: t, i, l, k⟩ : Cursor).atDocumentMark = false) :
    singleQuotedScalar (c :: t) i l k inWord f =
      if c = '\'' then some (f.joined, ⟨t, i + 1, l, k + 1⟩)
      else if isBlankChar c then
        singleQuotedScalar t (i + 1) l (k + 1) false (f.blank c)
      else if isBreak c then
        singleQuotedScalar t (i + 1) (l + 1) 0 false (f.lineEnd c)
      else singleQuotedScalar t (i + 1) l (k + 1) true (f.push c) := by
  have hmark' : (!inWord && (⟨c :: t, i, l, k⟩ : Cursor).atDocumentMark) = false := by
    rcases hmark with h | h <;> simp [h]
  rw [singleQuotedScalar]
  · rw [hmark']
    rfl
  · rintro rest rfl rfl
    exact hquote rfl rfl
  · rintro rest rfl rfl
    exact hreturn rfl

theorem singleQuotedScalar_pad (hbroken : f.broken = true) :
    singleQuotedScalar (pad n ++ t) i l k false f =
      singleQuotedScalar t (i + n) l (k + n) false f := by
  induction n generalizing i k with
  | zero => rfl
  | succ n ih =>
      have hblank : f.blank ' ' = f := by simp [Folding.blank, hbroken]
      rw [pad, List.replicate_succ, List.cons_append, singleQuotedScalar_cons
        (fun h => absurd h (by decide)) (by decide)
        (.inr (atDocumentMark_of_ne (by decide) (by decide)))]
      rw [show isBlankChar ' ' = true from rfl, hblank]
      refine Eq.trans ih ?_
      simp [Nat.add_comm, Nat.add_left_comm]

theorem singleQuotedScalar_char (hinline : IsInline c) (hf : f.Holds done)
    (hspace : c = ' ' → f.broken = false) (hmark : inWord = true ∨ 0 < k) :
    ∃ f' inWord', f'.Holds (c :: done) ∧
      ∀ t, singleQuotedScalar (singleQuotedChar c ++ t) i l k inWord f =
        singleQuotedScalar t (i + (singleQuotedChar c).length) l
          (k + (singleQuotedChar c).length) inWord' f' := by
  by_cases hquote : c = '\''
  · subst hquote
    exact ⟨f.push '\'', true, hf.push rfl, fun _ => rfl⟩
  have hchar : singleQuotedChar c = [c] := if_neg hquote
  have hstep (t : List Char) := singleQuotedScalar_cons (i := i) (l := l) (k := k) (f := f) (t := t)
    (fun h => absurd h hquote) hinline.ne_return (hmark.imp_right atDocumentMark_of_pos)
  simp only [if_neg hquote, hinline.isBlankChar_eq, hinline.notBreak] at hstep
  rw [hchar]
  by_cases hc : c = ' '
  · subst hc
    exact ⟨f.blank ' ', false, hf.blank (hspace rfl), hstep⟩
  · rw [decide_eq_false hc] at hstep
    exact ⟨f.push c, true, hf.push hinline.notBreak, hstep⟩

theorem singleQuotedScalar_quote (hf : f.Holds done) (htail : t.head? ≠ some '\'') :
    singleQuotedScalar ('\'' :: t) i l k inWord f =
      some (⟨done, [], none, [], false⟩, ⟨t, i + 1, l, k + 1⟩) := by
  rw [singleQuotedScalar_cons (fun _ => htail) (by decide)
    (.inr (atDocumentMark_of_ne (by decide) (by decide))), if_pos rfl, hf.joined_eq]

/-- The blanks of a new line do not count. -/
theorem singleQuotedScalar_margin (hn : 0 < n) (hword : f.broken = true → inWord = false)
    (hmark : f.broken = false → inWord = true ∨ 0 < k) :
    ∃ i' k' inWord', (inWord' = true ∨ 0 < k') ∧
      (f.broken = false → i' = i ∧ k' = k) ∧
      ∀ t, singleQuotedScalar ((if f.broken then pad n else []) ++ t) i l k inWord f =
        singleQuotedScalar t i' l k' inWord' f := by
  by_cases hbroken : f.broken = true
  · refine ⟨i + n, k + n, false, .inr (by omega), fun h => absurd h (by simp [hbroken]),
      fun t => ?_⟩
    rw [if_pos hbroken, hword hbroken, singleQuotedScalar_pad hbroken]
  · refine ⟨i, k, inWord, hmark (by simpa using hbroken), fun _ => ⟨rfl, rfl⟩,
      fun t => ?_⟩
    rw [if_neg hbroken, List.nil_append]

/-- The closing quote stands at the margin of a new line, or behind the text. -/
theorem singleQuotedScalar_close (hf : f.Holds done) (hword : f.broken = true → inWord = false)
    (htail : t.head? ≠ some '\'') :
    ∃ i' k', singleQuotedScalar ((if f.broken then pad n else []) ++ '\'' :: t) i l k inWord f =
        some (⟨done, [], none, [], false⟩, ⟨t, i', l, k'⟩) ∧
      (f.broken = false → i' = i + 1 ∧ k' = k + 1) := by
  cases hbroken : f.broken with
  | true =>
      rw [hword hbroken, if_pos rfl, singleQuotedScalar_pad hbroken,
        singleQuotedScalar_quote hf htail]
      exact ⟨_, _, rfl, nofun⟩
  | false =>
      rw [if_neg Bool.false_ne_true, List.nil_append, singleQuotedScalar_quote hf htail]
      exact ⟨_, _, rfl, fun _ => ⟨rfl, rfl⟩⟩

/-- A line break begins a new line. -/
theorem singleQuotedScalar_lineEnd (inWord : Bool) (hf : f.Holds done)
    (hprintable : isPrintable c = true) (hbreak : isBreak c = true) (hnewline : c ≠ '\n')
    (hlast : done.head? ≠ some ' ') :
    (f.lineEnd c).Holds (c :: done) ∧ ∀ t, singleQuotedScalar (c :: t) i l k inWord f =
      singleQuotedScalar t (i + 1) (l + 1) 0 false (f.lineEnd c) := by
  obtain ⟨hreturn, hstands⟩ := breakChar_of_printable hprintable hbreak
  have hne : ∀ d, isBreak d = false → c ≠ d := by
    rintro d hd rfl
    simp [hd] at hbreak
  have hquote : c ≠ '\'' := hne _ rfl
  have hblank : isBlankChar c = false := by simp [isBlankChar, hne ' ' rfl, hne '\t' rfl]
  refine ⟨hf.lineEnd hlast hbreak hstands hnewline, ?_⟩
  intro t
  have hmark := atDocumentMark_of_ne (t := t) (i := i) (l := l) (k := k) (hne '-' rfl) (hne '.' rfl)
  rw [singleQuotedScalar_cons (fun h => absurd h hquote) hreturn (.inr hmark), if_neg hquote,
    hblank, if_neg Bool.false_ne_true, if_pos hbreak]

/-- A character that stays in its line, behind the margin if the line is new. -/
theorem singleQuotedScalar_inline (hinline : IsInline c) (hf : f.Holds done) (hn : 0 < n)
    (hspace : ∀ d ∈ done.head?, isBreak d = true → c ≠ ' ')
    (hword : f.broken = true → inWord = false)
    (hmark : f.broken = false → inWord = true ∨ 0 < k) :
    ∃ i' k' inWord' f', f'.Holds (c :: done) ∧ 0 < k' ∧
      (f.broken = false → i' = i + (singleQuotedChar c).length ∧
        k' = k + (singleQuotedChar c).length) ∧
      ∀ t, singleQuotedScalar ((if f.broken then pad n else []) ++ (singleQuotedChar c ++ t))
          i l k inWord f = singleQuotedScalar t i' l k' inWord' f' := by
  obtain ⟨i₁, k₁, inWord₁, hmark₁, hsame, hmargin⟩ :=
    singleQuotedScalar_margin (i := i) (l := l) hn hword hmark
  have hbroken : c = ' ' → f.broken = false := by
    intro hc
    rw [hf.broken_eq]
    cases hhead : done.head? with
    | none => rfl
    | some d => simpa [hc] using hspace d hhead
  obtain ⟨f', inWord', hf', hchar⟩ :=
    singleQuotedScalar_char (i := i₁) (l := l) hinline hf hbroken hmark₁
  have hlength : 0 < (singleQuotedChar c).length := by
    unfold singleQuotedChar
    split_ifs <;> simp
  refine ⟨_, _, inWord', f', hf', by omega, ?_, fun t => (hmargin _).trans (hchar t)⟩
  intro hline
  obtain ⟨rfl, rfl⟩ := hsame hline
  exact ⟨rfl, rfl⟩

/-- What single quotes hold is read back. -/
theorem singleQuotedScalar_text (hf : f.Holds done) (hprintable : ∀ c ∈ cs, isPrintable c = true)
    (hnewline : '\n' ∉ cs)
    (hbreaks : (done.head?.toList ++ cs).IsChain
      fun a b => ¬(isBreak a = true ∧ b = ' ') ∧ ¬(a = ' ' ∧ isBreak b = true))
    (hends : ends = (cs.getLast?.or done.head?).any isBreak) (hn : 0 < n)
    (hword : f.broken = true → inWord = false)
    (hmark : f.broken = false → inWord = true ∨ 0 < k) (htail : t.head? ≠ some '\'') :
    ∃ i' l' k',
      singleQuotedScalar (continued n singleQuotedChar f.broken cs ++
          ((if ends then pad n else []) ++ '\'' :: t)) i l k inWord f =
        some (⟨cs.reverse ++ done, [], none, [], false⟩, ⟨t, i', l', k'⟩) ∧
      l ≤ l' ∧
      (f.broken = false → (∀ c ∈ cs, isBreak c = false) → l' = l ∧
        i' = i + (cs.flatMap singleQuotedChar).length + 1 ∧
        k' = k + (cs.flatMap singleQuotedChar).length + 1) := by
  induction cs generalizing f done i l k inWord with
  | nil =>
      rw [List.getLast?_nil, Option.none_or, ← hf.broken_eq] at hends
      subst hends
      obtain ⟨i', k', hread, hplace⟩ :=
        singleQuotedScalar_close (n := n) (i := i) (l := l) (k := k) hf hword htail
      exact ⟨i', l, k', hread, le_rfl, fun hline _ => ⟨rfl, hplace hline⟩⟩
  | cons c rest ih =>
      rw [List.forall_mem_cons] at hprintable
      rw [List.mem_cons, not_or] at hnewline
      have hnext : ∀ d ∈ done.head?,
          ¬(isBreak d = true ∧ c = ' ') ∧ ¬(d = ' ' ∧ isBreak c = true) := by
        intro d hd
        rw [Option.mem_def] at hd
        rw [hd] at hbreaks
        exact (List.isChain_cons_cons.mp hbreaks).1
      have hends' : ends = (rest.getLast?.or (c :: done).head?).any isBreak := by
        rw [hends]
        cases rest <;> simp [List.getLast?_cons]
      by_cases hbreak : isBreak c = true
      · have hlast : done.head? ≠ some ' ' := fun h => (hnext ' ' h).2 ⟨rfl, hbreak⟩
        obtain ⟨hf', hstep⟩ := singleQuotedScalar_lineEnd (i := i) (l := l) (k := k) inWord hf
          hprintable.1 hbreak (Ne.symm hnewline.1) hlast
        have hbroken : (f.lineEnd c).broken = true := hf'.broken_eq.trans hbreak
        obtain ⟨i', l', k', hread, hline, -⟩ :=
          ih (i := i + 1) (l := l + 1) (k := 0) hf' hprintable.2 hnewline.2
            hbreaks.right_of_append hends' (fun _ => (rfl : false = false))
            (fun h => absurd h (by simp [hbroken]))
        refine ⟨i', l', k', ?_, by omega,
          fun _ h => absurd (h c List.mem_cons_self) (by simp [hbreak])⟩
        rw [continued, if_pos hbreak, List.cons_append, hstep]
        simpa [hbroken] using hread
      · have hinline : IsInline c := ⟨hprintable.1, by simpa using hbreak⟩
        obtain ⟨i₁, k₁, inWord', f', hf', hpos, hsame, hstep⟩ :=
          singleQuotedScalar_inline (i := i) (l := l) hinline hf hn
            (fun d hd hd' hc => (hnext d hd).1 ⟨hd', hc⟩) hword hmark
        have hbroken : f'.broken = false := hf'.broken_eq.trans hinline.notBreak
        obtain ⟨i', l', k', hread, hline, hplace⟩ :=
          ih (i := i₁) (l := l) (k := k₁) hf' hprintable.2 hnewline.2 hbreaks.right_of_append
            hends' (fun h => absurd h (by simp [hbroken])) (fun _ => .inr hpos)
        refine ⟨i', l', k', ?_, hline, ?_⟩
        · rw [continued, if_neg hbreak, List.append_assoc, List.append_assoc, hstep]
          simpa [hbroken] using hread
        · intro hsolid hclean
          obtain ⟨rfl, rfl⟩ := hsame hsolid
          rw [List.forall_mem_cons] at hclean
          obtain ⟨hline', hindex, hcolumn⟩ := hplace hbroken hclean.2
          rw [List.flatMap_cons, List.length_append]
          omega

theorem continued_of_inline {each : Char → List Char} (h : ∀ c ∈ cs, isBreak c = false) :
    continued n each false cs = cs.flatMap each := by
  induction cs with
  | nil => rfl
  | cons c rest ih =>
      rw [List.forall_mem_cons] at h
      simp [continued, h.1, ih h.2]

theorem endsInBreak_of_inline (h : ∀ c ∈ cs, isBreak c = false) : endsInBreak cs = false := by
  rw [endsInBreak]
  cases hlast : cs.getLast? with
  | none => rfl
  | some c => exact h c (List.mem_of_getLast? hlast)

/-- A single quoted text is read back; one without breaks ends in the line it begins in. -/
theorem singleQuotedScalar_singleQuoted (h : IsSingleText cs) (hn : 0 < n)
    (htail : t.head? ≠ some '\'') :
    ∃ f i' l' k',
      singleQuotedScalar ((singleQuoted n cs ++ t).drop 1) (i + 1) l (k + 1) true
        .empty = some (f, ⟨t, i', l', k'⟩) ∧
      f.text.reverse = cs ∧ l ≤ l' ∧
      ((∀ c ∈ cs, isBreak c = false) → l' = l ∧
        i' = i + (singleQuoted n cs).length ∧
        k' = k + (singleQuoted n cs).length) := by
  have hends : endsInBreak cs = (cs.getLast?.or ([] : List Char).head?).any isBreak := by
    simp [endsInBreak]
  obtain ⟨i', l', k', hread, hline, hplace⟩ :=
    singleQuotedScalar_text (i := i + 1) (l := l) (k := k + 1) .empty h.printable h.noNewline
      h.breaks hends hn (fun hb => nomatch hb) (fun _ => .inl (rfl : true = true)) htail
  refine ⟨⟨cs.reverse, [], none, [], false⟩, i', l', k', ?_, List.reverse_reverse cs,
    hline, fun hinline => ?_⟩
  · rw [List.append_nil, show Folding.empty.broken = false from rfl] at hread
    simpa [singleQuoted] using hread
  · obtain ⟨hline', hindex, hcolumn⟩ := hplace rfl hinline
    have hlength : (singleQuoted n cs).length = (cs.flatMap singleQuotedChar).length + 2 := by
      simp [singleQuoted, continued_of_inline hinline, endsInBreak_of_inline hinline]
    omega

/-! ## Double quotes -/

theorem hexValue?_hexDigit {d : Nat} (hd : d < 16) :
    Json.hexValue? (Json.hexDigit true d) = some d := by
  revert d
  decide

/-- The digits of a hexadecimal escape but for the last `m`. -/
theorem doubleQuotedScalar_hexText {width m value v : Nat} (hm : 0 < m) :
    doubleQuotedScalar (Json.hexText true width v ++ t) i l k true
        (some ⟨width + m, value⟩) f =
      doubleQuotedScalar t (i + width) l (k + width) true
        (some ⟨m, 16 ^ width * value + v % 16 ^ width⟩) f := by
  induction width generalizing m v t with
  | zero => simp [Json.hexText, Nat.mod_one]
  | succ width ih =>
      have hdigit : Json.hexValue? (Json.hexDigit true (v % 16)) = some (v % 16) :=
        hexValue?_hexDigit (Nat.mod_lt v (by decide))
      have hvalue : 16 * (16 ^ width * value + v / 16 % 16 ^ width) + v % 16 =
          16 ^ (width + 1) * value + v % 16 ^ (width + 1) := by
        have hassoc : 16 * 16 ^ width * value = 16 * (16 ^ width * value) := Nat.mul_assoc ..
        rw [Nat.pow_succ, Nat.mul_comm (16 ^ width) 16, Nat.mod_mul]
        omega
      rw [Json.hexText, List.append_assoc, show width + 1 + m = width + (m + 1) by omega,
        ih (Nat.succ_pos m), List.singleton_append, doubleQuotedScalar, hdigit]
      simp only [hvalue, if_pos (show 1 < m + 1 by omega)]
      simp [Nat.add_assoc]

/-- A hexadecimal escape of a character. -/
theorem doubleQuotedScalar_code {width : Nat} (hwidth : c.toNat < 16 ^ (width + 1)) :
    doubleQuotedScalar (Json.hexText true (width + 1) c.toNat ++ t) i l k true
        (some ⟨width + 1, 0⟩) f =
      doubleQuotedScalar t (i + (width + 1)) l (k + (width + 1)) true none
        (f.push c) := by
  have hdigit : Json.hexValue? (Json.hexDigit true (c.toNat % 16)) = some (c.toNat % 16) :=
    hexValue?_hexDigit (Nat.mod_lt _ (by decide))
  have hvalue : 16 * (16 ^ width * 0 + c.toNat / 16 % 16 ^ width) + c.toNat % 16 = c.toNat := by
    rw [Nat.mod_eq_of_lt (by rw [Nat.pow_succ] at hwidth; omega)]
    omega
  have hvalid : ((decide (0xD800 ≤ c.toNat) && decide (c.toNat ≤ 0xDFFF)) ||
      decide (0x10FFFF < c.toNat)) = false := by
    have hc : c.toNat < 0xD800 ∨ 0xDFFF < c.toNat ∧ c.toNat < 0x110000 := c.valid
    simp only [Bool.or_eq_false_iff, Bool.and_eq_false_iff, decide_eq_false_iff_not]
    omega
  rw [Json.hexText, List.append_assoc, doubleQuotedScalar_hexText (by decide),
    List.singleton_append, doubleQuotedScalar, hdigit]
  simp only [hvalue, hvalid, Char.ofNat_toNat]
  simp [Nat.add_assoc]

/-- How a character may be written within double quotes: as it is, by a letter, or by its code. A
code takes at most four characters for every byte. -/
inductive IsEscaped (c : Char) : List Char → Prop where
  | inline (h : IsInline c) (hquote : c ≠ '"') (hslash : c ≠ '\\') : IsEscaped c [c]
  | letter (x : Char) (hx : IsInline x) (hwidth : escapeWidth? x = none)
      (hletter : escaped? x = some c) : IsEscaped c ['\\', x]
  | code (x : Char) (width : Nat) (hx : IsInline x) (hwidth : escapeWidth? x = some (width + 1))
      (hcode : c.toNat < 16 ^ (width + 1)) (hsize : width + 3 ≤ 4 * c.utf8Size) :
      IsEscaped c ('\\' :: x :: Json.hexText true (width + 1) c.toNat)

theorem isEscaped_doubleQuotedChar (c : Char) : IsEscaped c (doubleQuotedChar c) := by
  have hletter {n : Nat} (x : Char) (hx : IsInline x) (hwidth : escapeWidth? x = none)
      (hcode : escaped? x = some (Char.ofNat n)) (h : c.toNat = n) : IsEscaped c ['\\', x] := by
    rw [← h, Char.ofNat_toNat] at hcode
    exact .letter x hx hwidth hcode
  have hlast : c.toNat < 0x110000 := by
    have hc : c.toNat < 0xD800 ∨ 0xDFFF < c.toNat ∧ c.toNat < 0x110000 := c.valid
    omega
  have hsize (width : Nat) (hwidth : width + 3 ≤ 4 ∨ 0x7F < c.toNat ∧ width + 3 ≤ 8 ∨
      0xFFFF < c.toNat ∧ width + 3 ≤ 16) : width + 3 ≤ 4 * c.utf8Size := by
    have htoNat : c.val.toNat = c.toNat := rfl
    simp only [Char.utf8Size, UInt32.le_iff_toNat_le, htoNat]
    split_ifs <;> simp_all <;> omega
  unfold doubleQuotedChar
  refine iteInduction (fun h => ?_) fun _ => ?_
  · obtain ⟨⟨⟨hp, hb⟩, hquote⟩, hslash⟩ := by simpa using h
    exact .inline ⟨hp, hb⟩ hquote hslash
  refine iteInduction (hletter '0' ⟨rfl, rfl⟩ rfl rfl) fun _ => ?_
  refine iteInduction (hletter 'a' ⟨rfl, rfl⟩ rfl rfl) fun _ => ?_
  refine iteInduction (hletter 'b' ⟨rfl, rfl⟩ rfl rfl) fun _ => ?_
  refine iteInduction (hletter 't' ⟨rfl, rfl⟩ rfl rfl) fun _ => ?_
  refine iteInduction (hletter 'n' ⟨rfl, rfl⟩ rfl rfl) fun _ => ?_
  refine iteInduction (hletter 'v' ⟨rfl, rfl⟩ rfl rfl) fun _ => ?_
  refine iteInduction (hletter 'f' ⟨rfl, rfl⟩ rfl rfl) fun _ => ?_
  refine iteInduction (hletter 'r' ⟨rfl, rfl⟩ rfl rfl) fun _ => ?_
  refine iteInduction (hletter 'e' ⟨rfl, rfl⟩ rfl rfl) fun _ => ?_
  refine iteInduction (hletter '"' ⟨rfl, rfl⟩ rfl rfl) fun _ => ?_
  refine iteInduction (hletter '\\' ⟨rfl, rfl⟩ rfl rfl) fun _ => ?_
  refine iteInduction (hletter 'N' ⟨rfl, rfl⟩ rfl rfl) fun _ => ?_
  refine iteInduction (hletter '_' ⟨rfl, rfl⟩ rfl rfl) fun _ => ?_
  refine iteInduction (hletter 'L' ⟨rfl, rfl⟩ rfl rfl) fun _ => ?_
  refine iteInduction (hletter 'P' ⟨rfl, rfl⟩ rfl rfl) fun _ => ?_
  refine iteInduction (fun h => ?_) fun hx => iteInduction (fun h => ?_) fun hu => ?_
  · exact .code 'x' 1 ⟨rfl, rfl⟩ rfl (by omega) (hsize _ (by omega))
  · exact .code 'u' 3 ⟨rfl, rfl⟩ rfl (by omega) (hsize _ (by omega))
  · exact .code 'U' 7 ⟨rfl, rfl⟩ rfl (by omega) (hsize _ (by omega))

/-- What has been read within one line. -/
structure Folding.HoldsLine (f : Folding) (done : List Char) : Prop where
  broken_eq : f.broken = false
  text_eq : f.blanks ++ f.text = done

namespace Folding.HoldsLine

theorem empty : Folding.empty.HoldsLine [] := ⟨rfl, rfl⟩

theorem joined_eq (h : f.HoldsLine done) : f.joined = ⟨done, [], none, [], false⟩ := by
  simp [Folding.joined, h.broken_eq, h.text_eq]

theorem push (h : f.HoldsLine done) : (f.push c).HoldsLine (c :: done) := by
  rw [Folding.push, h.joined_eq]
  exact ⟨rfl, rfl⟩

theorem blank (h : f.HoldsLine done) : (f.blank c).HoldsLine (c :: done) := by
  have hblank : f.blank c = { f with blanks := c :: f.blanks } := by
    simp [Folding.blank, h.broken_eq]
  rw [hblank]
  exact ⟨h.broken_eq, congrArg (c :: ·) h.text_eq⟩

end Folding.HoldsLine

/-- A step behind a backslash. -/
theorem doubleQuotedScalar_escape {x : Char} (hx : IsInline x) :
    doubleQuotedScalar ('\\' :: x :: t) i l k inWord none f =
      match escapeWidth? x, escaped? x with
      | some width, _ =>
        doubleQuotedScalar t (i + 2) l (k + 2) true (some ⟨width, 0⟩) f
      | none, some d => doubleQuotedScalar t (i + 2) l (k + 2) true none (f.push d)
      | none, none => none := by
  rw [doubleQuotedScalar]
  · rw [hx.notBreak]
    rfl
  · rintro rest rfl
    exact absurd rfl hx.ne_return

theorem length_hexText {upper : Bool} {width v : Nat} :
    (Json.hexText upper width v).length = width := by
  induction width generalizing v with
  | zero => rfl
  | succ width ih => simp [Json.hexText, ih]

/-- A step within double quotes on a character that does not begin an escape. -/
theorem doubleQuotedScalar_cons (hslash : c ≠ '\\') (hreturn : c ≠ '\r')
    (hmark : inWord = true ∨ (⟨c :: t, i, l, k⟩ : Cursor).atDocumentMark = false) :
    doubleQuotedScalar (c :: t) i l k inWord none f =
      if c = '"' then some (f.joined, ⟨t, i + 1, l, k + 1⟩)
      else if isBlankChar c then
        doubleQuotedScalar t (i + 1) l (k + 1) false none (f.blank c)
      else if isBreak c then
        doubleQuotedScalar t (i + 1) (l + 1) 0 false none (f.lineEnd c)
      else doubleQuotedScalar t (i + 1) l (k + 1) true none (f.push c) := by
  have hmark' : (!inWord && (⟨c :: t, i, l, k⟩ : Cursor).atDocumentMark) = false := by
    rcases hmark with h | h <;> simp [h]
  rw [doubleQuotedScalar]
  · rw [hmark']
    rfl
  · exact fun _ h => absurd h hslash
  · exact fun _ _ h => absurd h hslash
  · exact fun _ h => absurd h hreturn

/-- A character within double quotes is read back, however it is written. -/
theorem doubleQuotedScalar_char (hf : f.HoldsLine done) (hmark : inWord = true ∨ 0 < k) :
    ∃ f' inWord', f'.HoldsLine (c :: done) ∧
      ∀ t, doubleQuotedScalar (doubleQuotedChar c ++ t) i l k inWord none f =
        doubleQuotedScalar t (i + (doubleQuotedChar c).length) l
          (k + (doubleQuotedChar c).length) inWord' none f' := by
  have hwritten := isEscaped_doubleQuotedChar c
  generalize doubleQuotedChar c = written at hwritten ⊢
  cases hwritten with
  | inline hinline hquote hslash =>
      have hstep (t : List Char) := doubleQuotedScalar_cons (i := i) (l := l) (k := k) (f := f)
        (t := t) hslash hinline.ne_return (hmark.imp_right atDocumentMark_of_pos)
      simp only [if_neg hquote, hinline.notBreak] at hstep
      by_cases hblank : isBlankChar c = true
      · simp only [if_pos hblank] at hstep
        exact ⟨f.blank c, false, hf.blank, hstep⟩
      · simp only [if_neg hblank] at hstep
        exact ⟨f.push c, true, hf.push, hstep⟩
  | letter x hx hwidth hletter =>
      refine ⟨f.push c, true, hf.push, fun t => ?_⟩
      rw [List.cons_append, List.singleton_append, doubleQuotedScalar_escape hx, hwidth, hletter]
      rfl
  | code x width hx hwidth hcode =>
      refine ⟨f.push c, true, hf.push, fun t => ?_⟩
      rw [List.cons_append, List.cons_append, doubleQuotedScalar_escape hx, hwidth]
      dsimp only
      rw [doubleQuotedScalar_code hcode, List.length_cons, List.length_cons, length_hexText]
      congr 1 <;> omega

theorem doubleQuotedChar_ne_nil : doubleQuotedChar c ≠ [] := by
  have hwritten := isEscaped_doubleQuotedChar c
  generalize doubleQuotedChar c = written at hwritten
  cases hwritten <;> simp

/-- What double quotes hold is read back. -/
theorem doubleQuotedScalar_text (hf : f.HoldsLine done) (hmark : inWord = true ∨ 0 < k) :
    doubleQuotedScalar (cs.flatMap doubleQuotedChar ++ '"' :: t) i l k inWord none f =
      some (⟨cs.reverse ++ done, [], none, [], false⟩,
        ⟨t, i + (cs.flatMap doubleQuotedChar).length + 1, l,
          k + (cs.flatMap doubleQuotedChar).length + 1⟩) := by
  induction cs generalizing f done i k inWord with
  | nil =>
      rw [List.flatMap_nil, List.nil_append, doubleQuotedScalar_cons (by decide) (by decide)
        (.inr (atDocumentMark_of_ne (by decide) (by decide))), if_pos rfl, hf.joined_eq]
      rfl
  | cons c rest ih =>
      obtain ⟨f', inWord', hf', hchar⟩ :=
        doubleQuotedScalar_char (c := c) (i := i) (l := l) hf hmark
      have hlength : 0 < (doubleQuotedChar c).length :=
        List.length_pos_of_ne_nil doubleQuotedChar_ne_nil
      rw [List.flatMap_cons, List.append_assoc, hchar, ih hf' (.inr (by omega))]
      simp [Nat.add_assoc]

variable (cs) in
/-- A double quoted text is read back, and ends in the line it begins in. -/
theorem doubleQuotedScalar_doubleQuoted :
    ∃ f, doubleQuotedScalar ((doubleQuoted cs ++ t).drop 1) (i + 1) l (k + 1) true none
        .empty = some (f, ⟨t, i + (doubleQuoted cs).length, l,
          k + (doubleQuoted cs).length⟩) ∧
      f.text.reverse = cs := by
  refine ⟨⟨cs.reverse, [], none, [], false⟩, ?_, List.reverse_reverse cs⟩
  have hread : doubleQuotedScalar (cs.flatMap doubleQuotedChar ++ '"' :: t) (i + 1) l (k + 1) true
      none .empty = _ := doubleQuotedScalar_text .empty (.inl rfl)
  have hlength : (doubleQuoted cs).length = (cs.flatMap doubleQuotedChar).length + 2 := by
    simp [doubleQuoted]
  have hdrop : (doubleQuoted cs ++ t).drop 1 = cs.flatMap doubleQuotedChar ++ '"' :: t := by
    simp [doubleQuoted]
  rw [hdrop, hread, List.append_nil, hlength]
  congr 3 <;> omega

end

end ServiceContract.Yaml
