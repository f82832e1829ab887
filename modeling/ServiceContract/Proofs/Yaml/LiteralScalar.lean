import ServiceContract.Proofs.Yaml.PlainScalar

/-!
# Literal scalars read back

The lines of a literal stand at one column. What has been read of it at any place is the text up to
there, although line breaks are held back until the next line of text.
-/

namespace ServiceContract.Yaml

/-- What has been read, its last character first, of a text that stands at a column. -/
inductive Block.Holds (n : Nat) : Block → List Char → Prop where
  | within (text : List Char) (leadingBlank : Bool) (widest : Nat) :
      Block.Holds n ⟨text, [], [], leadingBlank, some n, widest, true⟩ text
  | between (text leading trailing : List Char) (leadingBlank : Bool) (widest : Nat) :
      Block.Holds n ⟨text, leading, trailing, leadingBlank, some n, widest, false⟩
        (trailing ++ leading ++ text)

section

variable {least i l k n m : Nat} {cs t done : List Char} {c : Char} {b : Block}

/-! ## Lines -/

variable {indent : Option Nat} {text leading trailing : List Char} {leadingBlank : Bool}
  {widest : Nat}

theorem blockLines_within (hc : isBreak c = false) :
    blockLines true least (c :: t) i l k
        ⟨text, [], [], leadingBlank, some n, widest, true⟩ =
      blockLines true least t (i + 1) l (k + 1)
        ⟨c :: text, [], [], leadingBlank, some n, widest, true⟩ := by
  rw [blockLines.eq_def]
  dsimp only
  rw [hc]
  rfl

/-- A line ends with a break that is not the first half of another. -/
theorem blockLines_lineEnd (hc : isBreak c = true) (hreturn : c ≠ '\r')
    (hstands : breakChar c = c) :
    blockLines true least (c :: t) i l k
        ⟨text, [], [], leadingBlank, some n, widest, true⟩ =
      blockLines true least t (i + 1) (l + 1) 0
        ⟨text, [c], [], leadingBlank, some n, widest, false⟩ := by
  rw [blockLines.eq_def]
  dsimp only
  rw [hc, hstands]
  simp [hreturn]

/-- The blanks before the column of the text do not count. -/
theorem blockLines_pad (hk : ∀ e ∈ indent, k + m ≤ e) :
    blockLines true least (pad m ++ t) i l k
        ⟨text, leading, trailing, leadingBlank, indent, widest, false⟩ =
      blockLines true least t (i + m) l (k + m)
        ⟨text, leading, trailing, leadingBlank, indent, widest, false⟩ := by
  induction m generalizing i k with
  | zero => rfl
  | succ m ih =>
      have hstep : blockLines true least (' ' :: (pad m ++ t)) i l k
          ⟨text, leading, trailing, leadingBlank, indent, widest, false⟩ =
          blockLines true least (pad m ++ t) (i + 1) l (k + 1)
            ⟨text, leading, trailing, leadingBlank, indent, widest, false⟩ := by
        rw [blockLines.eq_def]
        cases indent with
        | none => rfl
        | some e =>
            have hm : k < e := Nat.lt_of_lt_of_le (by omega) (hk e rfl)
            simp [hm]
      rw [pad, List.replicate_succ, List.cons_append]
      refine hstep.trans ((ih fun e hm => ?_).trans ?_)
      · have := hk e hm
        omega
      · simp [Nat.add_comm, Nat.add_left_comm]

theorem blockLines_emptyLine (hc : isBreak c = true) (hreturn : c ≠ '\r')
    (hstands : breakChar c = c) :
    blockLines true least (c :: t) i l k
        ⟨text, leading, trailing, leadingBlank, some n, widest, false⟩ =
      blockLines true least t (i + 1) (l + 1) 0
        ⟨text, leading, c :: trailing, leadingBlank, some n, max widest k, false⟩ := by
  have hspace : c ≠ ' ' := by
    rintro rfl
    cases hc
  have htab : c ≠ '\t' := by
    rintro rfl
    cases hc
  rw [blockLines.eq_def]
  simp [hspace, htab, hc, hreturn, hstands]

theorem blockLines_start (hc : IsInline c) :
    blockLines true least (c :: t) i l n
        ⟨text, leading, trailing, leadingBlank, some n, widest, false⟩ =
      blockLines true least t (i + 1) l (n + 1)
        ⟨c :: (trailing ++ leading ++ text), [], [], isBlankChar c, some n, max widest n,
          true⟩ := by
  rw [blockLines.eq_def]
  simp [hc.notBreak, Block.startLine]

variable (least) in
/-- A character of a literal, behind whatever blanks a new line has. -/
theorem blockLines_char (hprintable : isPrintable c = true) (hb : b.Holds n done)
    (hcolumn : b.inLine = false → k = 0) :
    ∃ b' i' l' k', b'.Holds n (c :: done) ∧ (b'.inLine = false → k' = 0) ∧
      b'.inLine = !isBreak c ∧ l ≤ l' ∧
      ∀ t, blockLines true least
          ((if isBreak c || b.inLine then [] else pad n) ++ c :: t) i l k b =
        blockLines true least t i' l' k' b' := by
  by_cases hbreak : isBreak c = true
  · obtain ⟨hreturn, hstands⟩ := breakChar_of_printable hprintable hbreak
    rw [hbreak]
    cases hb with
    | within text leadingBlank widest =>
        exact ⟨_, _, _, _, .between done [c] [] leadingBlank widest, fun _ => rfl, rfl,
          Nat.le_succ l, fun t => blockLines_lineEnd hbreak hreturn hstands⟩
    | between text leading trailing leadingBlank widest =>
        exact ⟨_, _, _, _, .between text leading (c :: trailing) leadingBlank _, fun _ => rfl, rfl,
          Nat.le_succ l, fun t => blockLines_emptyLine hbreak hreturn hstands⟩
  · have hinline : IsInline c := ⟨hprintable, by simpa using hbreak⟩
    rw [hinline.notBreak]
    cases hb with
    | within text leadingBlank widest =>
        exact ⟨_, _, _, _, .within (c :: done) leadingBlank widest, nofun, rfl, le_rfl,
          fun t => blockLines_within hinline.notBreak⟩
    | between text leading trailing leadingBlank widest =>
        obtain rfl : k = 0 := hcolumn rfl
        refine ⟨_, i + n + 1, l, n + 1, .within _ (isBlankChar c) (max widest n), nofun, rfl,
          le_rfl, fun t => ?_⟩
        refine (blockLines_pad fun e hm => ?_).trans ?_
        · simp_all
        · rw [Nat.zero_add]
          exact blockLines_start hinline

variable (least) in
/-- What a literal holds is read back. -/
theorem blockLines_text (hprintable : ∀ c ∈ cs, isPrintable c = true) (hb : b.Holds n done)
    (hcolumn : b.inLine = false → k = 0) :
    ∃ b' i' l' k', b'.Holds n (cs.reverse ++ done) ∧ (b'.inLine = false → k' = 0) ∧
      b'.inLine = cs.getLast?.elim b.inLine (!isBreak ·) ∧ l ≤ l' ∧
      ∀ t, blockLines true least (continued n (fun c => [c]) (!b.inLine) cs ++ t)
          i l k b =
        blockLines true least t i' l' k' b' := by
  induction cs generalizing b done i l k with
  | nil => exact ⟨b, i, l, k, hb, hcolumn, rfl, le_rfl, fun _ => rfl⟩
  | cons c rest ih =>
      rw [List.forall_mem_cons] at hprintable
      obtain ⟨b₁, i₁, l₁, k₁, hb₁, hcolumn₁, hline₁, hle₁, hchar⟩ :=
        blockLines_char least (i := i) (l := l) hprintable.1 hb hcolumn
      obtain ⟨b', i', l', k', hb', hcolumn', hline', hle', htext⟩ :=
        ih (i := i₁) (l := l₁) hprintable.2 hb₁ hcolumn₁
      refine ⟨b', i', l', k', by simpa using hb', hcolumn', ?_, hle₁.trans hle', ?_⟩
      · rw [hline', hline₁, List.getLast?_cons]
        cases rest.getLast? <;> rfl
      · intro t
        rw [← htext, ← hchar, hline₁, continued]
        cases isBreak c <;> cases b.inLine <;> simp

/-! ## Behind the last line -/

variable (least) in
/-- A literal ends before the first character of a line that stands further left. -/
theorem blockLines_next (hb : b.Holds n done) (hline : b.inLine = false) (hk : m < n)
    (htail : StandsOut t) :
    ∃ b', (∀ chomping, b'.finish chomping = b.finish chomping) ∧
      blockLines true least (pad m ++ t) i l 0 b =
        some (b', ⟨t, i + m, l, m⟩) := by
  cases hb with
  | within => cases hline
  | between text leading trailing leadingBlank widest =>
      have hpad : ∀ e ∈ some n, 0 + m ≤ e := by
        intro e hm
        cases hm
        omega
      cases t with
      | nil =>
          refine ⟨_, fun _ => rfl, ?_⟩
          rw [blockLines_pad hpad, Nat.zero_add]
          rfl
      | cons c t =>
          obtain ⟨hblank, hbreak, -⟩ := htail c rfl
          refine ⟨⟨text, leading, trailing, leadingBlank, some n, max widest m, false⟩,
            fun _ => rfl, ?_⟩
          have hspace : c ≠ ' ' := by
            rintro rfl
            cases hblank
          have htab : c ≠ '\t' := by
            rintro rfl
            cases hblank
          rw [blockLines_pad hpad, Nat.zero_add, blockLines.eq_def]
          simp [hspace, htab, hbreak, Nat.ne_of_lt hk]

/-- Before the first line of a text that stands at a column. -/
def Block.before (indent : Option Nat) : Block := ⟨[], [], [], false, indent, 0, false⟩

theorem Block.holds_before : (Block.before (some n)).Holds n [] := .between [] [] [] false 0

variable (least) in
/-- A text that does not end in a break, and one break behind it. -/
theorem blockLines_oneBreak (hprintable : ∀ d ∈ cs ++ [c], isPrintable d = true) (hne : cs ≠ [])
    (hends : endsInBreak cs = false) (hc : isBreak c = true) (hk : m < n) (htail : StandsOut t) :
    ∃ b i' l',
      blockLines true least (continued n (fun c => [c]) true cs ++ c :: (pad m ++ t)) i l 0
        (.before (some n)) = some (b, ⟨t, i', l', m⟩) ∧ l ≤ l' ∧
      b.finish .strip = cs ∧ b.finish .clip = cs ++ [c] := by
  obtain ⟨hreturn, hstands⟩ := breakChar_of_printable (hprintable c (by simp)) hc
  obtain ⟨b, i', l', k', hb, -, hline, hle, htext⟩ :=
    blockLines_text least (n := n) (i := i) (l := l) (k := 0)
      (fun d hd => hprintable d (List.mem_append_left [c] hd)) Block.holds_before (fun _ => rfl)
  have hin : b.inLine = true := by
    rw [hline]
    cases hlast : cs.getLast? with
    | none => exact absurd (List.getLast?_eq_none_iff.mp hlast) hne
    | some d => simpa [endsInBreak, hlast] using hends
  generalize hdone : cs.reverse ++ [] = done at hb
  cases hb with
  | between => cases hin
  | within _ leadingBlank widest =>
      obtain rfl : done = cs.reverse := by rw [← hdone, List.append_nil]
      obtain ⟨b', hfinish, hread⟩ := blockLines_next least (i := i' + 1)
        (l := l' + 1) (.between cs.reverse [c] [] leadingBlank widest) rfl hk htail
      refine ⟨b', i' + 1 + m, l' + 1, ?_, by omega, ?_, ?_⟩
      · refine (htext _).trans ?_
        rw [blockLines_lineEnd hc hreturn hstands, hread]
      · rw [hfinish]
        simp [Block.finish]
      · rw [hfinish]
        simp [Block.finish]

/-! ## Whole literals -/

/-- What the marks of a literal say of the breaks at its end. -/
def chompingOf (cs : List Char) : Chomping :=
  if !endsInBreak cs then .strip
  else if cs.length = 1 || endsInBreak cs.dropLast then .keep
  else .clip

/-- Whether a literal has to say where its text begins. -/
def startsBlank (cs : List Char) : Bool := cs.head?.any fun c => c = ' ' || isBreak c

theorem blockMarks_literalMarks :
    blockMarks ⟨literalMarks cs ++ '\n' :: t, i, l, k⟩ =
      some (chompingOf cs, if startsBlank cs then some 2 else none,
        ⟨'\n' :: t, i + (literalMarks cs).length, l,
          k + (literalMarks cs).length⟩) := by
  unfold literalMarks chompingOf startsBlank
  generalize (cs.head?.any fun c => decide (c = ' ') || isBreak c) = blank
  generalize endsInBreak cs = ends
  generalize (decide (cs.length = 1) || endsInBreak cs.dropLast) = several
  cases blank <;> cases ends <;> cases several <;> rfl

theorem continued_append_break {each : Char → List Char} {atStart : Bool} (hc : isBreak c = true) :
    continued n each atStart (cs ++ [c]) = continued n each atStart cs ++ [c] := by
  induction cs generalizing atStart with
  | nil => simp [continued, hc]
  | cons d rest ih => by_cases hd : isBreak d = true <;> simp [continued, hd, ih]

/-- The lines of a literal are read back, where its text is known to begin. -/
theorem blockLines_literal (h : IsLiteralText cs) (hk : m < n) (htail : StandsOut t) :
    ∃ b i' l',
      blockLines true least (continued n (fun c => [c]) true cs ++
          (if endsInBreak cs then [] else ['\n']) ++ (pad m ++ t)) i l 0
        (.before (some n)) = some (b, ⟨t, i', l', m⟩) ∧ l ≤ l' ∧
      b.finish (chompingOf cs) = cs := by
  by_cases hends : endsInBreak cs = true
  · by_cases hseveral : (cs.length = 1 || endsInBreak cs.dropLast) = true
    · obtain ⟨b, i', l', k', hb, hcolumn, hline, hle, htext⟩ :=
        blockLines_text least (i := i) (l := l) h.printable (Block.holds_before (n := n))
          fun _ => rfl
      have hin : b.inLine = false := by
        rw [hline]
        cases hlast : cs.getLast? with
        | none => exact absurd (List.getLast?_eq_none_iff.mp hlast) h.ne_nil
        | some d => simpa [endsInBreak, hlast] using hends
      obtain rfl : k' = 0 := hcolumn hin
      obtain ⟨b', hfinish, hread⟩ := blockLines_next least (i := i') (l := l') hb hin hk htail
      refine ⟨b', i' + m, l', ?_, hle, ?_⟩
      · rw [if_pos hends, List.append_nil]
        exact (htext _).trans hread
      · have hkeep : chompingOf cs = .keep := by simp [chompingOf, hends, hseveral]
        rw [hfinish, hkeep]
        generalize hdone : cs.reverse ++ [] = done at hb
        cases hb with
        | within => cases hin
        | between text leading trailing => simp [Block.finish, ← hdone]
    · obtain rfl | ⟨p, c, rfl⟩ := List.eq_nil_or_concat' cs
      · exact absurd rfl h.ne_nil
      have hc : isBreak c = true := by simpa [endsInBreak] using hends
      have hp : p ≠ [] ∧ endsInBreak p = false := by
        simpa using hseveral
      obtain ⟨b, i', l', hread, hle, -, hclip⟩ :=
        blockLines_oneBreak least (i := i) (l := l) h.printable hp.1 hp.2 hc hk htail
      refine ⟨b, i', l', ?_, hle, ?_⟩
      · rw [if_pos hends, List.append_nil, continued_append_break hc, List.append_assoc]
        exact hread
      · have hmode : chompingOf (p ++ [c]) = .clip := by simp [chompingOf, hends, hp]
        rw [hmode, hclip]
  · obtain ⟨b, i', l', hread, hle, hstrip, -⟩ :=
      blockLines_oneBreak least (c := '\n') (i := i) (l := l)
        (fun d hd => by
          rcases List.mem_append.mp hd with hd | hd
          · exact h.printable d hd
          · rw [List.mem_singleton.mp hd]
            rfl)
        h.ne_nil (by simpa using hends) rfl hk htail
    refine ⟨b, i', l', ?_, hle, ?_⟩
    · simpa [hends] using hread
    · simpa [chompingOf, hends] using hstrip

/-- A text that does not start with a blank shows where it begins. -/
theorem blockLines_shown (h : IsLiteralText cs) (hblank : startsBlank cs = false)
    (hleast : least ≤ n) :
    blockLines true least (continued n (fun c => [c]) true cs ++ t) i l 0 (.before none) =
      blockLines true least (continued n (fun c => [c]) true cs ++ t) i l 0 (.before (some n)) := by
  obtain ⟨c, rest, rfl⟩ := List.exists_cons_of_ne_nil h.ne_nil
  obtain ⟨hspace, hbreak⟩ : c ≠ ' ' ∧ isBreak c = false := by simpa [startsBlank] using hblank
  have hwritten : continued n (fun c => [c]) true (c :: rest) ++ t =
      pad n ++ c :: (continued n (fun c => [c]) false rest ++ t) := by
    simp [continued, hbreak]
  have htab : c ≠ '\t' := IsInline.ne_tab ⟨h.printable c (by simp), hbreak⟩
  rw [hwritten, Block.before, Block.before, blockLines_pad (by simp), blockLines_pad (by simp),
    Nat.zero_add, blockLines.eq_def, blockLines.eq_def]
  simp [hspace, htab, hbreak, hleast, Block.startLine]

/-- A literal text is read back, up to the first character of the next line. `n` is two columns to
the right of the collection around it. -/
theorem blockScalar_literal {parent : Option Nat} (h : IsLiteralText cs)
    (hn : n = parent.getD 0 + 2) (hk : m < n) (htail : StandsOut t) :
    ∃ i' l', blockScalar true parent ⟨(literal n cs ++ (pad m ++ t)).drop 1, i, l, k⟩ =
      some (cs, ⟨t, i', l', m⟩) ∧ l < l' := by
  have hwritten : (literal n cs ++ (pad m ++ t)).drop 1 = literalMarks cs ++ '\n' ::
      (continued n (fun c => [c]) true cs ++ (if endsInBreak cs then [] else ['\n']) ++
        (pad m ++ t)) := by
    simp [literal]
  have hline (t : List Char) (i l k : Nat) :
      (⟨'\n' :: t, i, l, k⟩ : Cursor).skipRestOfLine = some ⟨t, i + 1, l + 1, 0⟩ := rfl
  have hlines (least i : Nat) (hleast : least ≤ n) : ∃ b i' l',
      blockLines true least (continued n (fun c => [c]) true cs ++
          (if endsInBreak cs then [] else ['\n']) ++ (pad m ++ t)) i (l + 1) 0
        (.before (if startsBlank cs then some n else none)) = some (b, ⟨t, i', l', m⟩) ∧
      l + 1 ≤ l' ∧ b.finish (chompingOf cs) = cs := by
    by_cases hblank : startsBlank cs = true
    · rw [if_pos hblank]
      exact blockLines_literal h hk htail
    · rw [if_neg hblank, List.append_assoc, blockLines_shown h (by simpa using hblank) hleast,
        ← List.append_assoc]
      exact blockLines_literal h hk htail
  have hindent : (if startsBlank cs then some 2 else none : Option Nat).map (parent.getD 0 + ·) =
      if startsBlank cs then some n else none := by
    split <;> simp [hn]
  rw [hwritten]
  simp only [blockScalar, blockMarks_literalMarks, hline, bind, Option.bind, hindent]
  have hleast : parent.elim 1 (· + 1) ≤ n := by
    cases parent with
    | none => exact hn ▸ Nat.le_add_left 1 _
    | some p => exact hn ▸ Nat.le_succ (p + 1)
  obtain ⟨b, i', l', hread, hle, hfinish⟩ :=
    hlines (parent.elim 1 (· + 1)) (i + (literalMarks cs).length + 1) hleast
  refine ⟨i', l', ?_, hle⟩
  unfold Block.before at hread
  cases parent
  all_goals
    dsimp only [Option.elim] at hread ⊢
    rw [hread]
    exact congrArg (fun cs => some (cs, _)) hfinish

end

end ServiceContract.Yaml
