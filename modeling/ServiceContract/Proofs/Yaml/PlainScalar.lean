import ServiceContract.Proofs.Yaml.Style
import ServiceContract.Yaml.Printer
import ServiceContract.Yaml.Token.Scalar

/-!
# Plain scalars read back

A plain scalar ends at the colon behind a key, or at the first character of a line that does not
belong to it.
-/

namespace ServiceContract.Yaml

/-- What may stand first on a line behind its blanks: nothing at all, or a character that is neither
blank nor break and begins no comment. -/
def StandsOut (cs : List Char) : Prop :=
  ∀ c ∈ cs.head?, isBlankChar c = false ∧ isBreak c = false ∧ c ≠ '#'

theorem standsOut_nil : StandsOut [] := by simp [StandsOut]

theorem standsOut_cons {c : Char} {cs : List Char} (hc : IsInline c) (hspace : c ≠ ' ')
    (hcomment : c ≠ '#') : StandsOut (c :: cs) := by
  intro d hd
  cases hd
  exact ⟨by simp [hc.isBlankChar_eq, hspace], hc.notBreak, hcomment⟩

section

variable {indent i l k : Nat} {cs t : List Char} {text blanks : List Char}
  {c : Char} {inWord : Bool} {f : Folding}

/-- A mark needs the first column and a dash or a dot. -/
theorem atDocumentMark_of_pos (hpos : 0 < k) :
    (⟨cs, i, l, k⟩ : Cursor).atDocumentMark = false := by
  simp [Cursor.atDocumentMark, Nat.ne_of_gt hpos]

/-- A character of a word is taken up. -/
theorem plainScalar_word (hinline : IsInline c) (hspace : c ≠ ' ')
    (hword : inWord = true ∨ 0 < k ∧ indent ≤ k ∧ c ≠ '#')
    (hcolon : c = ':' → isBlankOrEnd t.head? = false) :
    plainScalar false indent (c :: t) i l k inWord f =
      plainScalar false indent t (i + 1) l (k + 1) true (f.push c) := by
  have hstays : (!inWord && ((!false && decide (k < indent)) ||
      (⟨c :: t, i, l, k⟩ : Cursor).atDocumentMark || decide (c = '#'))) = false := by
    rcases hword with rfl | ⟨hpos, hindent, hcomment⟩
    · rfl
    · simp [atDocumentMark_of_pos hpos, Nat.not_lt.mpr hindent, hcomment]
  have hgoes : (decide (c = ':') && isBlankOrEnd t.head?) = false := by
    by_cases hc : c = ':'
    · simp [hcolon hc]
    · simp [hc]
  have hblank : isBlankChar c = false := by simp [hinline.isBlankChar_eq, hspace]
  rw [plainScalar.eq_def]
  dsimp only
  rw [hblank, hinline.notBreak, hstays, hgoes]
  rfl

theorem plainScalar_text (hgo : GoesOn inWord cs) (hne : cs ≠ []) (hlast : cs.getLast? ≠ some ' ')
    (hindent : indent ≤ k + 1) (hword : inWord = true ∨ 0 < k ∧ indent ≤ k) :
    plainScalar false indent (cs ++ t) i l k inWord ⟨text, blanks, none, [], false⟩ =
      plainScalar false indent t (i + cs.length) l (k + cs.length) true
        ⟨cs.reverse ++ (blanks ++ text), [], none, [], false⟩ := by
  induction cs generalizing i k inWord text blanks with
  | nil => exact absurd rfl hne
  | cons c rest ih =>
      obtain ⟨hinline, hcomment, hcolon, hgo⟩ := hgo
      have hlast' : rest.getLast? ≠ some ' ' := by
        intro hspace
        rw [List.getLast?_cons, hspace] at hlast
        exact hlast rfl
      by_cases hspace : c = ' '
      · subst hspace
        have hrest : rest ≠ [] := by
          rintro rfl
          exact hlast rfl
        rw [List.cons_append, plainScalar.eq_def]
        dsimp only
        rw [show isBlankChar ' ' = true from rfl]
        refine Eq.trans (ih hgo hrest hlast' (by omega) (.inr (by omega))) ?_
        simp [Nat.add_comm, Nat.add_left_comm]
      · have hword' : inWord = true ∨ 0 < k ∧ indent ≤ k ∧ c ≠ '#' := by
          rcases hword with hword | ⟨hpos, hindent⟩
          · exact .inl hword
          · cases inWord with
            | true => exact .inl rfl
            | false => exact .inr ⟨hpos, hindent, fun hc => absurd (hcomment hc) (by decide)⟩
        have hcolon' : c = ':' → isBlankOrEnd (rest ++ t).head? = false := by
          intro hc
          cases rest with
          | nil => exact absurd (hcolon hc) (by decide)
          | cons d rest => exact hcolon hc
        rw [List.cons_append, plainScalar_word hinline hspace hword' hcolon']
        have hpush : Folding.push ⟨text, blanks, none, [], false⟩ c =
            ⟨c :: (blanks ++ text), [], none, [], false⟩ := rfl
        rw [hpush]
        by_cases hrest : rest = []
        · subst hrest
          rfl
        · have hgo' : GoesOn true rest := by simpa [hspace] using hgo
          refine Eq.trans (ih hgo' hrest hlast' (by omega) (.inl rfl)) ?_
          simp [Nat.add_comm, Nat.add_left_comm]

/-- The blanks before the next line do not count. -/
theorem plainScalar_pad {n : Nat} (hbroken : f.broken = true) :
    plainScalar false indent (pad n ++ t) i l k false f =
      plainScalar false indent t (i + n) l (k + n) false f := by
  induction n generalizing i k with
  | zero => rfl
  | succ n ih =>
      have hblank : f.blank ' ' = f := by simp [Folding.blank, hbroken]
      have htab : (f.broken && decide (k < indent) && decide (' ' = '\t')) = false := by simp
      rw [pad, List.replicate_succ, List.cons_append, plainScalar.eq_def]
      dsimp only
      rw [show isBlankChar ' ' = true from rfl, htab, hblank]
      refine Eq.trans ih ?_
      simp [Nat.add_comm, Nat.add_left_comm]

theorem plainScalar_next (hcolumn : k < indent ∨ t = []) (htail : StandsOut t) :
    plainScalar false indent t i l k false f =
      some (f, ⟨t, i, l, k⟩) := by
  cases t with
  | nil => rfl
  | cons c rest =>
      obtain ⟨hblank, hbreak, -⟩ := htail c rfl
      rw [plainScalar.eq_def]
      dsimp only
      rw [hblank, hbreak]
      simp [hcolumn.resolve_right (by simp)]

theorem plainScalar_newline :
    plainScalar false indent ('\n' :: t) i l k inWord f =
      plainScalar false indent t (i + 1) (l + 1) 0 false (f.lineEnd '\n') := by
  rw [plainScalar.eq_def]
  rfl

/-- A plain value ends where the next line begins. -/
theorem plainScalar_value {n : Nat} (h : IsPlainText cs) (hindent : indent ≤ k + 1)
    (hn : n < indent ∨ t = []) (htail : StandsOut t) :
    ∃ f i', plainScalar false indent (cs ++ '\n' :: (pad n ++ t)) i l k true
        .empty = some (f, ⟨t, i', l + 1, n⟩) ∧
      f.text.reverse = cs ∧ f.broken = true := by
  obtain ⟨c, rest, hcs, -⟩ := h.starts
  have hne : cs ≠ [] := by simp [hcs]
  have hbroken : (Folding.mk cs.reverse [] (some '\n') [] true).broken = true := rfl
  refine ⟨⟨cs.reverse, [], some '\n', [], true⟩, i + cs.length + 1 + n, ?_,
    List.reverse_reverse cs, rfl⟩
  calc plainScalar false indent (cs ++ '\n' :: (pad n ++ t)) i l k true .empty
    _ = plainScalar false indent ('\n' :: (pad n ++ t)) (i + cs.length) l
          (k + cs.length) true ⟨cs.reverse ++ [], [], none, [], false⟩ :=
        plainScalar_text h.goesOn hne h.ends hindent (.inl rfl)
    _ = plainScalar false indent (pad n ++ t) (i + cs.length + 1) (l + 1) 0 false
          ⟨cs.reverse, [], some '\n', [], true⟩ := by
        rw [plainScalar_newline, List.append_nil]
        rfl
    _ = plainScalar false indent t (i + cs.length + 1 + n) (l + 1) (0 + n) false
          ⟨cs.reverse, [], some '\n', [], true⟩ := plainScalar_pad hbroken
    _ = _ := by
        rw [Nat.zero_add]
        exact plainScalar_next hn htail

theorem plainScalar_colon (htail : isBlankOrEnd t.head? = true) :
    plainScalar false indent (':' :: t) i l k true f =
      some (f, ⟨':' :: t, i, l, k⟩) := by
  rw [plainScalar.eq_def]
  dsimp only
  rw [htail]
  rfl

/-- A plain key ends at its colon. -/
theorem plainScalar_key (h : IsPlainText cs) (hindent : indent ≤ k + 1)
    (htail : isBlankOrEnd t.head? = true) :
    ∃ f, plainScalar false indent (cs ++ ':' :: t) i l k true .empty =
        some (f, ⟨':' :: t, i + cs.length, l, k + cs.length⟩) ∧
      f.text.reverse = cs ∧ f.broken = false := by
  obtain ⟨c, rest, hcs, -⟩ := h.starts
  have hne : cs ≠ [] := by simp [hcs]
  refine ⟨⟨cs.reverse, [], none, [], false⟩, ?_, List.reverse_reverse cs, rfl⟩
  refine (plainScalar_text h.goesOn hne h.ends hindent (.inl rfl)).trans ?_
  rw [plainScalar_colon htail]
  simp

end

end ServiceContract.Yaml
