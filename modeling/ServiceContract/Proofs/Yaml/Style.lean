import Mathlib.Data.List.Chain
import ServiceContract.Yaml.Token

/-!
# What the scalar styles promise

A style is chosen for what a text is made of: what each of them may rely on, character by character.
-/

namespace ServiceContract.Yaml

/-! ## Characters -/

/-- A character that is written as it is, within a line. -/
structure IsInline (c : Char) : Prop where
  printable : isPrintable c = true
  notBreak : isBreak c = false

namespace IsInline

variable {c : Char}

theorem ne_tab (h : IsInline c) : c ≠ '\t' := by
  rintro rfl
  exact absurd h.printable (by decide)

theorem ne_return (h : IsInline c) : c ≠ '\r' := by
  rintro rfl
  exact absurd h.notBreak (by decide)

theorem isBlankChar_eq (h : IsInline c) : isBlankChar c = decide (c = ' ') := by
  simp [isBlankChar, h.ne_tab]

theorem isBlankOrEnd_eq (h : IsInline c) : isBlankOrEnd (some c) = decide (c = ' ') := by
  have hnul : c.toNat ≠ 0 := by
    intro hn
    have hp := h.printable
    simp [isPrintable, hn] at hp
  simp [isBlankOrEnd, h.notBreak, h.ne_tab, hnul]

end IsInline

/-- A line break that is written as it is stands for itself. -/
theorem breakChar_of_printable {c : Char} (hp : isPrintable c = true) (hb : isBreak c = true) :
    c ≠ '\r' ∧ breakChar c = c := by
  have hr : c ≠ '\r' := by
    rintro rfl
    exact absurd hp (by decide)
  have hn : c.toNat ≠ 0x85 := by
    intro hn
    simp [isPrintable, hn] at hp
  refine ⟨hr, ?_⟩
  have hcases : c = '\n' ∨ c.toNat = 0x2028 ∨ c.toNat = 0x2029 := by
    simpa [isBreak, hr, hn, or_assoc] using hb
  rcases hcases with rfl | h | h
  · rfl
  · exact if_pos (by simp [h])
  · exact if_pos (by simp [h])

/-! ## Neighbours -/

theorem forall_neighbours_iff {R : Char → Char → Prop} {cs : List Char} :
    (∀ ab ∈ neighbours cs, R ab.1 ab.2) ↔ cs.IsChain R := by
  induction cs with
  | nil => simp [neighbours]
  | cons c cs ih =>
      cases cs with
      | nil => simp [neighbours]
      | cons d cs =>
          have hcons : neighbours (c :: d :: cs) = (c, d) :: neighbours (d :: cs) := rfl
          rw [hcons, List.forall_mem_cons, ih, List.isChain_cons_cons]

/-! ## Plain scalars -/

/-- Whether a plain scalar goes on through a text. `inWord` says that a word stands before it. -/
def GoesOn : (inWord : Bool) → List Char → Prop
  | _, [] => True
  | inWord, c :: rest =>
    IsInline c ∧ (c = '#' → inWord = true) ∧ (c = ':' → isBlankOrEnd rest.head? = false) ∧
      GoesOn (c ≠ ' ') rest

/-- What a plain scalar relies on. -/
structure IsPlainText (cs : List Char) : Prop where
  goesOn : GoesOn true cs
  starts : ∃ c rest, cs = c :: rest ∧ c ≠ ' ' ∧ isIndicator c = false ∧
    (c = '-' ∨ c = '?' ∨ c = ':' → isBlankOrEnd rest.head? = false)
  ends : cs.getLast? ≠ some ' '
  noMark : ¬"---".toList <+: cs ∧ ¬"...".toList <+: cs

/-- Every character of a text with the one behind it. -/
theorem zip_next_cons (c : Char) (rest : List Char) :
    (c :: rest).zip (rest.map some ++ [none]) =
      (c, rest.head?) :: rest.zip (rest.tail.map some ++ [none]) := by
  cases rest with
  | nil => rfl
  | cons d rest => rfl

/-- A text goes on if no number sign stands behind a blank and no colon before one. -/
theorem goesOn_of_neighbours {inWord : Bool} {cs : List Char} (hinline : ∀ c ∈ cs, IsInline c)
    (hstart : cs.head? = some '#' → inWord = true)
    (hcomment : cs.IsChain fun a b => b = '#' → isBlankOrEnd (some a) = false)
    (hcolon : ∀ ab ∈ cs.zip (cs.tail.map some ++ [none]), ab.1 = ':' →
      isBlankOrEnd ab.2 = false) :
    GoesOn inWord cs := by
  induction cs generalizing inWord with
  | nil => trivial
  | cons c rest ih =>
      rw [List.forall_mem_cons] at hinline
      rw [List.tail_cons, zip_next_cons, List.forall_mem_cons] at hcolon
      refine ⟨hinline.1, fun hc => hstart (by rw [hc]; rfl), hcolon.1, ?_⟩
      refine ih hinline.2 (fun hhead => ?_) hcomment.tail hcolon.2
      cases rest with
      | nil => cases hhead
      | cons d rest =>
          have hd : d = '#' := by simpa using hhead
          have hc := (List.isChain_cons_cons.mp hcomment).1 hd
          simpa [hinline.1.isBlankOrEnd_eq] using hc

theorem isPlainText_of_plainAllowed {cs : List Char} (hne : cs ≠ [])
    (h : (analyse cs).plainAllowed = true) : IsPlainText cs := by
  obtain ⟨c, rest, rfl⟩ := List.exists_cons_of_ne_nil hne
  simp only [analyse, List.isEmpty_cons, Bool.false_eq_true, if_false, Bool.not_eq_true',
    Bool.or_eq_false_iff, hasIndicator, List.any_eq_false, Bool.and_eq_true,
    decide_eq_true_eq, not_and, Bool.not_eq_true] at h
  obtain ⟨⟨⟨⟨⟨hhead, hlast⟩, -⟩, -, hprintable⟩, hbreaks⟩, ⟨⟨hmarks, hindicator, hstart⟩, hcomment⟩,
    hcolon⟩ := h
  have hinline : ∀ d ∈ c :: rest, IsInline d := fun d hd =>
    ⟨by simpa using hprintable d hd, by simpa using hbreaks d hd⟩
  have hstart' : c = '-' ∨ c = '?' ∨ c = ':' → isBlankOrEnd rest.head? = false := by
    intro hc
    simpa [hc] using hstart
  refine ⟨goesOn_of_neighbours hinline (fun _ => rfl) ?_ ?_,
    ⟨c, rest, rfl, ?_, hindicator, hstart'⟩, ?_, ?_⟩
  · exact forall_neighbours_iff.mp hcomment
  · rw [List.tail_cons, zip_next_cons, List.forall_mem_cons]
    exact ⟨fun hc => hstart' (.inr (.inr hc)), hcolon⟩
  · rintro rfl
    simp at hhead
  · intro hspace
    simp [hspace] at hlast
  · rw [← List.isPrefixOf_iff_prefix, ← List.isPrefixOf_iff_prefix, hmarks.1, hmarks.2]
    simp

/-! ## The choice of a style -/

/-- Whether a style suits a text. -/
def suits (cs : List Char) : Style → Prop
  | .plain => (analyse cs).plainAllowed = true ∧ plain cs = .text
  | .singleQuoted => (analyse cs).singleAllowed = true ∧ '\n' ∉ cs
  | .doubleQuoted => True
  | .literal => (analyse cs).literalAllowed = true ∧ '\n' ∈ cs

theorem suits_styleOf (cs : List Char) : suits cs (styleOf cs) := by
  dsimp only [styleOf]
  split_ifs with hbreak hliteral hvalue hsingle hplain hsingle
  · exact ⟨hliteral, hbreak⟩
  · trivial
  · exact ⟨hsingle, hbreak⟩
  · trivial
  · have htext : plain cs = .text ∧ hasLeadingZero cs = false := by simpa using hvalue
    exact ⟨hplain, htext.1⟩
  · exact ⟨hsingle, hbreak⟩
  · trivial

theorem isPlainText_of_styleOf {cs : List Char} (h : styleOf cs = .plain) :
    IsPlainText cs ∧ plain cs = .text := by
  obtain ⟨hallowed, htext⟩ : suits cs .plain := h ▸ suits_styleOf cs
  have hne : cs ≠ [] := by
    rintro rfl
    cases htext
  exact ⟨isPlainText_of_plainAllowed hne hallowed, htext⟩

/-- What a single quoted scalar relies on: a break has no blank beside it, and is none of those
that are folded. -/
structure IsSingleText (cs : List Char) : Prop where
  printable : ∀ c ∈ cs, isPrintable c = true
  noNewline : '\n' ∉ cs
  breaks : cs.IsChain fun a b => ¬(isBreak a = true ∧ b = ' ') ∧ ¬(a = ' ' ∧ isBreak b = true)

theorem isSingleText_of_styleOf {cs : List Char} (h : styleOf cs = .singleQuoted) :
    IsSingleText cs := by
  obtain ⟨hallowed, hnewline⟩ : suits cs .singleQuoted := h ▸ suits_styleOf cs
  cases cs with
  | nil => exact ⟨by simp, by simp, .nil⟩
  | cons c rest =>
      simp only [analyse, List.isEmpty_cons, Bool.false_eq_true, if_false, Bool.not_eq_true',
        Bool.or_eq_false_iff, List.any_eq_false, Bool.and_eq_true, decide_eq_true_eq] at hallowed
      obtain ⟨hbreakSpace, hspaceBreak, hprintable⟩ := hallowed
      refine ⟨fun d hd => by simpa using hprintable d hd, hnewline, forall_neighbours_iff.mp ?_⟩
      exact fun ab hab => ⟨hbreakSpace ab hab, hspaceBreak ab hab⟩

/-- What a literal scalar relies on: no line of it ends in a blank. -/
structure IsLiteralText (cs : List Char) : Prop where
  printable : ∀ c ∈ cs, isPrintable c = true
  ne_nil : cs ≠ []
  ends : cs.getLast? ≠ some ' '
  breaks : cs.IsChain fun a b => ¬(a = ' ' ∧ isBreak b = true)

theorem isLiteralText_of_styleOf {cs : List Char} (h : styleOf cs = .literal) :
    IsLiteralText cs := by
  obtain ⟨hallowed, hnewline⟩ : suits cs .literal := h ▸ suits_styleOf cs
  cases cs with
  | nil => simp at hnewline
  | cons c rest =>
      simp only [analyse, List.isEmpty_cons, Bool.false_eq_true, if_false, Bool.not_eq_true',
        Bool.or_eq_false_iff, List.any_eq_false, Bool.and_eq_true, decide_eq_true_eq,
        beq_eq_false_iff_ne] at hallowed
      obtain ⟨hlast, hspaceBreak, hprintable⟩ := hallowed
      exact ⟨fun d hd => by simpa using hprintable d hd, by simp, hlast,
        forall_neighbours_iff.mp hspaceBreak⟩

end ServiceContract.Yaml
