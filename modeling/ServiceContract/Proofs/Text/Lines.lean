import Mathlib.Data.List.Basic

/-!
# Lines of a text

A text that is put together from parts, with a line of its own before each of them, is taken apart
at the lines of that content, if no part has one and every part ends its last line.
-/

namespace ServiceContract.Text

/-- The lines of a text, each with the character that ends it. The last line may have none. -/
def linesBy (ends : Char → Bool) : List Char → List (List Char)
  | [] => []
  | c :: rest =>
    if ends c then [c] :: linesBy ends rest
    else match linesBy ends rest with
      | [] => [[c]]
      | line :: lines => (c :: line) :: lines

/-- How a text comes apart into its lines, character by character. -/
inductive Lines (ends : Char → Bool) : List Char → List (List Char) → Prop where
  | nil : Lines ends [] []
  | ended {c rest lines} (h : ends c = true) : Lines ends rest lines →
      Lines ends (c :: rest) ([c] :: lines)
  | last {c} (h : ends c = false) : Lines ends [c] [[c]]
  | longer {c rest line lines} (h : ends c = false) : Lines ends rest (line :: lines) →
      Lines ends (c :: rest) ((c :: line) :: lines)

/-- What stands in a line. -/
def content (ends : Char → Bool) (line : List Char) : List Char := line.takeWhile fun c => !ends c

/-- What stands between the lines of some content. -/
def between (ends : Char → Bool) (mark text : List Char) : List (List Char) :=
  ((linesBy ends text).splitOnP fun line => content ends line = mark).map List.flatten

/-- A text is taken apart at the lines of some content. -/
structure TakesApart (ends : Char → Bool) (mark text : List Char) (parts : List (List Char)) :
    Prop where
  count : ((linesBy ends text).countP fun line => content ends line = mark) = parts.length
  /-- The first line is one of them, if there are parts. -/
  first : parts ≠ [] → (linesBy ends text).head?.map (content ends) = some mark
  /-- Nothing stands before it, and the parts behind it. -/
  between : between ends mark text = [] :: parts

variable {ends finer : Char → Bool} {mark text line front back : List Char}
  {lines lines' more parts : List (List Char)} {e : Char}

/-! ## Lines -/

theorem Lines.linesBy_eq (h : Lines ends text lines) : linesBy ends text = lines := by
  induction h with
  | nil => rfl
  | ended h _ ih => simp [linesBy, h, ih]
  | last h => simp [linesBy, h]
  | longer h _ ih => simp [linesBy, h, ih]

theorem lines_linesBy (ends : Char → Bool) (text : List Char) :
    Lines ends text (linesBy ends text) := by
  induction text with
  | nil => exact .nil
  | cons c rest ih =>
      cases h : ends c with
      | true =>
          rw [linesBy, if_pos h]
          exact .ended h ih
      | false =>
          rw [linesBy, if_neg (by simp [h])]
          cases hrest : linesBy ends rest with
          | nil =>
              rw [hrest] at ih
              cases ih
              exact .last h
          | cons line lines =>
              rw [hrest] at ih
              exact .longer h ih

theorem flatten_linesBy (ends : Char → Bool) (text : List Char) :
    (linesBy ends text).flatten = text := by
  have hlines := lines_linesBy ends text
  generalize linesBy ends text = lines at hlines
  induction hlines with
  | nil => rfl
  | ended _ _ ih => simp [ih]
  | last _ => rfl
  | longer _ _ ih => simpa using ih

/-- Behind a text that ends its last line, lines begin anew. -/
theorem Lines.append (h : Lines ends front lines) (hlast : ∀ c ∈ front.getLast?, ends c = true)
    (hback : Lines ends back more) : Lines ends (front ++ back) (lines ++ more) := by
  induction h with
  | nil => exact hback
  | @ended c rest _ hc _ ih =>
      apply Lines.ended hc
      apply ih
      intro x hx
      apply hlast x
      cases rest with
      | nil => cases hx
      | cons d rest => simpa using hx
  | @last c hc =>
      have hends := hlast c rfl
      rw [hc] at hends
      cases hends
  | @longer c rest _ _ hc h ih =>
      apply Lines.longer hc
      apply ih
      intro x hx
      apply hlast x
      cases rest with
      | nil => cases h
      | cons d rest => simpa using hx

theorem linesBy_append (h : ∀ c ∈ front.getLast?, ends c = true) (back : List Char) :
    linesBy ends (front ++ back) = linesBy ends front ++ linesBy ends back :=
  ((lines_linesBy ends front).append h (lines_linesBy ends back)).linesBy_eq

/-- A text without ends is a line together with the end behind it. -/
theorem lines_cons_line (hmark : ∀ c ∈ mark, ends c = false) (he : ends e = true)
    (h : Lines ends back lines) : Lines ends (mark ++ e :: back) ((mark ++ [e]) :: lines) := by
  induction mark with
  | nil => exact .ended he h
  | cons c rest ih =>
      rw [List.forall_mem_cons] at hmark
      exact .longer hmark.1 (ih hmark.2)

theorem content_line (hmark : ∀ c ∈ mark, ends c = false) (he : ends e = true) :
    content ends (mark ++ [e]) = mark := by
  induction mark with
  | nil => simp [content, he]
  | cons c rest ih =>
      rw [List.forall_mem_cons] at hmark
      have hrest := ih hmark.2
      rw [content] at hrest ⊢
      rw [List.cons_append, List.takeWhile_cons_of_pos (by simp [hmark.1]), hrest]

/-! ## Lines that end at more characters -/

section

variable (hfiner : ∀ c, ends c = true → finer c = true)

include hfiner

/-- A line without a finer end is one of the finer lines; the first one is the first of them. -/
theorem Lines.mem_of_finer (h : Lines ends text lines) (h' : Lines finer text lines') :
    (∀ line ∈ lines.head?, (∀ c ∈ content ends line, finer c = false) →
      lines'.head? = some line) ∧
    ∀ line ∈ lines.tail, (∀ c ∈ content ends line, finer c = false) → line ∈ lines'.tail := by
  induction h generalizing lines' with
  | nil => simp
  | @ended c rest lines hc _ ih =>
      cases h' with
      | ended _ h' =>
          refine ⟨by simp, ?_⟩
          intro line hline hclean
          cases lines with
          | nil => cases hline
          | cons first lines =>
              rcases List.mem_cons.mp hline with rfl | hline
              · exact List.mem_of_mem_head? ((ih h').1 line rfl hclean)
              · exact List.mem_of_mem_tail ((ih h').2 line hline hclean)
      | last hno => simp [hfiner c hc] at hno
      | longer hno _ => simp [hfiner c hc] at hno
  | last hc =>
      cases h' with
      | ended _ h' => cases h'; simp
      | last _ => simp
      | longer _ h' => cases h'
  | @longer c rest line lines hc h ih =>
      cases h' with
      | ended hends h' =>
          constructor
          · intro first hfirst hclean
            obtain rfl : c :: line = first := by simpa using hfirst
            have hno := hclean c (by simp [content, hc])
            simp [hends] at hno
          · intro x hx hclean
            exact List.mem_of_mem_tail ((ih h').2 x hx hclean)
      | last _ => cases h
      | longer hno h' =>
          constructor
          · intro first hfirst hclean
            obtain rfl : c :: line = first := by simpa using hfirst
            have hline := (ih h').1 line rfl fun x hx => hclean x (by
              rw [content, List.takeWhile_cons_of_pos (by simp [hc])]
              exact List.mem_cons_of_mem c hx)
            simpa using hline
          · exact (ih h').2

theorem content_finer (hclean : ∀ c ∈ content ends line, finer c = false) :
    content finer line = content ends line := by
  induction line with
  | nil => rfl
  | cons c rest ih =>
      cases hc : ends c with
      | true => simp [content, hc, hfiner c hc]
      | false =>
          rw [content, List.takeWhile_cons_of_pos (by simp [hc]), List.forall_mem_cons] at hclean
          have hrest := ih hclean.2
          rw [content, content] at hrest ⊢
          rw [List.takeWhile_cons_of_pos (by simp [hclean.1]),
            List.takeWhile_cons_of_pos (by simp [hc]), hrest]

/-- What is the content of no finer line is that of no line. -/
theorem content_ne_of_finer (hmark : ∀ c ∈ mark, finer c = false)
    (h : ∀ line ∈ linesBy finer text, content finer line ≠ mark) :
    ∀ line ∈ linesBy ends text, content ends line ≠ mark := by
  intro line hline heq
  rw [← heq] at hmark
  have hlines := Lines.mem_of_finer hfiner (lines_linesBy ends text) (lines_linesBy finer text)
  have hmem : line ∈ linesBy finer text := by
    cases hall : linesBy ends text with
    | nil =>
        rw [hall] at hline
        cases hline
    | cons first rest =>
        rw [hall] at hline hlines
        rcases List.mem_cons.mp hline with rfl | hline
        · exact List.mem_of_mem_head? (hlines.1 line rfl hmark)
        · exact List.mem_of_mem_tail (hlines.2 line hline hmark)
  exact h line hmem ((content_finer hfiner hmark).trans heq)

end

/-! ## Taking a text apart -/

theorem splitOnP_flatMap {α β : Type} {p : α → Bool} {m : α} (hm : p m = true) {f : β → List α}
    {bs : List β} (h : ∀ b ∈ bs, ∀ a ∈ f b, p a = false) {as : List α}
    (has : ∀ a ∈ as, p a = false) :
    (as ++ bs.flatMap fun b => m :: f b).splitOnP p = as :: bs.map f := by
  induction bs generalizing as with
  | nil => simpa using List.splitOnP_eq_singleton has
  | cons b rest ih =>
      rw [List.forall_mem_cons] at h
      rw [List.flatMap_cons, List.cons_append, List.splitOnP_append_cons_of_forall_mem has m hm,
        ih h.2 h.1, List.map_cons]

section

variable (he : ends e = true) (hmark : ∀ c ∈ mark, ends c = false)
  (hlast : ∀ part ∈ parts, ∀ c ∈ part.getLast?, ends c = true)

include he hmark hlast

theorem linesBy_flatMap : linesBy ends (parts.flatMap fun part => mark ++ e :: part) =
    parts.flatMap fun part => (mark ++ [e]) :: linesBy ends part := by
  induction parts with
  | nil => rfl
  | cons part rest ih =>
      rw [List.forall_mem_cons] at hlast
      rw [List.flatMap_cons, List.flatMap_cons, ← ih hlast.2, List.append_assoc, List.cons_append,
        List.cons_append, ← linesBy_append hlast.1]
      exact (lines_cons_line hmark he (lines_linesBy ends _)).linesBy_eq

/-- Parts behind lines of their own are found again. -/
theorem takesApart_flatMap
    (hfree : ∀ part ∈ parts, ∀ line ∈ linesBy ends part, content ends line ≠ mark) :
    TakesApart ends mark (parts.flatMap fun part => mark ++ e :: part) parts := by
  have hlines := linesBy_flatMap he hmark hlast
  have hcontent := content_line hmark he
  have hnone : ∀ part ∈ parts, ∀ line ∈ linesBy ends part,
      decide (content ends line = mark) = false := by
    intro part hpart line hline
    simpa using hfree part hpart line hline
  refine ⟨?_, ?_, ?_⟩
  · have hone : ∀ part ∈ parts, ((mark ++ [e]) :: linesBy ends part).countP
        (fun line => decide (content ends line = mark)) = 1 := by
      intro part hpart
      rw [List.countP_cons_of_pos (by simpa using hcontent),
        List.countP_eq_zero.mpr fun line hline => by simpa using hfree part hpart line hline]
    rw [hlines, List.countP_flatMap, Function.comp_def, List.map_congr_left hone]
    simp
  · intro hne
    rw [hlines]
    cases parts with
    | nil => exact absurd rfl hne
    | cons part rest => simp [hcontent]
  · have hsplit : (linesBy ends (parts.flatMap fun part => mark ++ e :: part)).splitOnP
        (fun line => decide (content ends line = mark)) = [] :: parts.map (linesBy ends) := by
      rw [hlines]
      exact splitOnP_flatMap (by simpa using hcontent) hnone (List.forall_mem_nil _)
    simp [between, hsplit, Function.comp_def, flatten_linesBy]

end

end ServiceContract.Text
