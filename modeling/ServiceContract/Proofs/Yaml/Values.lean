import ServiceContract.Proofs.Value.Words
import ServiceContract.Proofs.Yaml.Lines

/-!
# The tokens of a written value

Every value that holds no numbers is read as its tokens, behind a mark or behind a key on one line,
whatever follows on the next line.
-/

namespace ServiceContract.Yaml

open Numeral

/-! ## Tokens -/

/-- The token of a text. -/
def textToken (s : String) : Token := .scalar (styleOf s.toList = .plain) s.toList

mutual

/-- The tokens of a value. A list behind a key on one line stands at the column of the key, where no
collection begins. -/
def valueTokens (behindKey : Bool) : Value → List Token
  | .null => [.scalar true "null".toList]
  | .bool true => [.scalar true "true".toList]
  | .bool false => [.scalar true "false".toList]
  | .int n => [.scalar true (intText n)]
  | .float x => [.scalar true x.yamlText]
  | .text s => [textToken s]
  | .list [] => [.flowSequenceStart, .flowSequenceEnd]
  | .list (v :: rest) =>
    if behindKey then itemTokens (v :: rest)
    else .blockSequenceStart :: (itemTokens (v :: rest) ++ [.blockEnd])
  | .map [] => [.flowMappingStart, .flowMappingEnd]
  | .map (e :: rest) => .blockMappingStart :: (entryTokens (e :: rest) ++ [.blockEnd])
termination_by structural v => v

/-- The tokens of the items of a list. -/
def itemTokens : List Value → List Token
  | [] => []
  | v :: rest => .blockEntry :: (valueTokens false v ++ itemTokens rest)
termination_by structural v => v

/-- The tokens of the members of a map. -/
def entryTokens : List (String × Value) → List Token
  | [] => []
  | (key, v) :: rest =>
    .key :: textToken key :: .value :: (valueTokens (isSimpleKey key) v ++ entryTokens rest)
termination_by structural v => v

end

/-! ## First characters -/

variable {cs t : List Char} {k d : Nat} {v : Value}

/-- A value behind a mark and its blank. -/
def inline (column : Nat) : Value → List Char
  | .list (v :: rest) => sequence (column + 2) (v :: rest)
  | .map (e :: rest) => mapping (column + 2) (e :: rest)
  | v => scalarLine (column + 2) v

theorem afterMark_eq : afterMark k v = ' ' :: inline k v := by
  rcases v with _ | _ | _ | _ | _ | (_ | ⟨v, rest⟩) | (_ | ⟨e, rest⟩) <;> rfl

theorem standsOut_stringLine : StandsOut (stringLine d cs ++ t) := by
  rw [stringLine]
  cases hstyle : styleOf cs with
  | plain =>
      have h := Lexer.standsOut_of_isPlainText (t := '\n' :: t) (isPlainText_of_styleOf hstyle).1
      simpa using h
  | singleQuoted => exact standsOut_cons ⟨rfl, rfl⟩ (by decide) (by decide)
  | doubleQuoted => exact standsOut_cons ⟨rfl, rfl⟩ (by decide) (by decide)
  | literal => exact standsOut_cons ⟨rfl, rfl⟩ (by decide) (by decide)

theorem standsOut_sequence {rest : List Value} : StandsOut (sequence k (v :: rest) ++ t) := by
  cases rest <;> exact standsOut_cons ⟨rfl, rfl⟩ (by decide) (by decide)

theorem standsOut_keyText {key : String} : StandsOut (keyText k key ++ t) := by
  rw [keyText]
  split
  · next h =>
      rw [List.append_assoc]
      exact (Lexer.isKey_simpleKey h (Nat.succ_pos _)).standsOut _
  · exact standsOut_cons ⟨rfl, rfl⟩ (by decide) (by decide)

theorem standsOut_mapping {e : String × Value} {rest : List (String × Value)} :
    StandsOut (mapping k (e :: rest) ++ t) := by
  obtain ⟨key, v⟩ := e
  cases rest with
  | nil =>
      rw [mapping, List.append_assoc]
      exact standsOut_keyText
  | cons e rest =>
      rw [mapping, List.append_assoc, List.append_assoc, List.append_assoc]
      exact standsOut_keyText

theorem standsOut_inline (hv : v.IsWordy d) : StandsOut (inline k v ++ t) := by
  cases hv with
  | null => exact standsOut_cons ⟨rfl, rfl⟩ (by decide) (by decide)
  | bool b => cases b <;> exact standsOut_cons ⟨rfl, rfl⟩ (by decide) (by decide)
  | text s => exact standsOut_stringLine
  | @list _ items h =>
      cases items with
      | nil => exact standsOut_cons ⟨rfl, rfl⟩ (by decide) (by decide)
      | cons v rest => exact standsOut_sequence
  | @map _ entries h =>
      cases entries with
      | nil => exact standsOut_cons ⟨rfl, rfl⟩ (by decide) (by decide)
      | cons e rest => exact standsOut_mapping

namespace Lexer

/-! ## Values of one line -/

section

variable {blocks : List Nat} {ts : List Token} {n m i l : Nat} {allowed : Bool}

/-- A value that is no collection, or an empty one. -/
def isScalar : Value → Bool
  | .list (_ :: _) => false
  | .map (_ :: _) => false
  | _ => true

variable (cs) in
theorem readsTo_word (hallowed : (analyse cs).plainAllowed = true) (hne : cs ≠ [])
    (hinside : IsInside blocks k) (ht : Follows blocks m t) :
    (within blocks ⟨(cs ++ ['\n']) ++ (pad m ++ t), i, l, k⟩ ts n none allowed).ReadsTo m t blocks
      (.scalar true cs :: ts) := by
  rw [List.append_assoc]
  exact readsTo_plain (isPlainText_of_plainAllowed hne hallowed) hinside ht

theorem readsTo_scalarLine {behindKey : Bool} (hv : v.IsWordy d) (hscalar : isScalar v = true)
    (hd : k = blocks.head?.getD 0 + 2) {column : Nat} (hinside : IsInside blocks column)
    (ht : Follows blocks m t) :
    (within blocks ⟨scalarLine k v ++ (pad m ++ t), i, l, column⟩ ts n none allowed).ReadsTo m t
      blocks ((valueTokens behindKey v).reverse ++ ts) := by
  cases hv with
  | null => exact readsTo_word "null".toList (by decide) (by decide) hinside ht
  | bool b =>
      cases b with
      | true => exact readsTo_word "true".toList (by decide) (by decide) hinside ht
      | false => exact readsTo_word "false".toList (by decide) (by decide) hinside ht
  | text s => exact readsTo_stringLine _ _ _ _ _ _ hd hinside ht
  | @list _ items h =>
      cases items with
      | nil => exact readsTo_empty true hinside ht
      | cons v rest => cases hscalar
  | @map _ entries h =>
      cases entries with
      | nil => exact readsTo_empty false hinside ht
      | cons e rest => cases hscalar

/-! ## Collections -/

variable {blocks' : List Nat} {ts' : List Token} {t' : List Char} {k' : Nat} {first : Lexer}

theorem ReadsTo.close (h : first.ReadsTo m t (k :: blocks) ts) (hk : m < k) :
    first.ReadsTo m t blocks (.blockEnd :: ts) := by
  obtain ⟨i, line, n, hr⟩ := h
  rw [closing, if_neg (Nat.not_le.mpr hk)] at hr
  exact ⟨i, line, n, hr⟩

/-- Reading goes on where no collection lies to the right. -/
theorem ReadsTo.andThen (h : first.ReadsTo k t blocks ts) (hhead : ∀ b ∈ blocks.head?, b ≤ k)
    (hrest : ∀ i line n,
      (within blocks ⟨t, i, line, k⟩ ts n none true).ReadsTo m t' blocks' ts') :
    first.ReadsTo m t' blocks' ts' := by
  obtain ⟨i, line, n, hr⟩ := h
  rw [closing_eq_self hhead] at hr
  exact .of_reads hr (hrest i line n)

/-- How a value is read in a collection that stands at a column, whatever the next line is. -/
structure IsRead (v : Value) : Prop where
  standsOut : ∀ k t, StandsOut (inline k v ++ t)
  inline : ∀ blocks k i l ts n m t, blocks.head? = some k → Follows blocks m t →
    (within blocks ⟨inline k v ++ (pad m ++ t), i, l, k + 2⟩ ts n none true).ReadsTo m t blocks
      ((valueTokens false v).reverse ++ ts)
  afterKey : ∀ blocks k k' i l ts n m t, blocks.head? = some k → k < k' → Follows blocks m t →
    (within blocks ⟨afterKey k v ++ (pad m ++ t), i, l, k'⟩ ts n none false).ReadsTo m t blocks
      ((valueTokens true v).reverse ++ ts)

theorem opened_eq_self {start : Token} (h : blocks.head? = some k) :
    opened k start blocks ts = (blocks, ts) := if_pos h

theorem head_le_of_eq (h : blocks.head? = some k) : ∀ b ∈ blocks.head?, b ≤ k := by
  intro b hb
  rw [h] at hb
  cases hb
  exact le_rfl

theorem follows_of_standsOut (h : blocks.head? = some k) (ht : StandsOut t) :
    Follows blocks k t := by
  refine ⟨ht, by simp [h], ?_⟩
  rintro rfl
  cases h

/-- A dash and its item. -/
theorem readsTo_item (hv : IsRead v) (hhead : ∀ b ∈ blocks.head?, b ≤ k)
    (ht : Follows (opened k .blockSequenceStart blocks ts).1 m t) :
    (within blocks ⟨'-' :: (afterMark k v ++ (pad m ++ t)), i, l, k⟩ ts n none true).ReadsTo m t
      (opened k .blockSequenceStart blocks ts).1
      ((valueTokens false v).reverse ++
        .blockEntry :: (opened k .blockSequenceStart blocks ts).2) := by
  rw [afterMark_eq]
  obtain ⟨n', hdash⟩ := reads_dash ts n i l hhead
    (hv.standsOut k (pad m ++ t))
  exact .of_reads hdash (hv.inline _ k _ _ _ _ m t head_opened ht)

variable (blocks ts n i l) in
/-- The items of a list. -/
theorem readsTo_sequence {v : Value} {rest : List Value} (hitems : ∀ w ∈ v :: rest, IsRead w)
    (hhead : ∀ b ∈ blocks.head?, b ≤ k)
    (ht : Follows (opened k .blockSequenceStart blocks ts).1 m t) :
    (within blocks ⟨sequence k (v :: rest) ++ (pad m ++ t), i, l, k⟩ ts n none true).ReadsTo m t
      (opened k .blockSequenceStart blocks ts).1
      ((itemTokens (v :: rest)).reverse ++ (opened k .blockSequenceStart blocks ts).2) := by
  induction rest generalizing v blocks ts n i l with
  | nil =>
      have hitem := readsTo_item (n := n) (i := i) (l := l) (hitems v (List.mem_singleton_self v))
        hhead ht
      simpa [sequence, itemTokens] using hitem
  | cons w rest ih =>
      rw [List.forall_mem_cons] at hitems
      have hout : StandsOut (sequence k (w :: rest) ++ (pad m ++ t)) := standsOut_sequence
      have hitem := (readsTo_item (n := n) (i := i) (l := l) hitems.1 hhead
        (follows_of_standsOut head_opened hout)).andThen (head_le_of_eq head_opened) fun i line n =>
          ih _ _ n i line hitems.2 (head_le_of_eq head_opened)
            (by rwa [opened_eq_self head_opened])
      rw [opened_eq_self head_opened] at hitem
      simpa [sequence, itemTokens] using hitem

/-- A key and its value. -/
theorem readsTo_entry (key : String) (hv : IsRead v) (hhead : ∀ b ∈ blocks.head?, b ≤ k)
    (ht : Follows (opened k .blockMappingStart blocks ts).1 m t) :
    (within blocks ⟨keyText k key ++ ((if isSimpleKey key then afterKey k v else afterMark k v) ++
        (pad m ++ t)), i, l, k⟩ ts n none true).ReadsTo m t
      (opened k .blockMappingStart blocks ts).1
      ((valueTokens (isSimpleKey key) v).reverse ++
        .value :: textToken key :: .key :: (opened k .blockMappingStart blocks ts).2) := by
  have hopened : (opened k .blockMappingStart blocks ts).1.head? = some k := head_opened
  by_cases hkey : isSimpleKey key
  · have hend : isBlankOrEnd (afterKey k v ++ (pad m ++ t)).head? = true := by
      rcases v with _ | _ | _ | _ | _ | (_ | ⟨v, rest⟩) | (_ | ⟨e, rest⟩) <;> rfl
    obtain ⟨i', k', n', hk', hreads⟩ := reads_simpleKey ts n i l hkey
      (Nat.succ_pos (k + 1)) hhead hend
    obtain ⟨i'', line, n'', hvalue⟩ := hv.afterKey _ k k' i' l _ n' m t hopened hk' ht
    rw [keyText, if_pos hkey, if_pos hkey, hkey, List.append_assoc]
    exact ⟨i'', line, n'', hreads _ hvalue⟩
  · have hcolon : StandsOut (':' :: ' ' :: (Yaml.inline k v ++ (pad m ++ t))) :=
      standsOut_cons ⟨rfl, rfl⟩ (by decide) (by decide)
    have hinside : IsInside (opened k .blockMappingStart blocks ts).1 (k + 2) := by
      intro b hb
      have := head_le_of_eq hopened b hb
      omega
    obtain ⟨n', hquestion⟩ := reads_question ts n i l hhead standsOut_stringLine
    have htext := readsTo_stringLine (.key :: (opened k .blockMappingStart blocks ts).2) n' (i + 2)
      l true key.toList (d := k + 2) (by simp [hopened]) hinside
      (follows_of_standsOut hopened hcolon)
    have hentry := (ReadsTo.of_reads hquestion htext).andThen (head_le_of_eq hopened)
      fun i line n => by
      obtain ⟨n', hreads⟩ := reads_colon _ n i line (head_le_of_eq hopened)
        (hv.standsOut k (pad m ++ t))
      rw [behindMark, opened_eq_self hopened] at hreads
      exact .of_reads hreads (hv.inline _ k _ _ _ n' m t hopened ht)
    rw [keyText, if_neg hkey, if_neg hkey, afterMark_eq]
    simpa [hkey, textToken] using hentry

variable (blocks ts n i l) in
/-- The members of a map. -/
theorem readsTo_mapping {e : String × Value} {rest : List (String × Value)}
    (hentries : ∀ e' ∈ e :: rest, IsRead e'.2) (hhead : ∀ b ∈ blocks.head?, b ≤ k)
    (ht : Follows (opened k .blockMappingStart blocks ts).1 m t) :
    (within blocks ⟨mapping k (e :: rest) ++ (pad m ++ t), i, l, k⟩ ts n none true).ReadsTo m t
      (opened k .blockMappingStart blocks ts).1
      ((entryTokens (e :: rest)).reverse ++ (opened k .blockMappingStart blocks ts).2) := by
  induction rest generalizing e blocks ts n i l with
  | nil =>
      have hentry := readsTo_entry (n := n) (i := i) (l := l) e.1
        (hentries e (List.mem_singleton_self e)) hhead ht
      simpa [mapping, entryTokens] using hentry
  | cons e' rest ih =>
      rw [List.forall_mem_cons] at hentries
      have hout : StandsOut (mapping k (e' :: rest) ++ (pad m ++ t)) := standsOut_mapping
      have hentry := (readsTo_entry (n := n) (i := i) (l := l) e.1 hentries.1 hhead
        (follows_of_standsOut head_opened hout)).andThen (head_le_of_eq head_opened) fun i line n =>
          ih _ _ n i line hentries.2 (head_le_of_eq head_opened)
            (by rwa [opened_eq_self head_opened])
      rw [opened_eq_self head_opened] at hentry
      simpa [mapping, entryTokens] using hentry

/-! ## Whole values -/

theorem inline_eq_scalarLine (h : isScalar v = true) : Yaml.inline k v = scalarLine (k + 2) v := by
  rcases v with _ | _ | _ | _ | _ | (_ | ⟨v, rest⟩) | (_ | ⟨e, rest⟩) <;> first | rfl | cases h

theorem afterKey_eq_scalarLine (h : isScalar v = true) :
    afterKey k v = ' ' :: scalarLine (k + 2) v := by
  rcases v with _ | _ | _ | _ | _ | (_ | ⟨v, rest⟩) | (_ | ⟨e, rest⟩) <;> first | rfl | cases h

theorem isInside_of_lt (hhead : blocks.head? = some k) (h : k < m) : IsInside blocks m :=
  fun b hb => Nat.lt_of_le_of_lt (head_le_of_eq hhead b hb) h

theorem isRead_of_isScalar (hv : v.IsWordy d) (hscalar : isScalar v = true) : IsRead v := by
  have hout (k : Nat) (t : List Char) : StandsOut (Yaml.inline k v ++ t) := standsOut_inline hv
  refine ⟨hout, fun blocks k i l ts n m t hhead ht => ?_,
    fun blocks k k' i l ts n m t hhead hk ht => ?_⟩
  · rw [inline_eq_scalarLine hscalar]
    exact readsTo_scalarLine hv hscalar (by simp [hhead]) (isInside_of_lt hhead (by omega)) ht
  · have hout' := hout k (pad m ++ t)
    rw [inline_eq_scalarLine hscalar] at hout'
    obtain ⟨n', hblank⟩ := reads_blank ts n i l false
      (isInside_of_lt hhead (Nat.lt_succ_of_lt hk)).le hout'
    rw [afterKey_eq_scalarLine hscalar]
    exact .of_reads hblank (readsTo_scalarLine hv hscalar (by simp [hhead])
      (isInside_of_lt hhead (Nat.lt_succ_of_lt hk)) ht)

/-- A collection that begins to the right of the one around it is closed behind it. -/
theorem ReadsTo.close_opened {start : Token} (hk : k < k')
    (ht : Follows blocks m t) (hhead : blocks.head? = some k)
    (h : first.ReadsTo m t (opened k' start blocks ts).1 (ts' ++ (opened k' start blocks ts).2)) :
    first.ReadsTo m t blocks ((start :: (ts'.reverse ++ [.blockEnd])).reverse ++ ts) := by
  have hne : blocks.head? ≠ some k' := by
    rw [hhead]
    simp [hk.ne]
  have hm : m < k' := by
    have := ht.column
    simp only [hhead, Option.getD_some] at this
    omega
  rw [opened, if_neg hne] at h
  simpa using h.close hm

theorem Follows.opened {start : Token} (ht : Follows blocks m t) (hhead : blocks.head? = some k)
    (hk : k < k') : Follows (opened k' start blocks ts).1 m t := by
  have := ht.column
  have hhead' : (Lexer.opened k' start blocks ts).1.head? = some k' := head_opened
  refine ⟨ht.standsOut, ?_, fun hnil => ?_⟩
  · simp only [hhead, hhead', Option.getD_some] at this ⊢
    omega
  · rw [hnil] at hhead'
    cases hhead'

theorem isRead_list {v : Value} {rest : List Value} (h : ∀ w ∈ v :: rest, IsRead w) :
    IsRead (.list (v :: rest)) := by
  refine ⟨fun k t => standsOut_sequence, fun blocks k i l ts n m t hhead ht => ?_,
    fun blocks k k' i l ts n m t hhead hk ht => ?_⟩
  · have hk : k < k + 2 := by omega
    have hsequence := readsTo_sequence blocks ts n i l h (isInside_of_lt hhead hk).le
      (ht.opened hhead hk)
    simpa [valueTokens, Yaml.inline] using hsequence.close_opened hk ht hhead
  · have hout : StandsOut (sequence k (v :: rest) ++ (pad m ++ t)) := standsOut_sequence
    have hline : (within blocks ⟨'\n' :: (pad k ++ (sequence k (v :: rest) ++ (pad m ++ t))), i, l,
        k'⟩ ts n none false).ReadsTo k (sequence k (v :: rest) ++ (pad m ++ t)) blocks ts :=
      .newline hout ReadsTo.isPast_none
    have hsequence := hline.andThen (head_le_of_eq hhead) fun i line n =>
      readsTo_sequence blocks ts n i line h (head_le_of_eq hhead) (by rwa [opened_eq_self hhead])
    rw [opened_eq_self hhead] at hsequence
    simpa [valueTokens, Yaml.afterKey] using hsequence

theorem isRead_map {e : String × Value} {rest : List (String × Value)}
    (h : ∀ e' ∈ e :: rest, IsRead e'.2) : IsRead (.map (e :: rest)) := by
  have hread (blocks : List Nat) (k i l : Nat) (ts : List Token) (n m : Nat) (t : List Char)
      (hhead : blocks.head? = some k) (ht : Follows blocks m t) :
      (within blocks ⟨mapping (k + 2) (e :: rest) ++ (pad m ++ t), i, l, k + 2⟩ ts n none
        true).ReadsTo m t blocks ((valueTokens false (.map (e :: rest))).reverse ++ ts) := by
    have hk : k < k + 2 := by omega
    have hmapping := readsTo_mapping blocks ts n i l h (isInside_of_lt hhead hk).le
      (ht.opened hhead hk)
    simpa [valueTokens] using hmapping.close_opened hk ht hhead
  refine ⟨fun k t => standsOut_mapping, hread, fun blocks k k' i l ts n m t hhead hk ht => ?_⟩
  have hout : StandsOut (mapping (k + 2) (e :: rest) ++ (pad m ++ t)) := standsOut_mapping
  have hline : (within blocks
      ⟨'\n' :: (pad (k + 2) ++ (mapping (k + 2) (e :: rest) ++ (pad m ++ t))), i, l, k'⟩ ts n none
      false).ReadsTo (k + 2) (mapping (k + 2) (e :: rest) ++ (pad m ++ t)) blocks ts :=
    .newline hout ReadsTo.isPast_none
  have hmapping := hline.andThen (isInside_of_lt hhead (by omega)).le fun i line n =>
    hread blocks k i line ts n m t hhead ht
  simpa [Yaml.afterKey, valueTokens] using hmapping

theorem isRead_of_isWordy (hv : v.IsWordy d) : IsRead v := by
  induction hv with
  | @null d => exact isRead_of_isScalar (.null (d := d)) rfl
  | @bool d b => exact isRead_of_isScalar (.bool (d := d) b) rfl
  | @text d s => exact isRead_of_isScalar (.text (d := d) s) rfl
  | @list d items h ih =>
      cases items with
      | nil => exact isRead_of_isScalar (.list h) rfl
      | cons v rest => exact isRead_list ih
  | @map d entries h ih =>
      cases entries with
      | nil => exact isRead_of_isScalar (.map h) rfl
      | cons e rest => exact isRead_map ih

/-! ## Whole texts -/

theorem closeBlocks_none : ∃ n', closeBlocks none blocks.head? (around blocks) ts n =
    (none, [], List.replicate blocks.length .blockEnd ++ ts, n') := by
  induction blocks generalizing ts n with
  | nil => exact ⟨n, rfl⟩
  | cons b blocks ih =>
      obtain ⟨n', hn'⟩ := @ih (.blockEnd :: ts) (n + 1)
      refine ⟨n', ?_⟩
      rw [List.length_cons, List.replicate_succ', List.append_assoc, List.singleton_append, ← hn']
      cases blocks <;> simp [closeBlocks, around]

/-- What is still open is closed at the end of the text. -/
theorem ReadsTo.run_eq (h : first.ReadsTo k [] blocks ts) (hhead : ∀ b ∈ blocks.head?, b ≤ k)
    (hn : first.cursor.rest.length < n) :
    first.run n =
      some (ts.reverse ++ (List.replicate blocks.length .blockEnd ++ [.streamEnd])) := by
  obtain ⟨i, line, count, hreads⟩ := h
  rw [closing_eq_self hhead] at hreads
  obtain ⟨n', hn', hrun⟩ := hreads.run_eq hn
  obtain ⟨fuel, rfl⟩ : ∃ fuel, n' = fuel + 1 := ⟨n' - 1, by omega⟩
  have hready : (within blocks ⟨[], i, line, k⟩ ts count none true).IsReady :=
    isReady_within standsOut_nil rfl hhead
  obtain ⟨last, hclose⟩ := @closeBlocks_none blocks ts count
  have hend : (within blocks ⟨[], i, line, k⟩ ts count none true).next = some
      (⟨⟨[], i, line, k⟩, .streamEnd :: (List.replicate blocks.length .blockEnd ++ ts), last + 1,
        none, [], none, [], true⟩, false) := by
    rw [next_end hready rfl]
    simp [unrollIndent, within, inFlow, hclose, dropKey, emit]
  rw [hrun, run, hend]
  simp

theorem follows_end : Follows blocks 0 [] := ⟨standsOut_nil, Nat.zero_le _, fun _ => rfl⟩

theorem isInside_nil : IsInside [] k := by simp [IsInside]

/-- The text of a value is read as the tokens of the value. -/
theorem run_documentText (hv : v.IsWordy d) :
    (start (documentText v)).run ((documentText v).length + 1) =
      some (valueTokens false v ++ [.streamEnd]) := by
  have hnil : pad 0 ++ ([] : List Char) = [] := rfl
  have hstart : start (documentText v) =
      within [] ⟨documentText v ++ (pad 0 ++ []), 0, 0, 0⟩ [] 0 none true := by
    rw [hnil, List.append_nil]
    rfl
  have hlength : (start (documentText v)).cursor.rest.length < (documentText v).length + 1 :=
    Nat.lt_succ_self _
  have hline (hscalar : isScalar v = true) (htext : documentText v = scalarLine 2 v) :
      (start (documentText v)).ReadsTo 0 [] [] ((valueTokens false v).reverse ++ []) := by
    rw [hstart, htext]
    exact readsTo_scalarLine hv hscalar rfl isInside_nil follows_end
  cases hv with
  | null => simpa using (hline rfl rfl).run_eq isInside_nil.le hlength
  | bool b => simpa using (hline rfl rfl).run_eq isInside_nil.le hlength
  | text s => simpa using (hline rfl rfl).run_eq isInside_nil.le hlength
  | @list d items h =>
      cases items with
      | nil => simpa using (hline rfl rfl).run_eq isInside_nil.le hlength
      | cons v rest =>
          have hsequence : (start (documentText (.list (v :: rest)))).ReadsTo 0 [] [0]
              ((itemTokens (v :: rest)).reverse ++ [.blockSequenceStart]) := by
            rw [hstart]
            exact readsTo_sequence [] [] 0 0 0 (fun w hw => isRead_of_isWordy (h w hw))
              isInside_nil.le follows_end
          simpa [valueTokens] using hsequence.run_eq (head_le_of_eq rfl) hlength
  | @map d entries h =>
      cases entries with
      | nil => simpa using (hline rfl rfl).run_eq isInside_nil.le hlength
      | cons e rest =>
          have hmapping : (start (documentText (.map (e :: rest)))).ReadsTo 0 [] [0]
              ((entryTokens (e :: rest)).reverse ++ [.blockMappingStart]) := by
            rw [hstart]
            exact readsTo_mapping [] [] 0 0 0 (fun e' he' => isRead_of_isWordy (h e' he'))
              isInside_nil.le follows_end
          simpa [valueTokens] using hmapping.run_eq (head_le_of_eq rfl) hlength

end

end Lexer

end ServiceContract.Yaml
