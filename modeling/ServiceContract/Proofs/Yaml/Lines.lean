import ServiceContract.Proofs.Yaml.Steps

/-!
# Scalars and keys in their lines

Behind a scalar that is a value, reading goes on at the first character of the next line; behind one
that is a key, at its value.
-/

namespace ServiceContract.Yaml

namespace Lexer

variable {blocks : List Nat} {c c' : Cursor} {ts : List Token} {n k m i l : Nat} {allowed : Bool}
  {cs t : List Char} {f : Folding}

/-! ## Values -/

/-- Where a value may begin: to the right of the innermost collection. -/
def IsInside (blocks : List Nat) (k : Nat) : Prop := ∀ b ∈ blocks.head?, b < k

theorem IsInside.le (h : IsInside blocks k) : ∀ b ∈ blocks.head?, b ≤ k :=
  fun b hb => Nat.le_of_lt (h b hb)

/-- The line behind a value: it does not lie to the right of the innermost collection, and outside
all collections there is none. -/
structure Follows (blocks : List Nat) (m : Nat) (t : List Char) : Prop where
  standsOut : StandsOut t
  column : m ≤ blocks.head?.getD 0
  isEnd : blocks = [] → t = []

/-- The key that a scalar may turn out to be. -/
def savedKey (blocks : List Nat) (c : Cursor) (n : Nat) (allowed : Bool) : Option SimpleKey :=
  if allowed then some ⟨n, blocks.head? == some c.column, c.index, c.line, c.column⟩ else none

theorem scalar_within {isPlain : Bool} {read : Cursor → Option (Folding × Cursor)}
    (h : read c = some (f, c')) :
    (within blocks c ts n none allowed).scalar isPlain read =
      some (within blocks c' (.scalar isPlain f.text.reverse :: ts) (n + 1)
        (savedKey blocks c n allowed) (isPlain && f.broken)) := by
  cases allowed <;> simp [Lexer.scalar, saveKey, dropKey, within, inFlow, h, emit, savedKey]

/-- No value is taken for a key. -/
theorem isPast_savedKey (hinside : IsInside blocks c.column) (hline : c.line < l) :
    ReadsTo.IsPast l (savedKey blocks c n allowed) := by
  intro q hq
  cases allowed with
  | false => cases hq
  | true =>
      cases hq
      refine ⟨?_, hline⟩
      cases blocks with
      | nil => rfl
      | cons b blocks =>
          have hb : b ≠ c.column := Nat.ne_of_lt (hinside b rfl)
          simpa using hb

theorem prefix_of_prefix_append {x y : Char} (hxy : x ≠ y) (h : [x, x, x] <+: cs ++ y :: t) :
    [x, x, x] <+: cs := by
  match cs with
  | [] => simp [hxy] at h
  | [a] => simp [hxy] at h
  | [a, b] => simp [hxy] at h
  | a :: b :: d :: cs => simpa using h

theorem noMark_of_isPlainText {x : Char} (h : IsPlainText cs) (hdash : x ≠ '-') (hdot : x ≠ '.') :
    (⟨cs ++ x :: t, i, l, k⟩ : Cursor).atDocumentMark = false := by
  have hdashes : ¬"---".toList <+: cs ++ x :: t := fun hp =>
    h.noMark.1 (prefix_of_prefix_append hdash.symm hp)
  have hdots : ¬"...".toList <+: cs ++ x :: t := fun hp =>
    h.noMark.2 (prefix_of_prefix_append hdot.symm hp)
  rw [← List.isPrefixOf_iff_prefix, Bool.not_eq_true] at hdashes hdots
  rw [Cursor.atDocumentMark, hdashes, hdots]
  simp

theorem standsOut_of_isPlainText (h : IsPlainText cs) : StandsOut (cs ++ t) := by
  obtain ⟨c, rest, rfl, hspace, hindicator, -⟩ := h.starts
  refine standsOut_cons h.goesOn.1 hspace ?_
  rintro rfl
  cases hindicator

variable (ts n allowed) in
/-- The state behind a plain scalar, wherever it ends. -/
theorem next_isPlainText {x : Char} (h : IsPlainText cs) (hhead : ∀ b ∈ blocks.head?, b ≤ k)
    (hdash : x ≠ '-') (hdot : x ≠ '.')
    (hread : plainScalar false (blocks.head?.elim 0 (· + 1)) (cs ++ x :: t) i l k true .empty =
      some (f, c')) :
    (within blocks ⟨cs ++ x :: t, i, l, k⟩ ts n none allowed).next =
      some (within blocks c' (.scalar true f.text.reverse :: ts) (n + 1)
        (savedKey blocks ⟨cs ++ x :: t, i, l, k⟩ n allowed) f.broken, true) := by
  obtain ⟨c, rest, rfl, hspace, hindicator, hends⟩ := h.starts
  have hready : (within blocks ⟨c :: rest ++ x :: t, i, l, k⟩ ts n none allowed).IsReady :=
    isReady_within (standsOut_of_isPlainText h) rfl hhead
  have hends' : c = '-' ∨ c = '?' ∨ c = ':' → isBlankOrEnd (rest ++ x :: t).head? = false := by
    intro hc
    cases rest with
    | nil => exact absurd (hends hc) (by decide)
    | cons d rest => exact hends hc
  refine (next_plain hready rfl rfl (noMark_of_isPlainText h hdash hdot) h.goesOn.1 hspace
    hindicator hends').trans ?_
  rw [scalar_within hread]
  rfl

/-- A plain scalar that is a value. -/
theorem readsTo_plain (h : IsPlainText cs) (hinside : IsInside blocks k) (ht : Follows blocks m t) :
    (within blocks ⟨cs ++ '\n' :: (pad m ++ t), i, l, k⟩ ts n none allowed).ReadsTo m t blocks
      (.scalar true cs :: ts) := by
  have hindent : blocks.head?.elim 0 (· + 1) ≤ k + 1 := by
    cases blocks with
    | nil => exact Nat.zero_le _
    | cons b blocks => exact Nat.succ_le_succ (hinside.le b rfl)
  have hnext : m < blocks.head?.elim 0 (· + 1) ∨ t = [] := by
    cases blocks with
    | nil => exact .inr (ht.isEnd rfl)
    | cons b blocks => exact .inl (Nat.lt_succ_of_le ht.column)
  obtain ⟨f, i', hread, htext, hbroken⟩ := plainScalar_value (i := i) (l := l) h hindent hnext
    ht.standsOut
  have hstep := next_isPlainText ts n allowed h hinside.le (by decide)
    (by decide) hread
  refine .of_next hstep ?_ ?_
  · simp only [within, List.length_append, List.length_cons]
    omega
  · rw [htext, hbroken]
    exact .here ht.standsOut (isPast_savedKey hinside (Nat.lt_succ_self l))

theorem readsTo_singleQuoted {d : Nat} (h : IsSingleText cs) (hd : 0 < d)
    (hinside : IsInside blocks k) (ht : Follows blocks m t) :
    (within blocks ⟨singleQuoted d cs ++ '\n' :: (pad m ++ t), i, l, k⟩ ts n none
      allowed).ReadsTo m t blocks (.scalar false cs :: ts) := by
  obtain ⟨f, i', l', k', hread, htext, hline, -⟩ := singleQuotedScalar_singleQuoted (i := i)
    (l := l) (k := k) (t := '\n' :: (pad m ++ t)) h hd (by simp)
  have hready : (within blocks ⟨singleQuoted d cs ++ '\n' :: (pad m ++ t), i, l, k⟩ ts n none
      allowed).IsReady :=
    isReady_within (standsOut_cons ⟨rfl, rfl⟩ (by decide) (by decide)) rfl hinside.le
  have hstep := next_single hready rfl
  rw [scalar_within hread] at hstep
  refine .of_next hstep ?_ ?_
  · simp only [within, List.length_append, List.length_cons, singleQuoted]
    omega
  · rw [htext]
    exact .newline ht.standsOut (isPast_savedKey hinside (Nat.lt_succ_of_le hline))

theorem readsTo_doubleQuoted (hinside : IsInside blocks k) (ht : Follows blocks m t) :
    (within blocks ⟨doubleQuoted cs ++ '\n' :: (pad m ++ t), i, l, k⟩ ts n none allowed).ReadsTo m t
      blocks (.scalar false cs :: ts) := by
  obtain ⟨f, hread, htext⟩ := doubleQuotedScalar_doubleQuoted cs (i := i) (l := l) (k := k)
    (t := '\n' :: (pad m ++ t))
  have hready : (within blocks ⟨doubleQuoted cs ++ '\n' :: (pad m ++ t), i, l, k⟩ ts n none
      allowed).IsReady :=
    isReady_within (standsOut_cons ⟨rfl, rfl⟩ (by decide) (by decide)) rfl hinside.le
  have hstep := next_double hready rfl
  rw [scalar_within hread] at hstep
  refine .of_next hstep ?_ ?_
  · simp only [within, List.length_append, List.length_cons, doubleQuoted]
    omega
  · rw [htext]
    exact .newline ht.standsOut (isPast_savedKey hinside (Nat.lt_succ_self l))

theorem readsTo_literal {d : Nat} (h : IsLiteralText cs) (hd : d = blocks.head?.getD 0 + 2)
    (hinside : IsInside blocks k) (ht : Follows blocks m t) :
    (within blocks ⟨literal d cs ++ (pad m ++ t), i, l, k⟩ ts n none allowed).ReadsTo m t
      blocks (.scalar false cs :: ts) := by
  have hm : m < d := by
    have := ht.column
    omega
  obtain ⟨i', l', hread, -⟩ := blockScalar_literal (i := i + 1) (l := l) (k := k + 1) h hd hm
    ht.standsOut
  have hready : (within blocks ⟨literal d cs ++ (pad m ++ t), i, l, k⟩ ts n none allowed).IsReady :=
    isReady_within (standsOut_cons ⟨rfl, rfl⟩ (by decide) (by decide)) rfl hinside.le
  have hblock :
      (within blocks ⟨literal d cs ++ (pad m ++ t), i, l, k⟩ ts n none allowed).block true =
      some (within blocks ⟨t, i', l', m⟩ (.scalar false cs :: ts) (n + 1) none true) := by
    have hdrop : (within blocks ⟨literal d cs ++ (pad m ++ t), i, l, k⟩ ts n none allowed).dropKey =
        some (within blocks ⟨literal d cs ++ (pad m ++ t), i, l, k⟩ ts n none allowed) := rfl
    rw [block, hdrop]
    exact (congrArg (· >>= _) hread).trans rfl
  have hstep := next_bar hready rfl rfl
  rw [hblock] at hstep
  refine .of_next hstep ?_ ?_
  · simp only [within, List.length_append, List.length_cons, literal]
    omega
  · exact .here ht.standsOut ReadsTo.isPast_none

variable (cs ts n i l allowed) in
/-- A text that is a value. -/
theorem readsTo_stringLine {d : Nat} (hd : d = blocks.head?.getD 0 + 2)
    (hinside : IsInside blocks k) (ht : Follows blocks m t) :
    (within blocks ⟨stringLine d cs ++ (pad m ++ t), i, l, k⟩ ts n none allowed).ReadsTo m t
      blocks (.scalar (styleOf cs = .plain) cs :: ts) := by
  rw [stringLine]
  cases hstyle : styleOf cs with
  | plain =>
      simpa using readsTo_plain (isPlainText_of_styleOf hstyle).1 hinside ht
  | singleQuoted =>
      simpa using readsTo_singleQuoted (isSingleText_of_styleOf hstyle) (by omega) hinside ht
  | doubleQuoted =>
      simpa using readsTo_doubleQuoted hinside ht
  | literal =>
      simpa using readsTo_literal (isLiteralText_of_styleOf hstyle) hd hinside ht

/-- The state between two brackets, outside of which is a possible key. -/
def between (blocks : List Nat) (c : Cursor) (ts : List Token) (n : Nat) (key : Option SimpleKey) :
    Lexer :=
  ⟨c, ts, n, blocks.head?, around blocks, none, [key], true⟩

theorem openFlow_within {token : Token} :
    (within blocks c ts n none allowed).openFlow token =
      some (between blocks (c.skip 1) (token :: ts) (n + 1) (savedKey blocks c n allowed)) := by
  cases allowed <;> rfl

theorem closeFlow_between {token : Token} {key : Option SimpleKey} :
    (between blocks c ts n key).closeFlow token =
      some (within blocks (c.skip 1) (token :: ts) (n + 1) key false) := rfl

theorem isReady_between {key : Option SimpleKey} (ht : StandsOut c.rest)
    (hkey : dropStale c key = some key) : (between blocks c ts n key).IsReady := by
  have hpassed : (between blocks c ts n key).passed = (c, true) := passBlanks_standsOut ht
  have hnone : dropStale c none = some none := rfl
  have hdrop : (between blocks c ts n key).dropStaleKeys = some (between blocks c ts n key) := by
    simp [dropStaleKeys, between, hkey, hnone]
  rw [IsReady, arrive, hpassed]
  exact (congrArg (· >>= _) hdrop).trans rfl

/-- A list without items, or a map without members. -/
theorem readsTo_empty (isList : Bool) (hinside : IsInside blocks k) (ht : Follows blocks m t) :
    (within blocks ⟨(opening isList).1 :: (ending isList).1 :: '\n' :: (pad m ++ t), i, l, k⟩ ts n
      none allowed).ReadsTo m t blocks ((ending isList).2 :: (opening isList).2 :: ts) := by
  have hready : (within blocks ⟨(opening isList).1 :: (ending isList).1 :: '\n' :: (pad m ++ t), i,
      l, k⟩ ts n none allowed).IsReady := by
    refine isReady_within ?_ rfl hinside.le
    cases isList <;> exact standsOut_cons ⟨rfl, rfl⟩ (by decide) (by decide)
  refine .of_next ((next_opening hready rfl).trans (congrArg _ openFlow_within)) ?_ ?_
  · simp [within, between, Cursor.skip]
  have hinner : (between blocks ⟨(ending isList).1 :: '\n' :: (pad m ++ t), i + 1, l, k + 1⟩
      ((opening isList).2 :: ts) (n + 1) (savedKey blocks ⟨(opening isList).1 ::
        (ending isList).1 :: '\n' :: (pad m ++ t), i, l, k⟩ n allowed)).IsReady := by
    refine isReady_between ?_ ?_
    · cases isList <;> exact standsOut_cons ⟨rfl, rfl⟩ (by decide) (by decide)
    · cases allowed <;> simp [savedKey, dropStale, isStale]
  refine .of_next ((next_ending hinner rfl).trans (congrArg _ closeFlow_between)) ?_ ?_
  · simp [within, between, Cursor.skip]
  exact .newline ht.standsOut (isPast_savedKey hinside (Nat.lt_succ_self l))

/-! ## Keys -/

/-- What is put in front of a key when its colon is found. -/
theorem colon_within (s : Token) (c c' : Cursor) (ts : List Token) (n : Nat) (required : Bool)
    (hhead : ∀ b ∈ blocks.head?, b ≤ c.column) :
    ∃ n', (within blocks c' (s :: ts) (n + 1) (some ⟨n, required, c.index, c.line, c.column⟩)
        false).colon =
      some (within (opened c.column .blockMappingStart blocks ts).1 (c'.skip 1)
        (.value :: s :: .key :: (opened c.column .blockMappingStart blocks ts).2) n' none
          false) := by
  have hinsert (key : Option SimpleKey) : (within blocks c' (s :: ts) (n + 1) key false).insertAt n
      .key = within blocks c' (s :: .key :: ts) (n + 2) key false := by
    simp [insertAt, within]
  have hroll (key : Option SimpleKey) : ∃ n', (within blocks c' (s :: .key :: ts) (n + 2) key
      false).rollIndent c.column (some n) .blockMappingStart =
        within (opened c.column .blockMappingStart blocks ts).1 c'
          (s :: .key :: (opened c.column .blockMappingStart blocks ts).2) n' key false := by
    have hflow : (within blocks c' (s :: .key :: ts) (n + 2) key false).inFlow = false := rfl
    rw [rollIndent, hflow, isDeeper_within hhead, opened]
    by_cases hopen : blocks.head? = some c.column
    · exact ⟨n + 2, by simp [hopen]⟩
    · exact ⟨n + 3, by simp [hopen, within, insertAt, around_cons]⟩
  obtain ⟨n', hroll⟩ := hroll (some ⟨n, required, c.index, c.line, c.column⟩)
  refine ⟨n' + 1, ?_⟩
  rw [colon, show (within blocks c' (s :: ts) (n + 1)
    (some ⟨n, required, c.index, c.line, c.column⟩) false).key =
      some ⟨n, required, c.index, c.line, c.column⟩ from rfl]
  dsimp only
  rw [hinsert, hroll]
  rfl

theorem length_flatMap_le {f : Char → List Char} (h : ∀ c, (f c).length ≤ 4 * c.utf8Size) :
    (cs.flatMap f).length ≤ 4 * (String.ofList cs).utf8ByteSize := by
  induction cs with
  | nil => simp
  | cons c cs ih =>
      have hc := h c
      rw [List.flatMap_cons, List.length_append, String.ofList_cons, String.utf8ByteSize_append,
        String.utf8ByteSize_singleton]
      omega

theorem isInline_of_isSimpleKey {s : String} (h : isSimpleKey s = true) :
    (∀ c ∈ s.toList, isBreak c = false) ∧ s.utf8ByteSize ≤ 128 := by
  simpa [isSimpleKey] using h

/-- A key on one line is short enough to be found. -/
theorem length_simpleKey_le {s : String} {d : Nat} (h : isSimpleKey s = true) :
    (simpleKey d s.toList).length ≤ 1024 := by
  obtain ⟨hinline, hsize⟩ := isInline_of_isSimpleKey h
  have hbound {f : Char → List Char} (hf : ∀ c, (f c).length ≤ 4 * c.utf8Size) :
      (s.toList.flatMap f).length ≤ 512 := by
    have hlength : (s.toList.flatMap f).length ≤ 4 * (String.ofList s.toList).utf8ByteSize :=
      length_flatMap_le hf
    rw [String.ofList_toList] at hlength
    omega
  have hpos (c : Char) : 0 < c.utf8Size := c.utf8Size_pos
  have hplain := hbound (f := fun c => [c]) fun c => by
    have := hpos c
    simp only [List.length_singleton]
    omega
  have hsingle := hbound (f := singleQuotedChar) fun c => by
    have := hpos c
    unfold singleQuotedChar
    split <;> simp <;> omega
  have hdouble := hbound (f := doubleQuotedChar) fun c => by
    have := hpos c
    have hwritten := isEscaped_doubleQuotedChar c
    generalize doubleQuotedChar c = written at hwritten ⊢
    cases hwritten with
    | inline =>
        rw [List.length_singleton]
        omega
    | letter =>
        rw [List.length_cons, List.length_singleton]
        omega
    | code x width hx hwidth hcode hsize =>
        rw [List.length_cons, List.length_cons, length_hexText]
        omega
  unfold simpleKey
  split
  · simp at hplain
    omega
  · simp [singleQuoted, continued_of_inline hinline, endsInBreak_of_inline hinline] at hsingle ⊢
    omega
  · simp [doubleQuoted] at hdouble ⊢
    omega
  · simp [doubleQuoted] at hdouble ⊢
    omega

/-- A written key is read up to its colon. -/
structure IsKey (written : List Char) (isPlain : Bool) (cs : List Char) : Prop where
  ne_nil : written ≠ []
  standsOut : ∀ t, StandsOut (written ++ t)
  next : ∀ (blocks : List Nat) (t : List Char) (i l k : Nat) (ts : List Token) (n : Nat),
    (∀ b ∈ blocks.head?, b ≤ k) → isBlankOrEnd t.head? = true →
      (within blocks ⟨written ++ ':' :: t, i, l, k⟩ ts n none true).next =
        some (within blocks ⟨':' :: t, i + written.length, l, k + written.length⟩
          (.scalar isPlain cs :: ts) (n + 1) (some ⟨n, blocks.head? == some k, i, l, k⟩) false,
          true)

theorem isKey_plain (h : IsPlainText cs) : IsKey cs true cs := by
  obtain ⟨c, rest, hcs, -⟩ := h.starts
  refine ⟨by simp [hcs], fun t => standsOut_of_isPlainText h,
    fun blocks t i l k ts n hhead ht => ?_⟩
  have hindent : blocks.head?.elim 0 (· + 1) ≤ k + 1 := by
    cases blocks with
    | nil => exact Nat.zero_le _
    | cons b blocks => exact Nat.succ_le_succ (hhead b rfl)
  obtain ⟨f, hread, htext, hbroken⟩ := plainScalar_key (i := i) (l := l) h hindent ht
  have hstep := next_isPlainText ts n true h hhead (by decide)
    (by decide) hread
  rw [htext, hbroken] at hstep
  exact hstep

theorem isKey_singleQuoted {d : Nat} (h : IsSingleText cs) (hinline : ∀ c ∈ cs, isBreak c = false)
    (hd : 0 < d) : IsKey (singleQuoted d cs) false cs := by
  refine ⟨by simp [singleQuoted], fun t => standsOut_cons ⟨rfl, rfl⟩ (by decide) (by decide),
    fun blocks t i l k ts n hhead ht => ?_⟩
  obtain ⟨f, i', l', k', hread, htext, -, hplace⟩ := singleQuotedScalar_singleQuoted (i := i)
    (l := l) (k := k) (t := ':' :: t) h hd (by simp)
  obtain ⟨hl', hi', hk'⟩ := hplace hinline
  have hready : (within blocks ⟨singleQuoted d cs ++ ':' :: t, i, l, k⟩ ts n none true).IsReady :=
    isReady_within (standsOut_cons ⟨rfl, rfl⟩ (by decide) (by decide)) rfl hhead
  have hstep := next_single hready rfl
  rw [scalar_within hread, htext, hl', hi', hk'] at hstep
  exact hstep

theorem isKey_doubleQuoted : IsKey (doubleQuoted cs) false cs := by
  refine ⟨by simp [doubleQuoted], fun t => standsOut_cons ⟨rfl, rfl⟩ (by decide) (by decide),
    fun blocks t i l k ts n hhead ht => ?_⟩
  obtain ⟨f, hread, htext⟩ := doubleQuotedScalar_doubleQuoted cs (i := i) (l := l) (k := k)
    (t := ':' :: t)
  have hready : (within blocks ⟨doubleQuoted cs ++ ':' :: t, i, l, k⟩ ts n none true).IsReady :=
    isReady_within (standsOut_cons ⟨rfl, rfl⟩ (by decide) (by decide)) rfl hhead
  have hstep := next_double hready rfl
  rw [scalar_within hread, htext] at hstep
  exact hstep

theorem isKey_simpleKey {s : String} {d : Nat} (h : isSimpleKey s = true) (hd : 0 < d) :
    IsKey (simpleKey d s.toList) (styleOf s.toList = .plain) s.toList := by
  rw [simpleKey]
  cases hstyle : styleOf s.toList with
  | plain => simpa using isKey_plain (isPlainText_of_styleOf hstyle).1
  | singleQuoted =>
      simpa using
        isKey_singleQuoted (isSingleText_of_styleOf hstyle) (isInline_of_isSimpleKey h).1 hd
  | doubleQuoted => simpa using isKey_doubleQuoted
  | literal => simpa using isKey_doubleQuoted

variable (ts n i l) in
/-- A key and its colon. What stands behind is read with the key before it. -/
theorem reads_simpleKey {s : String} {d : Nat} (h : isSimpleKey s = true) (hd : 0 < d)
    (hhead : ∀ b ∈ blocks.head?, b ≤ k) (ht : isBlankOrEnd t.head? = true) :
    ∃ i' k' n', k < k' ∧ ∀ m, Reads (within (opened k .blockMappingStart blocks ts).1 ⟨t, i', l, k'⟩
        (.value :: .scalar (styleOf s.toList = .plain) s.toList :: .key ::
          (opened k .blockMappingStart blocks ts).2) n' none false) m →
      Reads (within blocks ⟨simpleKey d s.toList ++ ':' :: t, i, l, k⟩ ts n none true) m := by
  have hkey := isKey_simpleKey h hd
  have hlength := length_simpleKey_le (d := d) h
  have hwidth := List.length_pos_of_ne_nil hkey.ne_nil
  have hready : (within blocks ⟨':' :: t, i + (simpleKey d s.toList).length, l,
      k + (simpleKey d s.toList).length⟩ (.scalar (styleOf s.toList = .plain) s.toList :: ts)
      (n + 1) (some ⟨n, blocks.head? == some k, i, l, k⟩) false).IsReady := by
    refine isReady_within (standsOut_cons ⟨rfl, rfl⟩ (by decide) (by decide)) ?_ fun b hb => ?_
    · simp [dropStale, isStale, hlength]
    · have := hhead b hb
      exact Nat.le_trans this (Nat.le_add_right _ _)
  obtain ⟨n', hcolon⟩ := colon_within (.scalar (styleOf s.toList = .plain) s.toList) ⟨[], i, l, k⟩
    ⟨':' :: t, i + (simpleKey d s.toList).length, l, k + (simpleKey d s.toList).length⟩ ts n
    (blocks.head? == some k) hhead
  refine ⟨i + (simpleKey d s.toList).length + 1, k + (simpleKey d s.toList).length + 1, n',
    by omega, fun m hm => ?_⟩
  refine .next (hkey.next blocks t i l k ts n hhead ht) ?_ (.next
    ((next_colon hready ht rfl).trans (congrArg _ hcolon)) (Nat.lt_succ_self _) hm)
  simp only [within, List.length_append, List.length_cons]
  omega

end Lexer

end ServiceContract.Yaml
