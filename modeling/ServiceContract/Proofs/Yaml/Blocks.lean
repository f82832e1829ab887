import ServiceContract.Proofs.Yaml.LiteralScalar
import ServiceContract.Proofs.Yaml.QuotedScalar
import ServiceContract.Yaml.Token.Lexer

/-!
# Reading within block collections

The state of reading between two tokens, outside all flow collections, and what happens before the
next token: blanks are passed, keys that have become too long are given up, and collections that lie
to the right are closed.
-/

namespace ServiceContract.Yaml

namespace Lexer

/-- The columns around the innermost of some block collections. -/
def around : List Nat → List (Option Nat)
  | [] => []
  | _ :: blocks => blocks.map some ++ [none]

/-- The state of reading inside block collections, whose columns are given from the inside
outwards. -/
def within (blocks : List Nat) (c : Cursor) (ts : List Token) (n : Nat) (key : Option SimpleKey)
    (allowed : Bool) : Lexer :=
  ⟨c, ts, n, blocks.head?, around blocks, key, [], allowed⟩

/-- The collections that are left, and the tokens, when those to the right of a column are
closed. -/
def closing (k : Nat) : List Nat → List Token → List Nat × List Token
  | [], ts => ([], ts)
  | b :: blocks, ts => if b ≤ k then (b :: blocks, ts) else closing k blocks (.blockEnd :: ts)

variable {blocks : List Nat} {c c' : Cursor} {ts : List Token} {n k : Nat}
  {key key' : Option SimpleKey} {allowed allowed' : Bool} {t : List Char} {i l : Nat}

/-- Closing again closes nothing. -/
theorem closing_eq_self (h : ∀ b ∈ blocks.head?, b ≤ k) : closing k blocks ts = (blocks, ts) := by
  cases blocks with
  | nil => rfl
  | cons b blocks => exact if_pos (h b rfl)

theorem head_closing_le : ∀ b ∈ (closing k blocks ts).1.head?, b ≤ k := by
  induction blocks generalizing ts with
  | nil => simp [closing]
  | cons b blocks ih =>
      rw [closing]
      split
      · next h => simpa using h
      · exact ih

variable (k blocks ts n) in
theorem closeBlocks_eq : ∃ m, closeBlocks (some k) blocks.head? (around blocks) ts n =
    ((closing k blocks ts).1.head?, around (closing k blocks ts).1, (closing k blocks ts).2,
      m) := by
  induction blocks generalizing ts n with
  | nil => exact ⟨n, rfl⟩
  | cons b blocks ih =>
      by_cases hb : b ≤ k
      · refine ⟨n, ?_⟩
        rw [closing, if_pos hb]
        cases blocks <;> simp [closeBlocks, around, hb]
      · obtain ⟨m, hm⟩ := ih (.blockEnd :: ts) (n + 1)
        refine ⟨m, ?_⟩
        rw [closing, if_neg hb, ← hm]
        cases blocks <;> simp [closeBlocks, around, hb]

variable (k blocks c ts n key allowed) in
theorem unrollIndent_within : ∃ m, (within blocks c ts n key allowed).unrollIndent (some k) =
    within (closing k blocks ts).1 c (closing k blocks ts).2 m key allowed := by
  obtain ⟨m, hm⟩ := closeBlocks_eq blocks ts n k
  refine ⟨m, ?_⟩
  simp [unrollIndent, within, inFlow, hm]

theorem unrollIndent_eq_self (h : ∀ b ∈ blocks.head?, b ≤ k) :
    (within blocks c ts n key allowed).unrollIndent (some k) =
      within blocks c ts n key allowed := by
  cases blocks with
  | nil => rfl
  | cons b blocks =>
      have hb : b ≤ k := h b rfl
      cases blocks <;> simp [unrollIndent, within, inFlow, around, closeBlocks, hb]

/-! ## Blanks -/

theorem passBlanks_standsOut {inFlow : Bool} (ht : StandsOut t) :
    passBlanks inFlow t i l k false allowed = (⟨t, i, l, k⟩, allowed) := by
  cases t with
  | nil => rfl
  | cons c t =>
      obtain ⟨hblank, hbreak, hcomment⟩ := ht c rfl
      have hspace : c ≠ ' ' ∧ c ≠ '\t' := by simpa [isBlankChar] using hblank
      have hreturn : c ≠ '\r' := by
        rintro rfl
        cases hbreak
      rw [passBlanks]
      · simp [hbreak, hcomment, hspace]
      · exact fun _ h => absurd h hreturn

theorem passBlanks_pad (ht : StandsOut t) {m : Nat} :
    passBlanks false (pad m ++ t) i l k false allowed = (⟨t, i + m, l, k + m⟩, allowed) := by
  induction m generalizing i k with
  | zero => exact passBlanks_standsOut ht
  | succ m ih =>
      rw [pad, List.replicate_succ, List.cons_append, passBlanks.eq_def]
      refine Eq.trans ih ?_
      simp [Nat.add_comm, Nat.add_left_comm]

theorem passBlanks_newline (ht : StandsOut t) {m : Nat} :
    passBlanks false ('\n' :: (pad m ++ t)) i l k false allowed =
      (⟨t, i + 1 + m, l + 1, m⟩, true) := by
  rw [passBlanks.eq_def]
  refine Eq.trans (passBlanks_pad ht) ?_
  simp

/-! ## Arriving at a token -/

/-- The place of the next token, and whether a key may begin there. -/
def passed (l : Lexer) : Cursor × Bool :=
  passBlanks l.inFlow l.cursor.rest l.cursor.index l.cursor.line l.cursor.column false l.keyAllowed

/-- What happens before a token. -/
def arrive (l : Lexer) : Option Lexer := do
  let m ← dropStaleKeys { l with cursor := l.passed.1, keyAllowed := l.passed.2 }
  return m.unrollIndent (some l.passed.1.column)

/-- Nothing is left to be done before the next token. -/
def IsReady (l : Lexer) : Prop := l.arrive = some l

theorem cursor_dropStaleKeys {l m : Lexer} (h : l.dropStaleKeys = some m) :
    m.cursor = l.cursor := by
  simp only [dropStaleKeys, Option.bind_eq_bind, Option.bind_eq_some_iff] at h
  obtain ⟨key, -, keys, -, h⟩ := h
  cases h
  rfl

theorem cursor_unrollIndent {l : Lexer} {column : Option Nat} :
    (l.unrollIndent column).cursor = l.cursor := by
  unfold unrollIndent
  split <;> rfl

theorem cursor_of_arrive {l m : Lexer} (h : l.arrive = some m) : l.passed.1 = m.cursor := by
  obtain ⟨l', hdrop, hunroll⟩ := Option.bind_eq_some_iff.mp h
  cases hunroll
  rw [cursor_unrollIndent, cursor_dropStaleKeys hdrop]

/-- What is read next does not depend on what happens before. -/
theorem next_eq_of_arrive {l m : Lexer} (hl : l.arrive = some m) (hm : m.IsReady) :
    l.next = m.next := by
  have hcursor := cursor_of_arrive hl
  have hcursor' := cursor_of_arrive hm
  obtain ⟨l', hdrop, hunroll⟩ := Option.bind_eq_some_iff.mp hl
  obtain ⟨m', hdrop', hunroll'⟩ := Option.bind_eq_some_iff.mp hm
  have hl' := Option.some_inj.mp hunroll
  have hm' := Option.some_inj.mp hunroll'
  rw [hcursor] at hdrop hl'
  rw [hcursor'] at hdrop' hm'
  unfold passed at *
  simp only [next, hcursor, hcursor', hdrop, hdrop', Option.bind_eq_bind, Option.bind_some, hl',
    hm']

theorem dropStaleKeys_within (hkey : dropStale c key = some key') :
    (within blocks c ts n key allowed).dropStaleKeys =
      some (within blocks c ts n key' allowed) := by
  simp [dropStaleKeys, within, hkey]

variable (blocks ts n) in
theorem arrive_within (hpass : passBlanks false c.rest c.index c.line c.column false allowed =
    (c', allowed')) (hkey : dropStale c' key = some key') :
    ∃ m, (within blocks c ts n key allowed).arrive =
      some (within (closing c'.column blocks ts).1 c' (closing c'.column blocks ts).2 m key'
        allowed') := by
  obtain ⟨m, hm⟩ := unrollIndent_within blocks c' ts n c'.column key' allowed'
  have hpassed : (within blocks c ts n key allowed).passed = (c', allowed') := hpass
  have hdrop : dropStaleKeys (within blocks c' ts n key allowed') =
      some (within blocks c' ts n key' allowed') := dropStaleKeys_within hkey
  refine ⟨m, ?_⟩
  rw [arrive, hpassed]
  refine (congrArg (· >>= _) hdrop).trans ?_
  exact congrArg some hm

/-- A place where a token begins. -/
theorem isReady_within (ht : StandsOut c.rest) (hkey : dropStale c key = some key)
    (hhead : ∀ b ∈ blocks.head?, b ≤ c.column) : (within blocks c ts n key allowed).IsReady := by
  have hpassed : (within blocks c ts n key allowed).passed = (c, allowed) := passBlanks_standsOut ht
  rw [IsReady, arrive, hpassed]
  refine (congrArg (· >>= _) (dropStaleKeys_within hkey)).trans ?_
  exact congrArg some (unrollIndent_eq_self hhead)

/-! ## Runs -/

/-- Whole steps, and then what happens before the next token. -/
inductive Reads : Lexer → Lexer → Prop where
  | arrive {l m : Lexer} (h : l.arrive = some m) (hready : m.IsReady)
      (hlength : m.cursor.rest.length ≤ l.cursor.rest.length) : Reads l m
  | next {l l' m : Lexer} (h : l.next = some (l', true))
      (hlength : l'.cursor.rest.length < l.cursor.rest.length) (hrest : Reads l' m) : Reads l m

theorem Reads.trans {l m m' : Lexer} (h : Reads l m) (h' : Reads m m') : Reads l m' := by
  induction h with
  | next h hlength _ ih => exact .next h hlength (ih h')
  | arrive h hready hlength =>
      cases h' with
      | arrive h'' hready' hlength' =>
          cases Option.some_inj.mp (hready.symm.trans h'')
          exact .arrive h hready hlength
      | next h'' hlength' hrest =>
          exact .next ((next_eq_of_arrive h hready).trans h'') (by omega) hrest

/-- A run comes to whatever is reached. -/
theorem Reads.run_eq {l m : Lexer} (h : Reads l m) {n : Nat} (hn : l.cursor.rest.length < n) :
    ∃ n', m.cursor.rest.length < n' ∧ run n l = run n' m := by
  induction h generalizing n with
  | arrive h hready hlength =>
      refine ⟨n, by omega, ?_⟩
      cases n with
      | zero => rfl
      | succ n => rw [run, run, next_eq_of_arrive h hready]
  | next h hlength _ ih =>
      cases n with
      | zero => omega
      | succ n =>
          obtain ⟨n', hn', hrun⟩ := ih (n := n) (by omega)
          refine ⟨n', hn', ?_⟩
          rw [run, h]
          exact hrun

/-- Reading comes to a text at a column, where a key may begin. -/
def ReadsTo (l : Lexer) (k : Nat) (t : List Char) (blocks : List Nat) (ts : List Token) : Prop :=
  ∃ i line n, Reads l (within (closing k blocks ts).1 ⟨t, i, line, k⟩ (closing k blocks ts).2 n none
    true)

namespace ReadsTo

theorem of_next {l l' : Lexer} (h : l.next = some (l', true))
    (hlength : l'.cursor.rest.length < l.cursor.rest.length) (hrest : l'.ReadsTo k t blocks ts) :
    l.ReadsTo k t blocks ts := by
  obtain ⟨i, line, n, hr⟩ := hrest
  exact ⟨i, line, n, .next h hlength hr⟩

theorem of_reads {l m : Lexer} (h : Reads l m) (hrest : m.ReadsTo k t blocks ts) :
    l.ReadsTo k t blocks ts := by
  obtain ⟨i, line, n, hr⟩ := hrest
  exact ⟨i, line, n, h.trans hr⟩

/-- A key that began in an earlier line, where none was needed. -/
def IsPast (line : Nat) (key : Option SimpleKey) : Prop :=
  ∀ q ∈ key, q.required = false ∧ q.line < line

theorem isPast_none {line : Nat} : IsPast line none := by simp [IsPast]

theorem dropStale_of_isPast (h : IsPast c.line key) : dropStale c key = some none := by
  cases key with
  | none => rfl
  | some q =>
      obtain ⟨hrequired, hline⟩ := h q rfl
      simp [dropStale, isStale, hline, hrequired]

theorem of_passBlanks (hpass : passBlanks false c.rest c.index c.line c.column false allowed =
    (⟨t, i, l, k⟩, true)) (ht : StandsOut t) (hkey : IsPast l key)
    (hlength : t.length ≤ c.rest.length) :
    (within blocks c ts n key allowed).ReadsTo k t blocks ts := by
  obtain ⟨m, hm⟩ := arrive_within blocks ts n hpass (dropStale_of_isPast hkey)
  exact ⟨i, l, m, .arrive hm (isReady_within ht rfl head_closing_le) hlength⟩

/-- On the line itself. -/
theorem here (ht : StandsOut t) (hkey : IsPast l key) :
    (within blocks ⟨t, i, l, k⟩ ts n key true).ReadsTo k t blocks ts :=
  of_passBlanks (passBlanks_standsOut ht) ht hkey le_rfl

/-- At the end of the line before. -/
theorem newline {m : Nat} (ht : StandsOut t) (hkey : IsPast (l + 1) key) :
    (within blocks ⟨'\n' :: (pad m ++ t), i, l, k⟩ ts n key allowed).ReadsTo m t blocks ts :=
  of_passBlanks (passBlanks_newline ht) ht hkey (by simp; omega)

end ReadsTo

end Lexer

end ServiceContract.Yaml
