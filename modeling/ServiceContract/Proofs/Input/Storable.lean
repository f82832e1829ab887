import ServiceContract.Json.Reader
import ServiceContract.Proofs.Value.Entries
import ServiceContract.Proofs.Value.Places
import ServiceContract.Yaml.Reader

/-!
# Numbers that are read

Integers of a document have 64 bits, with a sign or without. Its doubles are not infinite: JSON has
no value for what is too large, and YAML has null for it.
-/

namespace ServiceContract

open Numeral

/-- If a value is a number, trees can hold it. What is not a number stands for what could not be
read. -/
def Value.IsStorable : Value → Prop
  | .int n => isSigned 64 n || isUnsigned 64 n
  | .float (.infinite _) => False
  | _ => True

/-- Everything in a value can be held by trees. -/
abbrev Value.IsSound : Value → Prop := Value.Everywhere Value.IsStorable

theorem Value.isSound_list {items : List Value} :
    (list items).IsSound ↔ ∀ v ∈ items, v.IsSound :=
  everywhere_list_iff.trans (and_iff_right trivial)

theorem Value.isSound_map {entries : List (String × Value)} :
    (map entries).IsSound ↔ ∀ e ∈ entries, e.2.IsSound :=
  everywhere_map_iff.trans (and_iff_right trivial)

theorem Value.isSound_text (s : String) : (text s).IsSound := everywhere_text_iff.mpr trivial

theorem Value.isSound_finite (x : FiniteDouble) : (float (.finite x)).IsSound :=
  everywhere_float_iff.mpr trivial

/-- An integer has 64 bits if it lies between the least one with a sign and the greatest one
without. -/
theorem Value.isSound_int {n : Int} (hlow : -(bitLimit 63 : Int) ≤ n) (hhigh : n < bitLimit 64) :
    (int n).IsSound := by
  have hsigned : bitLimit (64 - 1) = bitLimit 63 := rfl
  have hpos : 0 < bitLimit 63 := by decide
  refine everywhere_int_iff.mpr ?_
  simp only [IsStorable, isSigned, isUnsigned, hsigned, Bool.or_eq_true, Bool.and_eq_true,
    decide_eq_true_eq]
  omega

/-! ## Tokens of JSON -/

namespace Json

theorem unreadable_isSound : unreadable.IsSound := Value.everywhere_float_iff.mpr trivial

def Token.IsSound : Token → Prop
  | .scalar v => v.IsSound
  | _ => True

theorem isSound_of_finite? {x : Double} {v : Value} (h : finite? x = some v) : v.IsSound := by
  cases x with
  | finite y =>
      cases h
      exact Value.isSound_finite y
  | _ => cases h

theorem NumberParts.isSound_of_value? {p : NumberParts} {v : Value} (h : p.value? = some v) :
    v.IsSound := by
  have hlimits : bitLimit 63 < bitLimit 64 := by decide
  unfold value? at h
  dsimp only at h
  split at h
  · split at h
    · split at h
      · exact isSound_of_finite? h
      · cases h
        exact Value.isSound_int (by omega) (by omega)
    · split at h
      · cases h
        exact Value.isSound_int (by omega) (by omega)
      · exact isSound_of_finite? h
  · exact isSound_of_finite? h

theorem NumberParts.token_isSound (p : NumberParts) : p.token.IsSound := by
  unfold token
  split
  · next hv => exact isSound_of_value? hv
  · trivial

theorem stringToken_isSound (units : List Nat) : (stringToken units).IsSound := by
  unfold stringToken
  split
  · exact Value.isSound_text _
  · trivial

theorem isSound_of_wordValue? {cs : List Char} {v : Value} (h : wordValue? cs = some v) :
    v.IsSound := by
  unfold wordValue? at h
  split at h
  · cases h
    exact Value.everywhere_null_iff.mpr trivial
  split at h
  · cases h
    exact Value.everywhere_bool_iff.mpr trivial
  split at h
  · cases h
    exact Value.everywhere_bool_iff.mpr trivial
  · cases h

section

variable {c : Char} {cs : List Char} {reading reading' : Reading} {tokens tokens' : List Token}

/-- A character that belongs to no token yet ends at most a mark. -/
theorem isSound_of_start (h : start c tokens = some (reading, tokens'))
    (htokens : ∀ t ∈ tokens, t.IsSound) : ∀ t ∈ tokens', t.IsSound := by
  have hmark : ∀ o ∈ start c tokens,
      o.2 = tokens ∨ ∃ t : Token, t.IsSound ∧ o.2 = t :: tokens := by
    fun_cases start c tokens
    all_goals rintro o ⟨rfl⟩
    all_goals
      first
        | exact .inl rfl
        | exact .inr ⟨_, by trivial, rfl⟩
  rcases hmark _ h with rfl | ⟨t, ht, rfl⟩
  · exact htokens
  · exact List.forall_mem_cons.mpr ⟨ht, htokens⟩

theorem isSound_of_step (h : step c reading tokens = some (reading', tokens'))
    (htokens : ∀ t ∈ tokens, t.IsSound) : ∀ t ∈ tokens', t.IsSound := by
  cases reading with
  | between => exact isSound_of_start h htokens
  | word done =>
      rw [step] at h
      split at h
      · cases h
        exact htokens
      · obtain ⟨v, hv, h⟩ := Option.bind_eq_some_iff.mp h
        exact isSound_of_start h (List.forall_mem_cons.mpr ⟨isSound_of_wordValue? hv, htokens⟩)
  | number done =>
      rw [step] at h
      split at h
      · cases h
        exact htokens
      · obtain ⟨p, hp, h⟩ := Option.bind_eq_some_iff.mp h
        exact isSound_of_start h (List.forall_mem_cons.mpr ⟨p.token_isSound, htokens⟩)
  | string done =>
      rw [step] at h
      split at h
      · cases h
        exact List.forall_mem_cons.mpr ⟨stringToken_isSound done, htokens⟩
      split at h
      · cases h
        exact htokens
      split at h
      · cases h
      · cases h
        exact htokens
  | escape done =>
      rw [step] at h
      split at h
      · cases h
        exact htokens
      · obtain ⟨d, hd, heq⟩ := Option.map_eq_some_iff.mp h
        cases heq
        exact htokens
  | code done left value =>
      obtain ⟨d, hd, h⟩ := Option.bind_eq_some_iff.mp h
      split at h
      · cases h
        exact htokens
      · cases h
        exact htokens

theorem isSound_of_scan (h : scan cs reading tokens = some tokens')
    (htokens : ∀ t ∈ tokens, t.IsSound) : ∀ t ∈ tokens', t.IsSound := by
  induction cs generalizing reading tokens with
  | nil =>
      cases reading with
      | between =>
          cases h
          simp only [List.mem_reverse]
          exact htokens
      | word done =>
          obtain ⟨v, hv, rfl⟩ := Option.map_eq_some_iff.mp h
          simp only [List.mem_reverse]
          exact List.forall_mem_cons.mpr ⟨isSound_of_wordValue? hv, htokens⟩
      | number done =>
          obtain ⟨p, hp, rfl⟩ := Option.map_eq_some_iff.mp h
          simp only [List.mem_reverse]
          exact List.forall_mem_cons.mpr ⟨p.token_isSound, htokens⟩
      | _ => cases h
  | cons c rest ih =>
      unfold scan at h
      split at h
      · cases h
      · next hstep => exact ih h (isSound_of_step hstep htokens)

end

theorem isSound_of_tokens? {text : String} {tokens : List Token} (h : tokens? text = some tokens) :
    ∀ t ∈ tokens, t.IsSound :=
  isSound_of_scan h (by simp)

/-! ## Collections of JSON -/

/-- What an unfinished collection holds. -/
def Frame.values : Frame → List Value
  | .list done => done
  | .map done _ => done.map Prod.snd

/-- All that has been put together, finished or not. -/
structure Position.IsSound (p : Position) : Prop where
  frames : ∀ f ∈ p.frames, ∀ v ∈ f.values, v.IsSound
  result : p.result.IsSound

theorem list_isSound {done : List Value} (h : ∀ v ∈ done, v.IsSound) :
    (Value.list done.reverse).IsSound :=
  Value.isSound_list.mpr fun v hv => h v (List.mem_reverse.mp hv)

/-- Members that all have a key keep their values. -/
theorem mem_of_mapM_eq_some {ms : List (Option String × Value)} {es : List (String × Value)}
    (h : (ms.mapM fun (key, v) => key.map (·, v)) = some es) :
    ∀ e ∈ es, e.2 ∈ ms.map Prod.snd := by
  induction ms generalizing es with
  | nil =>
      cases h
      simp
  | cons m rest ih =>
      rw [List.mapM_cons] at h
      obtain ⟨e, he, h⟩ := Option.bind_eq_some_iff.mp h
      obtain ⟨more, hmore, h⟩ := Option.bind_eq_some_iff.mp h
      cases h
      obtain ⟨key, hkey, rfl⟩ := Option.map_eq_some_iff.mp he
      refine List.forall_mem_cons.mpr ⟨List.mem_cons_self, fun e he => ?_⟩
      exact List.mem_cons_of_mem _ (ih hmore e he)

theorem mapOf_isSound {done : List (Option String × Value)}
    (h : ∀ v ∈ done.map Prod.snd, v.IsSound) : (mapOf done).IsSound := by
  unfold mapOf
  split
  · next entries hentries =>
      refine Value.isSound_map.mpr fun e he => ?_
      have hmem := mem_of_mapM_eq_some hentries e he
      rw [List.map_reverse, List.mem_reverse] at hmem
      exact h _ hmem
  · exact unreadable_isSound

namespace Position

variable {p p' : Position} {t : Token} {limit : Option Nat} {e : Expectation} {rest : List Frame}
  {result : Value} {done : List Value} {members : List (Option String × Value)}
  {key : Option String}

theorem IsSound.complete (h : p.IsSound) {v : Value} (hv : v.IsSound) : (p.complete v).IsSound := by
  obtain ⟨expects, frames, result⟩ := p
  obtain ⟨hframes, hresult⟩ := h
  unfold Position.complete
  cases frames with
  | nil => exact ⟨hframes, hv⟩
  | cons f rest =>
      obtain ⟨hf, hrest⟩ := List.forall_mem_cons.mp hframes
      cases f with
      | list done =>
          exact ⟨List.forall_mem_cons.mpr ⟨List.forall_mem_cons.mpr ⟨hv, hf⟩, hrest⟩, hresult⟩
      | map done key =>
          exact ⟨List.forall_mem_cons.mpr ⟨List.forall_mem_cons.mpr ⟨hv, hf⟩, hrest⟩, hresult⟩

theorem IsSound.closeList (h : IsSound ⟨e, .list done :: rest, result⟩) :
    (Position.complete ⟨e, rest, result⟩ (.list done.reverse)).IsSound := by
  obtain ⟨hdone, hrest⟩ := List.forall_mem_cons.mp h.frames
  exact IsSound.complete (p := ⟨e, rest, result⟩) ⟨hrest, h.result⟩ (list_isSound hdone)

theorem IsSound.closeMap (h : IsSound ⟨e, .map members key :: rest, result⟩) :
    (Position.complete ⟨e, rest, result⟩ (mapOf members)).IsSound := by
  obtain ⟨hmembers, hrest⟩ := List.forall_mem_cons.mp h.frames
  exact IsSound.complete (p := ⟨e, rest, result⟩) ⟨hrest, h.result⟩ (mapOf_isSound hmembers)

/-- A key holds no value. -/
theorem IsSound.withKey (h : IsSound ⟨e, .map members key :: rest, result⟩) (e' : Expectation)
    (key' : Option String) : IsSound ⟨e', .map members key' :: rest, result⟩ :=
  ⟨List.forall_mem_cons.mpr (List.forall_mem_cons.mp h.frames), h.result⟩

theorem IsSound.next (h : p.IsSound) (ht : t.IsSound) (hnext : p.next limit t = some p') :
    p'.IsSound := by
  unfold Position.next at hnext
  extract_lets deeper value at hnext
  -- where a value may come, one is complete or a collection is opened
  have hopen : ∀ (e : Expectation) (f : Frame), f.values = [] →
      IsSound { p with expects := e, frames := f :: p.frames } := by
    intro e f hf
    refine ⟨List.forall_mem_cons.mpr ⟨?_, h.frames⟩, h.result⟩
    simp [hf]
  have hvalue : ∀ q, value = some q → q.IsSound := by
    intro q hq
    unfold value at hq
    repeat' split at hq
    all_goals cases hq
    · exact h.complete ht
    · exact h.complete unreadable_isSound
    · exact h.complete unreadable_isSound
    · exact hopen _ _ rfl
    · exact hopen _ _ rfl
  clear_value value
  obtain ⟨expects, frames, result⟩ := p
  dsimp only at hnext
  split at hnext
  all_goals
    first
      | exact hvalue _ hnext
      | cases hnext
  all_goals
    first
      | exact h.closeList
      | exact h.closeMap
      | exact h.withKey _ _
      | exact ⟨h.frames, h.result⟩

end Position

/-- What tokens make is sound if they are. -/
theorem isSound_of_ofTokens? {limit : Option Nat} {tokens : List Token} {v : Value}
    (h : ofTokens? limit tokens = some v) (htokens : ∀ t ∈ tokens, t.IsSound) : v.IsSound := by
  have hrun : ∀ (ts : List Token) (p last : Position), (∀ t ∈ ts, t.IsSound) → p.IsSound →
      ts.foldlM (Position.next limit) p = some last → last.IsSound := by
    intro ts
    induction ts with
    | nil =>
        intro p last _ hp hlast
        cases hlast
        exact hp
    | cons t rest ih =>
        intro p last hts hp hlast
        obtain ⟨ht, hrest⟩ := List.forall_mem_cons.mp hts
        rw [List.foldlM_cons] at hlast
        obtain ⟨q, hq, hlast⟩ := Option.bind_eq_some_iff.mp hlast
        exact ih q last hrest (hp.next ht hq) hlast
  obtain ⟨last, hlast, h⟩ := Option.bind_eq_some_iff.mp h
  have hstart : Position.IsSound { expects := .value, frames := [] } :=
    ⟨by simp, Value.everywhere_null_iff.mpr trivial⟩
  split at h
  · cases h
    exact (hrun tokens _ last htokens hstart hlast).result
  · cases h

mutual

/-- What is cut off leaves nothing that cannot be held. -/
theorem cut_isSound : ∀ (depth : Nat) (v : Value), v.IsSound → (cut depth v).IsSound
  | 0, .list _, _ | 0, .map _, _ => unreadable_isSound
  | depth + 1, .list items, h =>
    Value.isSound_list.mpr (cutItems_isSound depth items (Value.isSound_list.mp h))
  | depth + 1, .map entries, h =>
    Value.isSound_map.mpr (cutEntries_isSound depth entries (Value.isSound_map.mp h))
  | 0, .null, h | 0, .bool _, h | 0, .int _, h | 0, .float _, h | 0, .text _, h => h
  | _ + 1, .null, h | _ + 1, .bool _, h | _ + 1, .int _, h | _ + 1, .float _, h
  | _ + 1, .text _, h => h
termination_by structural _ v => v

theorem cutItems_isSound : ∀ (depth : Nat) (items : List Value), (∀ v ∈ items, v.IsSound) →
    ∀ v ∈ cutItems depth items, v.IsSound
  | _, [], h => h
  | depth, v :: rest, h => by
    obtain ⟨hv, hrest⟩ := List.forall_mem_cons.mp h
    exact List.forall_mem_cons.mpr ⟨cut_isSound depth v hv, cutItems_isSound depth rest hrest⟩
termination_by structural _ items => items

theorem cutEntries_isSound : ∀ (depth : Nat) (entries : List (String × Value)),
    (∀ e ∈ entries, e.2.IsSound) → ∀ e ∈ cutEntries depth entries, e.2.IsSound
  | _, [], h => h
  | depth, (key, v) :: rest, h => by
    obtain ⟨hv, hrest⟩ := List.forall_mem_cons.mp h
    exact List.forall_mem_cons.mpr ⟨cut_isSound depth v hv, cutEntries_isSound depth rest hrest⟩
termination_by structural _ entries => entries

end

theorem isSound_of_read? {limit : Option Nat} {text : String} {v : Value}
    (h : read? limit text = some v) : v.IsSound := by
  obtain ⟨tokens, htokens, h⟩ := Option.bind_eq_some_iff.mp h
  split at h
  · exact isSound_of_ofTokens? h (isSound_of_tokens? htokens)
  · cases h

theorem isSound_of_readLoosely? {limit : Nat} {text : String} {v : Value}
    (h : readLoosely? limit text = some v) : v.IsSound := by
  obtain ⟨tokens, htokens, h⟩ := Option.bind_eq_some_iff.mp h
  obtain ⟨w, hw, h⟩ := Option.bind_eq_some_iff.mp h
  cases h
  exact cut_isSound limit w (isSound_of_ofTokens? hw (isSound_of_tokens? htokens))

end Json

/-! ## Nodes of YAML -/

namespace Yaml

theorem isSound_of_intValue? {n : Int} {v : Value} (h : intValue? n = some v) : v.IsSound := by
  unfold intValue? at h
  split at h
  · next hn =>
      cases h
      exact Value.everywhere_int_iff.mpr hn
  · cases h

theorem doubleValue_isSound (x : Double) : (doubleValue x).IsSound := by
  cases x with
  | finite y => exact Value.isSound_finite y
  | _ => exact Value.everywhere_null_iff.mpr trivial

theorem isSound_of_scalarValue? {tag : Option (List Char)} {isPlain : Bool} {cs : List Char}
    {v : Value} (h : scalarValue? tag isPlain cs = some v) : v.IsSound := by
  unfold scalarValue? at h
  dsimp only at h
  split at h
  · split at h
    · split at h
      · cases h
        exact Value.everywhere_null_iff.mpr trivial
      · cases h
        exact Value.everywhere_bool_iff.mpr trivial
      · exact isSound_of_intValue? h
      · cases h
        exact doubleValue_isSound _
      · cases h
        exact Value.isSound_text _
    · cases h
      exact Value.isSound_text _
  split at h
  · obtain ⟨b, -, rfl⟩ := Option.map_eq_some_iff.mp h
    exact Value.everywhere_bool_iff.mpr trivial
  split at h
  · obtain ⟨n, -, hn⟩ := Option.bind_eq_some_iff.mp h
    exact isSound_of_intValue? hn
  split at h
  · obtain ⟨x, -, rfl⟩ := Option.map_eq_some_iff.mp h
    exact doubleValue_isSound x
  split at h
  · split at h
    · cases h
      exact Value.everywhere_null_iff.mpr trivial
    · cases h
  split at h
  · cases h
  · cases h
    exact Value.isSound_text _

mutual

theorem Node.isSound_of_value? : ∀ (n : Node) (depth aliases : Nat) {v : Value} {left : Nat},
    n.value? depth aliases = some (v, left) → v.IsSound
  | .scalar tag isPlain cs, depth, aliases, v, left, h => by
    rw [Node.value?] at h
    obtain ⟨w, hw, heq⟩ := Option.map_eq_some_iff.mp h
    cases heq
    exact isSound_of_scalarValue? hw
  | .sequence tag items, depth, aliases, v, left, h => by
    rw [Node.value?] at h
    split at h
    · cases h
    split at h
    · next vs more hvs =>
        cases h
        exact Value.isSound_list.mpr (isSound_of_itemValues? items _ _ hvs)
    · cases h
  | .mapping tag entries, depth, aliases, v, left, h => by
    rw [Node.value?] at h
    split at h
    · cases h
    split at h
    · next es more hes =>
        cases h
        have hentries := isSound_of_entryValues? entries _ _ hes
        exact Value.isSound_map.mpr fun e he => hentries e (Entries.mem_of_mem_ofList he)
    · cases h
  | .alias _, _, 0, _, _, h => nomatch h
  | .alias target, depth, aliases + 1, _, _, h => Node.isSound_of_value? target depth aliases h
termination_by structural n => n

theorem isSound_of_itemValues? : ∀ (items : List Node) (depth aliases : Nat) {vs : List Value}
    {left : Nat}, itemValues? items depth aliases = some (vs, left) → ∀ v ∈ vs, v.IsSound
  | [], _, _, _, _, h => by
    cases h
    simp
  | n :: rest, depth, aliases, vs, left, h => by
    rw [itemValues?] at h
    split at h
    · cases h
    · next v more hv =>
        split at h
        · cases h
        · next ws last hws =>
            cases h
            exact List.forall_mem_cons.mpr
              ⟨Node.isSound_of_value? n _ _ hv, isSound_of_itemValues? rest _ _ hws⟩
termination_by structural items => items

theorem isSound_of_entryValues? : ∀ (entries : List (Node × Node)) (depth aliases : Nat)
    {es : List (String × Value)} {left : Nat},
    entryValues? entries depth aliases = some (es, left) → ∀ e ∈ es, e.2.IsSound
  | [], _, _, _, _, h => by
    cases h
    simp
  | (k, n) :: rest, depth, aliases, es, left, h => by
    rw [entryValues?] at h
    split at h
    · cases h
    split at h
    · cases h
    · next v more hv =>
        split at h
        · cases h
        · next fs last hfs =>
            cases h
            exact List.forall_mem_cons.mpr
              ⟨Node.isSound_of_value? n _ _ hv, isSound_of_entryValues? rest _ _ hfs⟩
termination_by structural entries => entries

end

theorem isSound_of_read? {text : String} {v : Value} (h : read? text = some v) : v.IsSound := by
  obtain ⟨tokens, -, h⟩ := Option.bind_eq_some_iff.mp h
  obtain ⟨n, -, h⟩ := Option.bind_eq_some_iff.mp h
  obtain ⟨⟨w, left⟩, hw, h⟩ := Option.bind_eq_some_iff.mp h
  cases h
  exact Node.isSound_of_value? n _ _ hw

end Yaml

end ServiceContract
