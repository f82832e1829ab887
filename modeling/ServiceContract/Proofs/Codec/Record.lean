import ServiceContract.Codec.Record
import ServiceContract.Proofs.Outcome

/-!
# Decoding what is encoded

Records, choices, options and lists are read back from the trees that are made of them, if their
parts are.
-/

namespace ServiceContract.Codec

variable {α β γ : Type}

/-! ## Readings -/

namespace Reading

/-- A reading succeeds with a value of which something holds. -/
def Yields (r : Reading α) (P : α → Prop) : Prop := ∃ a, r = .ok a ∧ P a

theorem seq_yields {f : Reading (α → β)} {r : Reading α} {P : β → Prop} :
    (f <*> r).Yields P ↔ f.Yields fun g => r.Yields fun a => P (g a) := by
  constructor
  · rintro ⟨b, hb, hP⟩
    cases f with
    | error e => cases r <;> cases hb
    | ok g =>
        cases r with
        | error e => cases hb
        | ok a =>
            cases hb
            exact ⟨g, rfl, a, rfl, hP⟩
  · rintro ⟨g, rfl, a, rfl, hP⟩
    exact ⟨g a, rfl, hP⟩

theorem map_yields {g : α → β} {r : Reading α} {P : β → Prop} :
    (g <$> r).Yields P ↔ r.Yields fun a => P (g a) := by
  constructor
  · rintro ⟨b, hb, hP⟩
    cases r with
    | error e => cases hb
    | ok a =>
        cases hb
        exact ⟨a, rfl, hP⟩
  · rintro ⟨a, rfl, hP⟩
    exact ⟨g a, rfl, hP⟩

theorem run_eq_ok {r : Reading α} {a : α} : r.run = .ok a ↔ r.Yields (· = a) := by
  constructor
  · intro h
    cases r with
    | ok b =>
        cases h
        exact ⟨a, rfl, rfl⟩
    | error e => cases h
  · rintro ⟨_, rfl, rfl⟩
    rfl

end Reading

/-! ## Records -/

variable {d : Dialect} {r : RecordType} {m : Members β} {fields : Reading α} {x a : α}
  {key : String}

/-- A record that is decoded has parts, and is made of what its fields are. -/
theorem fields_of_decode {parts : Except Fault (Members β)} {F : Members β → Reading α}
    (h : (do let m ← parts; build d r m (F m)) = .ok x) :
    ∃ m, parts = .ok m ∧ (F m).Yields (· = x) := by
  obtain ⟨m, hm, h⟩ := bind_eq_ok.mp h
  rw [build, Reading.run_eq_ok, Reading.seq_yields, Reading.map_yields] at h
  obtain ⟨y, hy, _, -, rfl⟩ := h
  exact ⟨m, hm, y, hy, rfl⟩

/-- A record that is open to other keys is made of what its fields are. -/
theorem build_named {E : List (String × β)} (hopen : r.closed = false)
    (h : fields.Yields (· = x)) : build d r (.named E) fields = .ok x := by
  have hsurplus : surplus d r (.named E) = .ok () := by rw [surplus, hopen]
  obtain ⟨y, hy, rfl⟩ := h
  rw [build, Reading.run_eq_ok, Reading.seq_yields, Reading.map_yields]
  exact ⟨y, hy, (), hsurplus, rfl⟩

/-- A map is decoded as the record that its members make. -/
theorem decode_named {E : Entries} {F : Members Value → Reading α} (hopen : r.closed = false)
    (h : (F (.named E)).Yields (· = x)) :
    (do let m ← members .tree r.title (.map E); build .tree r m (F m)) = .ok x :=
  bind_eq_ok.mpr ⟨.named E, by simp [members], build_named hopen h⟩

/-- The values that a record is made of. -/
def Members.parts : Members β → List β
  | .named entries => entries.map Prod.snd
  | .positional items => items

theorem mem_of_mem_occurrences {entries : List (String × β)} {i : Nat} {v : β}
    (h : (i, v) ∈ occurrences key entries) : v ∈ entries.map Prod.snd := by
  obtain ⟨⟨⟨k, w⟩, j⟩, hmem, hsome⟩ := List.mem_filterMap.mp h
  dsimp only at hsome
  split at hsome
  · cases hsome
    exact List.mem_map.mpr ⟨_, List.fst_mem_of_mem_zipIdx hmem, rfl⟩
  · cases hsome

/-- What a field holds was decoded from a part of its record, or stands in for it. -/
theorem field_eq_ok {fallback : Option α} {decode : β → Except Fault α}
    (h : field r m key fallback decode = .ok a) :
    fallback = some a ∨ ∃ v ∈ m.parts, decode v = .ok a := by
  unfold field at h
  cases m with
  | named entries =>
      dsimp only at h
      cases hkey : occurrences key entries with
      | nil =>
          rw [hkey] at h
          cases fallback with
          | none => cases h
          | some b =>
              cases h
              exact .inl rfl
      | cons first more =>
          obtain ⟨i, v⟩ := first
          rw [hkey] at h
          dsimp only at h
          cases hv : decode v with
          | error fault =>
              rw [hv] at h
              cases h
          | ok b =>
              rw [hv] at h
              cases more with
              | nil =>
                  cases h
                  have hmem : (i, v) ∈ occurrences key entries := hkey ▸ List.mem_cons_self
                  exact .inr ⟨v, mem_of_mem_occurrences hmem, hv⟩
              | cons next rest => cases h
  | positional items =>
      dsimp only at h
      cases hitem : items[r.fields.idxOf key]? with
      | none =>
          rw [hitem] at h
          cases fallback with
          | none => cases h
          | some b =>
              cases h
              exact .inl rfl
      | some v =>
          rw [hitem] at h
          dsimp only at h
          cases hv : decode v with
          | error fault =>
              rw [hv] at h
              cases h
          | ok b =>
              rw [hv] at h
              cases h
              exact .inr ⟨v, List.mem_of_getElem? hitem, hv⟩

/-- A field whose key occurs once holds what its value is decoded to. -/
theorem field_named {E : List (String × β)} {fallback : Option α} {decode : β → Except Fault α}
    {i : Nat} {v : β} (hkey : occurrences key E = [(i, v)]) (h : decode v = .ok a) :
    field r (.named E) key fallback decode = .ok a := by
  simp only [field, hkey, h]
  rfl

/-! ## Choices -/

theorem exists_pick_of_choose {variants : List String} {s : Selection β}
    {pick : String → Content β → Except Fault α} (h : choose d variants s pick = .ok x) :
    ∃ name content alone, s = .variant name content alone ∧ pick name content = .ok x := by
  unfold choose at h
  split at h
  all_goals try cases h
  dsimp only at h
  split at h
  · cases h
  · obtain ⟨a, ha, h⟩ := bind_eq_ok.mp h
    split at h
    · cases h
      exact ⟨_, _, _, rfl, ha⟩
    · cases h

/-- A map of one member is a choice of the variant that is its key. -/
theorem choose_variant {variants : List String} {name : String} {v : β}
    {pick : String → Content β → Except Fault α} (hname : variants.contains name = true)
    (h : pick name (.given v) = .ok x) :
    choose .tree variants (.variant name (.given v) true) pick = .ok x := by
  simp only [choose, hname, h, bind, Except.bind, pure, Except.pure]
  rfl

theorem selection_single (name : String) (v : Value) :
    selection .tree (.map [(name, v)]) = .variant name (.given v) true := by
  cases v <;> rfl

theorem exists_of_valueContent {decode : β → Except Fault α} {content : Content β}
    (h : valueContent decode content = .ok a) : ∃ v, content = .given v ∧ decode v = .ok a := by
  cases content with
  | bare => cases h
  | given v => exact ⟨v, rfl, h⟩

/-! ## Lists and options -/

variable {decode : Decoder α} {encode : α → Value}

theorem exists_of_mem_items {decode : Value → Except Fault α} {vs : List Value} {as : List α}
    (h : items decode vs = .ok as) : ∀ a ∈ as, ∃ v ∈ vs, decode v = .ok a := by
  induction vs generalizing as with
  | nil =>
      cases h
      simp
  | cons v rest ih =>
      obtain ⟨a, ha, h⟩ := bind_eq_ok.mp h
      obtain ⟨more, hmore, h⟩ := bind_eq_ok.mp h
      cases h
      refine List.forall_mem_cons.mpr ⟨⟨v, List.mem_cons_self, ha⟩, fun b hb => ?_⟩
      obtain ⟨w, hw, hdecode⟩ := ih hmore b hb
      exact ⟨w, List.mem_cons_of_mem v hw, hdecode⟩

theorem listOf_encodeList {as : List α} (h : ∀ a ∈ as, decode .tree (encode a) = .ok a) :
    listOf decode .tree (encodeList encode as) = .ok as := by
  unfold listOf encodeList
  dsimp only
  induction as with
  | nil => rfl
  | cons a rest ih =>
      obtain ⟨ha, hrest⟩ := List.forall_mem_cons.mp h
      exact bind_eq_ok.mpr ⟨a, ha, bind_eq_ok.mpr ⟨rest, ih hrest, rfl⟩⟩

/-- An option is read back if what it holds is, and is not taken for its absence. -/
theorem optional_encodeOption {o : Option α} (h : ∀ a ∈ o, decode .tree (encode a) = .ok a)
    (hpresent : ∀ a ∈ o, encode a ≠ .null) :
    optional decode .tree (encodeOption encode o) = .ok o := by
  cases o with
  | none => rfl
  | some a =>
      have hsome : optional decode .tree (encode a) = some <$> decode .tree (encode a) := by
        unfold optional
        split
        · next hnull => exact absurd hnull (hpresent a rfl)
        · rfl
      rw [encodeOption, hsome, h a rfl]
      rfl

/-! ## What is decoded again -/

/-- Whatever a value is decoded to is what its tree is decoded to. -/
def Restores (decode : Decoder α) (encode : α → Value) : Prop :=
  ∀ d v a, decode d v = .ok a → decode .tree (encode a) = .ok a

namespace Restores

theorem of_forall (h : ∀ a, decode .tree (encode a) = .ok a) : Restores decode encode :=
  fun _ _ a _ => h a

theorem listOf (h : Restores decode encode) : Restores (listOf decode) (encodeList encode) := by
  intro d v as has
  unfold Codec.listOf at has
  split at has
  · refine listOf_encodeList fun a ha => ?_
    obtain ⟨w, -, hw⟩ := exists_of_mem_items has a ha
    exact h d w a hw
  · cases has

theorem optional (h : Restores decode encode) (hpresent : ∀ a, encode a ≠ .null) :
    Restores (optional decode) (encodeOption encode) := by
  intro d v o ho
  refine optional_encodeOption ?_ fun a _ => hpresent a
  rintro a rfl
  unfold Codec.optional at ho
  split at ho
  · cases ho
  · obtain ⟨b, hb, heq⟩ := map_eq_ok.mp ho
    cases heq
    exact h d _ a hb

variable {m : Members Value} {E : Entries} {i : Nat}

/-- A field that has to be there is read back. -/
theorem required (h : Restores decode encode) (ha : required r m key (decode d) = .ok a)
    (hkey : occurrences key E = [(i, encode a)]) :
    Codec.required r (.named E) key (decode .tree) = .ok a := by
  rcases field_eq_ok ha with hnone | ⟨v, -, hv⟩
  · cases hnone
  · exact field_named hkey (h d v a hv)

/-- A field that may be missing is read back, if what stands in for it is. -/
theorem field (h : Restores decode encode) {b : α} (hb : decode .tree (encode b) = .ok b)
    (ha : field r m key (some b) (decode d) = .ok a)
    (hkey : occurrences key E = [(i, encode a)]) :
    Codec.field r (.named E) key (some b) (decode .tree) = .ok a := by
  rcases field_eq_ok ha with heq | ⟨v, -, hv⟩
  · cases heq
    exact field_named hkey hb
  · exact field_named hkey (h d v a hv)

/-- A record is read back if its fields are. -/
theorem record {F : Dialect → Members Value → Reading α} {E : α → Entries}
    (hopen : r.closed = false) (h : ∀ d m x, (F d m).Yields (· = x) →
      (F .tree (.named (E x))).Yields (· = x)) :
    Restores (fun d v => do let m ← members d r.title v; build d r m (F d m))
      (fun x => .map (E x)) := by
  intro d v x hx
  obtain ⟨m, -, hx⟩ := fields_of_decode hx
  exact decode_named hopen (h d m x hx)

/-- The content of a variant is read back. -/
theorem content (h : Restores decode encode) {content : Content Value}
    (ha : valueContent (decode d) content = .ok a) :
    valueContent (decode .tree) (.given (encode a)) = .ok a := by
  obtain ⟨v, -, hv⟩ := exists_of_valueContent ha
  exact h d v a hv

/-- A choice between two variants is read back if the content of either is. -/
theorem either {first : Decoder β} {second : Decoder γ} {encodeFirst : β → Value}
    {encodeSecond : γ → Value} {f : β → α} {g : γ → α} {p q : String}
    (hfirst : Restores first encodeFirst) (hsecond : Restores second encodeSecond) (hne : q ≠ p)
    (hf : ∀ b, encode (f b) = .map [(p, encodeFirst b)])
    (hg : ∀ c, encode (g c) = .map [(q, encodeSecond c)]) :
    Restores (fun d v => choose d [p, q] (selection d v) fun name content =>
      if name = p then f <$> valueContent (first d) content
      else g <$> valueContent (second d) content) encode := by
  intro d v x h
  obtain ⟨name, content, _, -, h⟩ := exists_pick_of_choose h
  dsimp only
  split at h
  · obtain ⟨b, hb, rfl⟩ := map_eq_ok.mp h
    rw [hf, selection_single]
    refine choose_variant (by simp) ?_
    rw [if_pos rfl]
    exact map_eq_ok.mpr ⟨b, hfirst.content hb, rfl⟩
  · obtain ⟨c, hc, rfl⟩ := map_eq_ok.mp h
    rw [hg, selection_single]
    refine choose_variant (by simp) ?_
    rw [if_neg hne]
    exact map_eq_ok.mpr ⟨c, hsecond.content hc, rfl⟩

end Restores

theorem text_restores : Restores text .text := .of_forall fun _ => rfl

theorem boolean_restores : Restores boolean .bool := .of_forall fun _ => rfl

theorem ofInt_ne_notANumber (n : Int) : Numeral.Double.ofInt n ≠ .notANumber := by
  unfold Numeral.Double.ofInt Numeral.Double.ofRatio
  dsimp only
  split <;> simp

theorem double_float {x : Numeral.Double} (h : x ≠ .notANumber) :
    double .tree (.float x) = .ok x := by
  cases x with
  | notANumber => exact absurd rfl h
  | _ => rfl

/-- A double that is decoded is a number, and is decoded again. -/
theorem double_restores : Restores double .float := by
  intro d v x h
  refine double_float ?_
  unfold double at h
  split at h
  · cases h
    exact ofInt_ne_notANumber _
  · cases h
  · next hx =>
      cases h
      exact hx
  · cases h

end ServiceContract.Codec
