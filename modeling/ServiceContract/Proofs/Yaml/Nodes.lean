import ServiceContract.Proofs.Yaml.Values
import ServiceContract.Yaml.Reader

/-!
# The node of a written value

The tokens of a value are put together to its node, and the node has the value.
-/

namespace ServiceContract.Yaml

open Numeral

/-! ## Nodes -/

def textNode (s : String) : Node := .scalar none (styleOf s.toList = .plain) s.toList

mutual

/-- The node that a value is written as. -/
def valueNode : Value → Node
  | .null => .scalar none true "null".toList
  | .bool true => .scalar none true "true".toList
  | .bool false => .scalar none true "false".toList
  | .int n => .scalar none true (intText n)
  | .float x => .scalar none true x.yamlText
  | .text s => textNode s
  | .list items => .sequence none (itemNodes items)
  | .map entries => .mapping none (entryNodes entries)
termination_by structural v => v

def itemNodes : List Value → List Node
  | [] => []
  | v :: rest => valueNode v :: itemNodes rest
termination_by structural v => v

def entryNodes : List (String × Value) → List (Node × Node)
  | [] => []
  | (key, v) :: rest => (textNode key, valueNode v) :: entryNodes rest
termination_by structural v => v

end

namespace Composer

variable {c : Composer} {frame inner : Frame} {waiting outer : List Frame}
  {props : Properties} {done : List Node} {pairs : List (Node × Node)} {key n : Node} {t : Token}
  {ts : List Token} {v : Value}

/-- What stands before a node of a written value. -/
def bare : Properties := ⟨none, none⟩

/-! ## Single tokens -/

theorem feed_eq (h : frame.act t ≠ .fault) : c.feed t (frame :: outer) =
    match frame.act t with
    | .stay frame => some { c with frames := frame :: outer }
    | .finish props n => feed.deliver props n outer c
    | .leave props n =>
      match outer with
      | [] => none
      | frame :: rest => feed t (frame.receive n :: rest) (c.record props n)
    | .enter frame block indentless =>
      match awaitNode block indentless ⟨none, none⟩ c t with
      | some (c, .stay inner) => some { c with frames := inner :: frame :: outer }
      | some (c, .finish props n) => feed.deliver props n (frame :: outer) c
      | _ => none
    | .fault => none := by
  refine feed.eq_3 t c frame outer ?_
  rintro block indentless props rfl
  exact h rfl

theorem root?_cons (h : ∀ n, c.frames ≠ [.document (some n)]) :
    root? (t :: ts) c = (c.feed t c.frames).bind (root? ts) := by
  rw [root?]
  split
  · next n hn => exact absurd hn (h n)
  · rfl

theorem root?_stay {next : Frame} (h : frame.act t = .stay next) (houter : outer ≠ []) :
    root? (t :: ts) { c with frames := frame :: outer } =
      root? ts { c with frames := next :: outer } := by
  rw [root?_cons (by simp [houter]), feed_eq (by simp [h]), h]
  rfl

theorem root?_finish (h : frame.act t = .finish bare n) :
    root? (t :: ts) { c with frames := frame :: inner :: outer } =
      root? ts { c with frames := inner.receive n :: outer } := by
  rw [root?_cons (by simp), feed_eq (by simp [h]), h]
  rfl

/-- A node that ends before a token passes it on. -/
theorem root?_leave (h : frame.act t = .leave bare n) (houter : outer ≠ [])
    (hnext : ∀ frames, feed t (inner.receive n :: outer) { c with frames := frames } =
      feed t (inner.receive n :: outer) c) :
    root? (t :: ts) { c with frames := frame :: inner :: outer } =
      root? (t :: ts) { c with frames := inner.receive n :: outer } := by
  rw [root?_cons (by simp), root?_cons (by simp [houter]), feed_eq (by simp [h]), h]
  exact congrArg (·.bind (root? ts)) ((hnext _).trans (hnext _).symm)

/-! ## Awaiting a value -/

/-- The collection that a token begins. A dash begins a list only behind a key. -/
def begun (behindKey : Bool) : Token → Option Frame
  | .flowSequenceStart => some (.flowItem bare [])
  | .flowMappingStart => some (.flowEntry bare [])
  | .blockSequenceStart => some (.blockSequence bare [])
  | .blockMappingStart => some (.blockMapping bare [])
  | .blockEntry => if behindKey then some (.indentlessItem bare []) else none
  | _ => none

/-- Where a value may begin, and the frame that takes it up. -/
structure Awaits (behindKey : Bool) (waiting : List Frame) (frame : Frame) (outer : List Frame) :
    Prop where
  leave : behindKey = true → ∀ n t, t = .key ∨ t = .blockEnd → ∀ (c : Composer) ts list,
    list.act t = .leave bare n → root? (t :: ts) { c with frames := list :: frame :: outer } =
      root? (t :: ts) { c with frames := frame.receive n :: outer }
  scalar : ∀ (c : Composer) isPlain cs ts,
    root? (.scalar isPlain cs :: ts) { c with frames := waiting } =
      root? ts { c with frames := frame.receive (.scalar none isPlain cs) :: outer }
  collection : ∀ (c : Composer) t inner ts, begun behindKey t = some inner →
    root? (t :: ts) { c with frames := waiting } =
      root? ts { c with frames := inner :: frame :: outer }

theorem awaits_document :
    Awaits false [.node true false bare, .document none] (.document none) [] := by
  refine ⟨by simp, fun c isPlain cs ts => ?_, fun c t inner ts h => ?_⟩
  · rw [root?_cons (by simp)]
    simp [feed, awaitNode, feed.deliver, record, bare]
  · rw [root?_cons (by simp)]
    cases t <;> cases h <;> simp [feed, awaitNode, bare]

theorem awaits_of_act (houter : outer ≠ [])
    (hscalar : ∀ isPlain cs, frame.act (.scalar isPlain cs) = .enter inner true false)
    (hcollection : ∀ t, (begun false t).isSome → frame.act t = .enter inner true false) :
    Awaits false (frame :: outer) inner outer := by
  refine ⟨by simp, fun c isPlain cs ts => ?_, fun c t first ts h => ?_⟩
  · rw [root?_cons (by simp [houter]), feed_eq (by simp [hscalar]), hscalar]
    rfl
  · have hact := hcollection t (by simp [h])
    rw [root?_cons (by simp [houter]), feed_eq (by simp [hact]), hact]
    cases t <;> cases h <;> rfl

theorem awaits_blockItem (houter : outer ≠ []) :
    Awaits false (.blockItem props done :: outer) (.blockSequence props done) outer :=
  awaits_of_act houter (fun _ _ => rfl) fun t h => by cases t <;> first | rfl | cases h

theorem awaits_indentlessItem (houter : outer ≠ []) :
    Awaits false (.indentlessItem props done :: outer) (.indentless props done) outer :=
  awaits_of_act houter (fun _ _ => rfl) fun t h => by cases t <;> first | rfl | cases h

variable (pairs key) in
theorem awaits_blockValue (behindKey : Bool) (houter : outer ≠ []) :
    Awaits behindKey (.blockValue bare pairs key :: outer) (.blockValue bare pairs key) outer := by
  obtain ⟨around, outer, rfl⟩ := List.exists_cons_of_ne_nil houter
  refine ⟨fun _ n t ht c ts list h => root?_leave h (by simp) fun frames => ?_,
    fun c isPlain cs ts => ?_, fun c t first ts h => ?_⟩
  · rcases ht with rfl | rfl
    all_goals
      rw [feed_eq (by simp [Frame.receive, Frame.act, Frame.atBlockKey]),
        feed_eq (by simp [Frame.receive, Frame.act, Frame.atBlockKey])]
      rfl
  · rw [root?_cons (by simp), feed_eq (by simp [Frame.act])]
    rfl
  · cases behindKey <;> cases t <;> cases h <;>
      · rw [root?_cons (by simp), feed_eq (by simp [Frame.act])]
        rfl

/-- A key and its colon. -/
theorem root?_key {s : String} (houter : outer ≠ []) :
    root? (.key :: textToken s :: .value :: ts)
        { c with frames := .blockMapping props pairs :: outer } =
      root? ts { c with frames := .blockValue props pairs (textNode s) :: outer } := by
  rw [root?_stay rfl houter, root?_cons (by simp), feed_eq (by simp [textToken, Frame.act])]
  exact root?_stay rfl houter

/-! ## Values -/

/-- How the tokens of a value are put together. Behind a list that follows a key comes the next key
or the end of the map. -/
def IsComposed (v : Value) : Prop :=
  ∀ behindKey waiting frame outer, Awaits behindKey waiting frame outer →
    ∀ (c : Composer) t ts, (behindKey = true → t = .key ∨ t = .blockEnd) →
      root? (valueTokens behindKey v ++ t :: ts) { c with frames := waiting } =
        root? (t :: ts) { c with frames := frame.receive (valueNode v) :: outer }

/-- The frames of a list, before an item and behind it. -/
structure Lists (item sequence : List Node → Frame) : Prop where
  awaits : ∀ done outer, outer ≠ [] → Awaits false (item done :: outer) (sequence done) outer
  receive : ∀ done n, (sequence done).receive n = sequence (n :: done)
  dash : ∀ done, (sequence done).act .blockEntry = .stay (item done)

theorem lists_block : Lists (.blockItem bare) (.blockSequence bare) :=
  ⟨fun _ _ => awaits_blockItem, fun _ _ => rfl, fun _ => rfl⟩

theorem lists_indentless : Lists (.indentlessItem bare) (.indentless bare) :=
  ⟨fun _ _ => awaits_indentlessItem, fun _ _ => rfl, fun _ => rfl⟩

variable {item sequence : List Node → Frame} {rest : List Value}
  {entries : List (String × Value)}

/-- The items of a list, behind its first dash. -/
theorem root?_items (hlists : Lists item sequence) (houter : outer ≠ [])
    (hitems : ∀ w ∈ v :: rest, IsComposed w) :
    root? (valueTokens false v ++ (itemTokens rest ++ t :: ts))
        { c with frames := item done :: outer } =
      root? (t :: ts)
        { c with frames := sequence ((itemNodes (v :: rest)).reverse ++ done) :: outer } := by
  induction rest generalizing v done with
  | nil =>
      have hv := hitems v (List.mem_singleton_self v) _ _ _ _ (hlists.awaits done outer houter) c
        t ts (by simp)
      rwa [hlists.receive] at hv
  | cons w rest ih =>
      rw [List.forall_mem_cons] at hitems
      have hv := hitems.1 _ _ _ _ (hlists.awaits done outer houter) c .blockEntry
        (valueTokens false w ++ (itemTokens rest ++ t :: ts)) (by simp)
      rw [itemTokens, List.cons_append, List.append_assoc, hv, hlists.receive,
        root?_stay (hlists.dash _) houter, ih hitems.2]
      simp [itemNodes]

/-- The members of a map, up to its end. -/
theorem root?_entries (houter : outer ≠ []) (h : ∀ e ∈ entries, IsComposed e.2) :
    root? (entryTokens entries ++ .blockEnd :: ts)
        { c with frames := .blockMapping bare pairs :: outer } =
      root? (.blockEnd :: ts)
        { c with
          frames := .blockMapping bare ((entryNodes entries).reverse ++ pairs) :: outer } := by
  induction entries generalizing pairs with
  | nil => rfl
  | cons e rest ih =>
      obtain ⟨key, v⟩ := e
      rw [List.forall_mem_cons] at h
      obtain ⟨t, ts', hrest, ht⟩ : ∃ t ts', entryTokens rest ++ .blockEnd :: ts = t :: ts' ∧
          (t = .key ∨ t = .blockEnd) := by
        cases rest with
        | nil => exact ⟨_, _, rfl, .inr rfl⟩
        | cons e rest => exact ⟨_, _, rfl, .inl rfl⟩
      have hv := h.1 _ _ _ _ (awaits_blockValue pairs (textNode key)
        (isSimpleKey key) houter) c t ts' fun _ => ht
      simp only [entryTokens, List.cons_append, List.append_assoc, hrest]
      rw [root?_key houter, hv, ← hrest]
      exact (ih h.2).trans (by simp [entryNodes])

theorem isComposed_of_scalar {isPlain : Bool} {cs : List Char}
    (htokens : ∀ behindKey, valueTokens behindKey v = [.scalar isPlain cs])
    (hnode : valueNode v = .scalar none isPlain cs) : IsComposed v := by
  intro behindKey waiting frame outer hwaits c t ts _
  rw [htokens, hnode]
  exact hwaits.scalar c isPlain cs (t :: ts)

theorem isComposed_list (h : ∀ w ∈ v :: rest, IsComposed w) : IsComposed (.list (v :: rest)) := by
  intro behindKey waiting frame outer hwaits c t ts ht
  cases behindKey with
  | false =>
      simp only [valueTokens, itemTokens, Bool.false_eq_true, if_false, List.cons_append,
        List.append_assoc, List.nil_append]
      rw [hwaits.collection c _ _ _ rfl, root?_stay rfl (by simp),
        root?_items lists_block (by simp) h]
      refine (root?_finish rfl).trans ?_
      simp [valueNode, Frame.sequenceNode, bare]
  | true =>
      simp only [valueTokens, itemTokens, if_true, List.cons_append, List.append_assoc]
      rw [hwaits.collection c _ _ _ rfl, root?_items lists_indentless (by simp) h,
        hwaits.leave rfl (.sequence none (itemNodes (v :: rest))) t (ht rfl)]
      · rfl
      · rcases ht rfl with rfl | rfl <;> simp [Frame.act, Frame.sequenceNode, bare]

theorem isComposed_map {e : String × Value} (h : ∀ e' ∈ e :: entries, IsComposed e'.2) :
    IsComposed (.map (e :: entries)) := by
  intro behindKey waiting frame outer hwaits c t ts _
  simp only [valueTokens, List.cons_append, List.append_assoc, List.nil_append]
  rw [hwaits.collection c _ _ _ rfl, root?_entries (by simp) h]
  refine (root?_finish rfl).trans ?_
  simp [valueNode, Frame.mappingNode, bare]

theorem isComposed_of_empty (isList : Bool)
    (htokens : ∀ behindKey, valueTokens behindKey v =
      [(Lexer.opening isList).2, (Lexer.ending isList).2])
    (hnode : valueNode v = if isList then .sequence none [] else .mapping none []) :
    IsComposed v := by
  intro behindKey waiting frame outer hwaits c t ts _
  rw [htokens, hnode]
  cases isList with
  | true => exact (hwaits.collection c _ _ _ rfl).trans (root?_finish rfl)
  | false => exact (hwaits.collection c _ _ _ rfl).trans (root?_finish rfl)

theorem isComposed_of_isWordy {d : Nat} (hv : v.IsWordy d) : IsComposed v := by
  induction hv with
  | null => exact isComposed_of_scalar (fun _ => rfl) rfl
  | bool b => cases b <;> exact isComposed_of_scalar (fun _ => rfl) rfl
  | text s => exact isComposed_of_scalar (fun _ => rfl) rfl
  | @list d items h ih =>
      cases items with
      | nil => exact isComposed_of_empty true (fun _ => rfl) rfl
      | cons v rest => exact isComposed_list ih
  | @map d entries h ih =>
      cases entries with
      | nil => exact isComposed_of_empty false (fun _ => rfl) rfl
      | cons e rest => exact isComposed_map ih

end Composer

/-! ## Documents -/

variable {v : Value} {d : Nat}

theorem valueTokens_eq_cons (v : Value) : ∃ t ts, valueTokens false v = t :: ts ∧
    (t ∈ [.flowSequenceStart, .flowMappingStart, .blockSequenceStart, .blockMappingStart] ∨
      ∃ isPlain cs, t = .scalar isPlain cs) := by
  rcases v with _ | (_ | _) | _ | _ | _ | (_ | ⟨v, rest⟩) | (_ | ⟨e, rest⟩)
  all_goals exact ⟨_, _, rfl, by simp [textToken]⟩

/-- The tokens of a value make up a document. -/
theorem document?_valueTokens (hv : v.IsWordy d) :
    document? (valueTokens false v ++ [.streamEnd]) = some (valueNode v) := by
  have hroot : root? (valueTokens false v ++ [.streamEnd])
      ⟨[.node true false ⟨none, none⟩, .document none], [], defaultHandles⟩ = some (valueNode v) :=
    Composer.isComposed_of_isWordy hv _ _ _ _ Composer.awaits_document ⟨[], [], defaultHandles⟩
      .streamEnd [] (by simp)
  obtain ⟨t, ts, htokens, ht⟩ := valueTokens_eq_cons v
  rw [htokens, List.cons_append] at hroot ⊢
  have hempty : document?.isEmpty (t :: (ts ++ [.streamEnd])) = false := by
    cases t <;> simp_all [document?.isEmpty]
  have hdirectives : directives (t :: (ts ++ [.streamEnd])) 0 [] =
      some (0, [], t :: (ts ++ [.streamEnd])) := by
    cases t <;> simp_all [directives]
  rw [document?, hempty, hdirectives]
  cases t <;> simp_all

/-! ## Values -/

theorem scalarValue?_text (s : String) :
    scalarValue? none (styleOf s.toList = .plain) s.toList = some (.text s) := by
  by_cases hstyle : styleOf s.toList = .plain
  · have htext := (isPlainText_of_styleOf hstyle).2
    simp [scalarValue?, hstyle, htext]
  · simp [scalarValue?, hstyle]

/-- The node of a value has the value, with every key once. -/
theorem value?_valueNode {aliases : Nat} (hv : v.IsWordy d) :
    (valueNode v).value? d aliases = some (v.unique, aliases) := by
  induction hv with
  | null => rfl
  | bool b => cases b <;> rfl
  | text s => simp [valueNode, textNode, Node.value?, scalarValue?_text, Value.unique]
  | @list d items h ih =>
      have hitems : itemValues? (itemNodes items) d aliases =
          some (Value.uniqueItems items, aliases) := by
        clear h
        induction items with
        | nil => rfl
        | cons v rest ih' =>
            rw [List.forall_mem_cons] at ih
            simp [itemNodes, itemValues?, Value.uniqueItems, ih.1, ih' ih.2]
      simp [valueNode, Node.value?, isLocal, hitems, Value.unique]
  | @map d entries h ih =>
      have hentries : entryValues? (entryNodes entries) d aliases =
          some (Value.uniqueEntries entries, aliases) := by
        clear h
        induction entries with
        | nil => rfl
        | cons e rest ih' =>
            rw [List.forall_mem_cons] at ih
            simp [entryNodes, entryValues?, keyText?, textNode, Value.uniqueEntries, ih.1, ih' ih.2]
      simp [valueNode, Node.value?, isLocal, hentries, Value.unique]

end ServiceContract.Yaml
