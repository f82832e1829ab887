import ServiceContract.Yaml.Token.Lexer

/-!
# YAML nodes

Tokens are put together over a stack of unfinished collections, one token a step. What is left out
where a node is awaited is an empty scalar.
-/

namespace ServiceContract.Yaml

/-- A node of a document. An alias holds the node it refers to. A scalar without a tag, or with
the tag that says nothing, has none. -/
inductive Node where
  | scalar (tag : Option (List Char)) (isPlain : Bool) (text : List Char)
  | sequence (tag : Option (List Char)) (items : List Node)
  | mapping (tag : Option (List Char)) (entries : List (Node × Node))
  | alias (target : Node)

/-- The scalar that stands for what is left out. -/
def Node.empty : Node := .scalar none true []

/-- What stands before a node: the number of its anchor, and its tag. -/
structure Properties where
  anchor : Option Nat
  tag : Option (List Char)

/-- An unfinished node. Items and entries are held in reverse. -/
inductive Frame where
  /-- A node is awaited. -/
  | node (block indentless : Bool) (props : Properties)
  | blockSequence (props : Properties) (done : List Node)
  | blockItem (props : Properties) (done : List Node)
  | indentless (props : Properties) (done : List Node)
  | indentlessItem (props : Properties) (done : List Node)
  | blockMapping (props : Properties) (done : List (Node × Node))
  | blockKey (props : Properties) (done : List (Node × Node))
  | blockColon (props : Properties) (done : List (Node × Node)) (key : Node)
  | blockValue (props : Properties) (done : List (Node × Node)) (key : Node)
  | flowSequence (props : Properties) (done : List Node)
  | flowItem (props : Properties) (done : List Node)
  | pairKey (props : Properties) (done : List Node)
  | pairColon (props : Properties) (done : List Node) (key : Node)
  | pairValue (props : Properties) (done : List Node) (key : Node)
  | flowMapping (props : Properties) (done : List (Node × Node))
  | flowEntry (props : Properties) (done : List (Node × Node))
  | loneKey (props : Properties) (done : List (Node × Node))
  | flowKey (props : Properties) (done : List (Node × Node))
  | flowColon (props : Properties) (done : List (Node × Node)) (key : Node)
  | flowValue (props : Properties) (done : List (Node × Node)) (key : Node)
  /-- The document as a whole. -/
  | document (root : Option Node)

/-- What a token does to the innermost unfinished node. -/
inductive Action where
  /-- The token is used up. -/
  | stay (frame : Frame)
  /-- The token is used up and completes the node. -/
  | finish (props : Properties) (node : Node)
  /-- The token comes behind the node. -/
  | leave (props : Properties) (node : Node)
  /-- The token begins a node inside this one. -/
  | enter (frame : Frame) (block indentless : Bool)
  | fault

/-- A pair inside a flow sequence is a mapping of its own. -/
def pair (key value : Node) : Node := .mapping none [(key, value)]

namespace Frame

def sequenceNode (props : Properties) (done : List Node) : Node :=
  .sequence props.tag done.reverse

def mappingNode (props : Properties) (done : List (Node × Node)) : Node :=
  .mapping props.tag done.reverse

/-- Where a dash or the end of a block sequence is awaited. -/
def atDash (props : Properties) (done : List Node) : Token → Action
  | .blockEntry => .stay (.blockItem props done)
  | .blockEnd => .finish props (sequenceNode props done)
  | _ => .fault

/-- Where a key or the end of a block mapping is awaited. -/
def atBlockKey (props : Properties) (done : List (Node × Node)) : Token → Action
  | .key => .stay (.blockKey props done)
  | .blockEnd => .finish props (mappingNode props done)
  | _ => .fault

/-- Behind a key of a block mapping. -/
def atBlockColon (props : Properties) (done : List (Node × Node)) (key : Node) (t : Token) :
    Action :=
  match t with
  | .value => .stay (.blockValue props done key)
  | t => atBlockKey props ((key, .empty) :: done) t

/-- Where a comma or the end of a flow sequence is awaited. -/
def atComma (props : Properties) (done : List Node) : Token → Action
  | .flowEntry => .stay (.flowItem props done)
  | .flowSequenceEnd => .finish props (sequenceNode props done)
  | _ => .fault

/-- Where a comma or the end of a flow mapping is awaited. -/
def atEntryComma (props : Properties) (done : List (Node × Node)) : Token → Action
  | .flowEntry => .stay (.flowEntry props done)
  | .flowMappingEnd => .finish props (mappingNode props done)
  | _ => .fault

/-- What a token does to a frame where no node is awaited or one may be left out. -/
def act : Frame → Token → Action
  | .node .., _ => .fault
  | .blockSequence props done, t => atDash props done t
  | .blockItem props done, t =>
    match t with
    | .blockEntry | .blockEnd => atDash props (.empty :: done) t
    | _ => .enter (.blockSequence props done) true false
  | .indentless props done, t =>
    match t with
    | .blockEntry => .stay (.indentlessItem props done)
    | _ => .leave props (sequenceNode props done)
  | .indentlessItem props done, t =>
    match t with
    | .blockEntry => .stay (.indentlessItem props (.empty :: done))
    | .key | .value | .blockEnd => .leave props (sequenceNode props (.empty :: done))
    | _ => .enter (.indentless props done) true false
  | .blockMapping props done, t => atBlockKey props done t
  | .blockKey props done, t =>
    match t with
    | .key | .value | .blockEnd => atBlockColon props done .empty t
    | _ => .enter (.blockKey props done) true true
  | .blockColon props done key, t => atBlockColon props done key t
  | .blockValue props done key, t =>
    match t with
    | .key | .value | .blockEnd => atBlockKey props ((key, .empty) :: done) t
    | _ => .enter (.blockValue props done key) true true
  | .flowSequence props done, t => atComma props done t
  | .flowItem props done, t =>
    match t with
    | .flowSequenceEnd => .finish props (sequenceNode props done)
    | .key => .stay (.pairKey props done)
    | _ => .enter (.flowSequence props done) false false
  | .pairKey props done, t =>
    match t with
    | .value | .flowEntry | .flowSequenceEnd => .stay (.pairColon props done .empty)
    | _ => .enter (.pairKey props done) false false
  | .pairColon props done key, t =>
    match t with
    | .value => .stay (.pairValue props done key)
    | _ => atComma props (pair key .empty :: done) t
  | .pairValue props done key, t =>
    match t with
    | .flowEntry | .flowSequenceEnd => atComma props (pair key .empty :: done) t
    | _ => .enter (.pairValue props done key) false false
  | .flowMapping props done, t => atEntryComma props done t
  | .flowEntry props done, t =>
    match t with
    | .flowMappingEnd => .finish props (mappingNode props done)
    | .key => .stay (.flowKey props done)
    | _ => .enter (.loneKey props done) false false
  | .loneKey props done, t => atEntryComma props done t
  | .flowKey props done, t =>
    match t with
    | .value => .stay (.flowValue props done .empty)
    | .flowEntry | .flowMappingEnd => atEntryComma props ((.empty, .empty) :: done) t
    | _ => .enter (.flowKey props done) false false
  | .flowColon props done key, t =>
    match t with
    | .value => .stay (.flowValue props done key)
    | _ => atEntryComma props ((key, .empty) :: done) t
  | .flowValue props done key, t =>
    match t with
    | .flowEntry | .flowMappingEnd => atEntryComma props ((key, .empty) :: done) t
    | _ => .enter (.flowValue props done key) false false
  | .document root, t =>
    match root, t with
    | some n, .documentEnd | some n, .streamEnd => .stay (.document (some n))
    | _, _ => .fault

/-- Takes up a finished node inside this one. -/
def receive (n : Node) : Frame → Frame
  | .blockSequence props done => .blockSequence props (n :: done)
  | .indentless props done => .indentless props (n :: done)
  | .blockKey props done => .blockColon props done n
  | .blockValue props done key => .blockMapping props ((key, n) :: done)
  | .flowSequence props done => .flowSequence props (n :: done)
  | .pairKey props done => .pairColon props done n
  | .pairValue props done key => .flowSequence props (pair key n :: done)
  | .loneKey props done => .flowMapping props ((n, .empty) :: done)
  | .flowKey props done => .flowColon props done n
  | .flowValue props done key => .flowMapping props ((key, n) :: done)
  | .document _ => .document (some n)
  | frame => frame

end Frame

/-- The state of putting a document together. Anchors are numbered in the order in which their nodes
begin; the node is there once it is finished. -/
structure Composer where
  frames : List Frame
  anchors : List (Nat × List Char × Option Node)
  /-- What the handles of tags stand for. -/
  handles : List (List Char × List Char)

namespace Composer

/-- Gives a finished node its anchor's number. -/
def record (props : Properties) (n : Node) (c : Composer) : Composer :=
  match props.anchor with
  | none => c
  | some i =>
    { c with anchors := c.anchors.map fun a => if a.1 = i then (i, a.2.1, some n) else a }

/-- The node that an anchor names now, if it is finished. -/
def anchored (name : List Char) (c : Composer) : Option Node :=
  (c.anchors.find? fun a => a.2.1 = name).bind fun a => a.2.2

def fullTag (handle rest : List Char) (c : Composer) : Option (List Char) :=
  if handle.isEmpty then some rest else (c.handles.lookup handle).map (· ++ rest)

/-- Where a node is awaited. An anchor and a tag may stand before it, in either order. -/
def awaitNode (block indentless : Bool) (props : Properties) (c : Composer) (t : Token) :
    Option (Composer × Action) :=
  let bare := props.anchor.isNone && props.tag.isNone
  let otherwise : Option (Composer × Action) :=
    if bare then none else some (c, .leave props (.scalar props.tag true []))
  let stay (frame : Frame) : Option (Composer × Action) := some (c, .stay frame)
  match t with
  | .alias name =>
    if bare then (c.anchored name).map fun n => (c, .finish props (.alias n)) else otherwise
  | .anchor name =>
    if props.anchor.isSome then otherwise
    else
      let i := c.anchors.length
      some ({ c with anchors := (i, name, none) :: c.anchors },
        .stay (.node block indentless { props with anchor := some i }))
  | .tag handle rest =>
    if props.tag.isSome then otherwise
    else (c.fullTag handle rest).bind fun tag =>
      stay (.node block indentless { props with tag := some tag })
  | .blockEntry => if indentless then stay (.indentlessItem props []) else otherwise
  | .scalar isPlain text =>
    let tag := props.tag.filter (· ≠ ['!'])
    some (c, .finish props (.scalar tag isPlain text))
  | .flowSequenceStart => stay (.flowItem props [])
  | .flowMappingStart => stay (.flowEntry props [])
  | .blockSequenceStart => if block then stay (.blockSequence props []) else otherwise
  | .blockMappingStart => if block then stay (.blockMapping props []) else otherwise
  | _ => otherwise

/-- Takes up a token. A node that ends before the token passes it on to the collection around it. -/
def feed (t : Token) (frames : List Frame) (c : Composer) : Option Composer :=
  match frames with
  | [] => none
  | .node block indentless props :: outer =>
    match awaitNode block indentless props c t with
    | none => none
    | some (c, .stay frame) => some { c with frames := frame :: outer }
    | some (c, .finish props n) => deliver props n outer c
    | some (c, .leave props n) =>
      match outer with
      | [] => none
      | frame :: rest => feed t (frame.receive n :: rest) (c.record props n)
    | some (_, _) => none
  | frame :: outer =>
    match frame.act t with
    | .stay frame => some { c with frames := frame :: outer }
    | .finish props n => deliver props n outer c
    | .leave props n =>
      match outer with
      | [] => none
      | frame :: rest => feed t (frame.receive n :: rest) (c.record props n)
    | .enter frame block indentless =>
      match awaitNode block indentless ⟨none, none⟩ c t with
      | some (c, .stay inner) => some { c with frames := inner :: frame :: outer }
      | some (c, .finish props n) => deliver props n (frame :: outer) c
      | _ => none
    | .fault => none
termination_by frames.length
where
  /-- Gives a finished node to the collection around it. -/
  deliver (props : Properties) (n : Node) (outer : List Frame) (c : Composer) : Option Composer :=
    match outer with
    | [] => none
    | frame :: rest => some { c.record props n with frames := frame.receive n :: rest }

end Composer

/-- The handles that need no directive. -/
def defaultHandles : List (List Char × List Char) :=
  [(['!'], ['!']), (['!', '!'], "tag:yaml.org,2002:".toList)]

/-- The directives before a document, and what follows them. At most one version may be stated, and
it is 1.1 or 1.2. -/
def directives : List Token → (versions : Nat) → (handles : List (List Char × List Char)) →
    Option (Nat × List (List Char × List Char) × List Token)
  | .version major minor :: rest, versions, handles =>
    if versions = 0 && major = 1 && (minor = 1 || minor = 2) then directives rest 1 handles
    else none
  | .tagDirective handle beginning :: rest, versions, handles =>
    if (handles.lookup handle).isSome then none
    else directives rest versions ((handle, beginning) :: handles)
  | rest, versions, handles => some (versions, handles, rest)

/-- Whether nothing but document ends is left; the end of the text may have been passed. -/
def isEnd : List Token → Bool
  | .documentEnd :: rest => isEnd rest
  | [.streamEnd] | [] => true
  | _ => false

/-- Reads the root of a document, and then the end of the text. -/
def root? : List Token → Composer → Option Node
  | tokens, c =>
    match c.frames with
    | [.document (some n)] => if isEnd tokens then some n else none
    | _ =>
      match tokens with
      | [] => none
      | t :: rest => (c.feed t c.frames).bind (root? rest)
termination_by structural tokens => tokens

/-- The one document of a text; a text without any is an empty one. -/
def document? (tokens : List Token) : Option Node := do
  if isEmpty tokens then return .empty
  let (versions, handles, rest) ← directives tokens 0 []
  let composer (handles : List (List Char × List Char)) : Composer :=
    ⟨[.node true false ⟨none, none⟩, .document none], [], handles ++ defaultHandles⟩
  match rest with
  | .documentStart :: rest =>
    if isLeftOut rest then (if isEnd rest then some .empty else none)
    else root? rest (composer handles)
  | _ => if versions = 0 && handles.isEmpty then root? rest (composer []) else none
where
  /-- A text without a document. -/
  isEmpty : List Token → Bool
    | [.streamEnd] => true
    | _ => false
  /-- A document without content. -/
  isLeftOut : List Token → Bool
    | .documentStart :: _ | .documentEnd :: _ | .streamEnd :: _ | .version .. :: _
    | .tagDirective .. :: _ => true
    | _ => false

end ServiceContract.Yaml
