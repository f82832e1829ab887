import ServiceContract.Yaml.Scalar

/-!
# Scalar styles

Which of the four written forms a string takes: plain, single quoted, double quoted, or literal.
-/

namespace ServiceContract.Yaml

/-- The written form of a scalar. -/
inductive Style where
  | plain
  | singleQuoted
  | doubleQuoted
  | literal
deriving DecidableEq

/-- Characters that end a line. -/
def isBreak (c : Char) : Bool :=
  c = '\n' || c = '\r' || c.toNat = 0x85 || c.toNat = 0x2028 || c.toNat = 0x2029

/-- White space or a line end; the end of the text counts as one, and so does NUL. -/
def isBlankOrEnd : Option Char → Bool
  | none => true
  | some c => c = ' ' || c = '\t' || isBreak c || c.toNat = 0

/-- Characters that are written as they are. -/
def isPrintable (c : Char) : Bool :=
  let n := c.toNat
  n = 10 || (32 ≤ n && n ≤ 0x7E) || (0xA0 ≤ n && n ≤ 0xD7FF) ||
    (0xE000 ≤ n && n ≤ 0xFFFD && n ≠ 0xFEFF) || 0x10000 ≤ n

/-- Characters that mean something at the start of a scalar, whatever follows. -/
def isIndicator (c : Char) : Bool :=
  c ∈ ['#', ',', '[', ']', '{', '}', '&', '*', '!', '|', '>', '\'', '"', '%', '@', '\x60']

/-- Every two neighbours of a text. -/
def neighbours (cs : List Char) : List (Char × Char) := cs.zip cs.tail

/-- Whether a text has a place that would end a plain scalar early, or a start that would not
begin one. -/
def hasIndicator (cs : List Char) : Bool :=
  "---".toList.isPrefixOf cs || "...".toList.isPrefixOf cs ||
  (match cs with
    | [] => false
    | c :: rest => isIndicator c || (c ∈ ['-', '?', ':'] && isBlankOrEnd rest.head?)) ||
  (neighbours cs).any (fun (a, b) => b = '#' && isBlankOrEnd (some a)) ||
  (match cs with
    | [] => false
    | _ :: rest => (rest.zip (rest.tail.map some ++ [none])).any
        fun (a, b) => a = ':' && isBlankOrEnd b)

/-- What the written forms of a text depend on. -/
structure Analysis where
  plainAllowed : Bool
  singleAllowed : Bool
  literalAllowed : Bool
deriving DecidableEq

/-- Which written forms a text allows. An empty text is plain or single quoted. -/
def analyse (cs : List Char) : Analysis :=
  if cs.isEmpty then ⟨true, true, false⟩
  else
    let breaks := cs.any isBreak
    let special := cs.any fun c => !isPrintable c
    let edge (c : Option Char) : Bool := match c with
      | none => false
      | some c => c = ' ' || isBreak c
    let breakSpace := (neighbours cs).any fun (a, b) => isBreak a && b = ' '
    let spaceBreak := (neighbours cs).any fun (a, b) => a = ' ' && isBreak b
    let quotedOnly := spaceBreak || special
    { plainAllowed := !(edge cs.head? || edge cs.getLast? || breakSpace || quotedOnly || breaks ||
        hasIndicator cs)
      singleAllowed := !(breakSpace || quotedOnly)
      literalAllowed := !(cs.getLast? == some ' ' || quotedOnly) }

/-- The style of a string. A text of several lines is literal, one that would be read as
something else is quoted; what a style does not allow passes to the next. -/
def styleOf (cs : List Char) : Style :=
  let a := analyse cs
  let quoted := if a.singleAllowed then Style.singleQuoted else .doubleQuoted
  if '\n' ∈ cs then
    if a.literalAllowed then .literal else .doubleQuoted
  else if plain cs ≠ .text || hasLeadingZero cs then quoted
  else if a.plainAllowed then .plain
  else quoted

end ServiceContract.Yaml
