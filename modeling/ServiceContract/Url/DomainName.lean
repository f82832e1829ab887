import ServiceContract.Json.Token
import ServiceContract.Url.Direction
import ServiceContract.Url.Punycode

/-!
# Domain names

A domain name is labels between full stops. It is read as international names are: characters are
replaced by what they stand for, and every label must be one that could be registered.
-/

namespace ServiceContract.Url

/-- ASCII characters that no domain name holds. -/
def isForbidden (c : Char) : Bool :=
  c.toNat ≤ 32 || c.toNat = 127 ||
    c ∈ ['%', '#', '/', ':', '<', '>', '?', '@', '[', '\\', ']', '^', '|']

/-- What the characters of a domain name stand for. Letters become small. A character that stands
for others outside ASCII is left as it is. -/
def standFor : List Char → Option (List Char)
  | [] => some []
  | c :: rest =>
    if c.toNat < 128 then
      if isForbidden c then none else (standFor rest).map (c.toLower :: ·)
    else match mapped c with
      | .refused => none
      | .ignored => standFor rest
      | .ascii cs => (standFor rest).map (cs ++ ·)
      | .replaced | .kept => (standFor rest).map (c :: ·)

/-- The parts between separators. -/
def splitOn (isSeparator : Char → Bool) : List Char → List (List Char)
  | [] => [[]]
  | c :: rest =>
    match splitOn isSeparator rest with
    | [] => [[c]]
    | part :: parts => if isSeparator c then [] :: part :: parts else (c :: part) :: parts

/-- Whether an invisible joiner may stand between these characters, the earlier ones given in
reverse: behind a sign that binds consonants, or, if it keeps letters apart, between letters that
would join. -/
def joinerFits (joiner : Char) (earlier later : List Char) : Bool :=
  let isMark (c : Char) := direction c == .nonspacing
  let holds (runs : List (Nat × Nat)) (c : Option Char) := c.any fun c => Text.inRuns runs c.toNat
  holds bindingRuns earlier.head? ||
    (joiner.toNat = 0x200C && holds joinsAfterRuns (earlier.dropWhile isMark).head? &&
      holds joinsBeforeRuns (later.dropWhile isMark).head?)

/-- Whether every invisible joiner of a label stands where it may. -/
def joinersFit : (earlier label : List Char) → Bool
  | _, [] => true
  | earlier, c :: rest =>
    (!(c.toNat = 0x200C || c.toNat = 0x200D) || joinerFits c earlier rest) &&
      joinersFit (c :: earlier) rest

/-- Whether a label is written from left to right, or from right to left, as a whole. -/
def isDirected (label : List Char) : Bool :=
  let ds := label.map direction
  let last := (ds.reverse.dropWhile (· == .nonspacing)).head?
  match ds with
  | [] => true
  | .leftToRight :: _ =>
    (last == some .leftToRight || last == some .europeanNumber) &&
      !ds.contains .rightToLeft && !ds.contains .arabicNumber
  | .rightToLeft :: _ =>
    (last == some .rightToLeft || last == some .europeanNumber || last == some .arabicNumber) &&
      !ds.contains .leftToRight && !(ds.contains .europeanNumber && ds.contains .arabicNumber)
  | _ => false

/-- What marks a label that is written in Punycode. -/
def punycodeMark : List Char := ['x', 'n', '-', '-']

/-- Whether a label with characters outside ASCII may stand in a domain name. -/
def isInternational (label : List Char) : Bool :=
  !(label.head?.any isMark) && !punycodeMark.isPrefixOf label && joinersFit [] label

/-- The characters of a label, if it may stand in a domain name. -/
def readLabel (label : List Char) : Option (List Char) :=
  if label.all (·.toNat < 128) then
    if punycodeMark.isPrefixOf label then
      match Punycode.decode? (label.drop 4) with
      | some cs =>
        let isPlain (c : Char) := if c.toNat < 128 then true else mapped c = .kept
        if label.length ≤ 2004 && cs.any (128 ≤ ·.toNat) && cs.all isPlain &&
            isInternational cs then
          some cs
        else none
      | none => none
    else some label
  else if label.length ≤ 1000 && isInternational label then some label
  else none

/-- Whether a character calls for labels with one direction. -/
def isTurned (c : Char) : Bool :=
  direction c == .rightToLeft || direction c == .arabicNumber

/-- The labels of a domain name, if it is a lawful one. -/
def domainLabels? (name : List Char) : Option (List (List Char)) := do
  let labels := splitOn (· = '.') (← standFor name)
  let read ← labels.mapM readLabel
  if read.any (·.any isTurned) && !read.all isDirected then none
  else some labels

/-- The bytes of a text in which a percent sign and two digits stand for a byte. -/
def percentDecoded : List Char → List UInt8
  | [] => []
  | '%' :: a :: b :: rest =>
    match Json.hexValue? a, Json.hexValue? b with
    | some x, some y => UInt8.ofNat (16 * x + y) :: percentDecoded rest
    | _, _ => 37 :: percentDecoded (a :: b :: rest)
  | c :: rest => (String.singleton c).toUTF8.toList ++ percentDecoded rest

/-- A host name with its percent escapes replaced. -/
def unescaped? (host : List Char) : Option (List Char) :=
  if host.contains '%' then
    (String.fromUTF8? ⟨(percentDecoded host).toArray⟩).map String.toList
  else some host

end ServiceContract.Url
