import ServiceContract.Url.DomainName

/-!
# Addresses

Which texts are addresses of version 4 and of version 6. The numbers themselves are not kept.
-/

namespace ServiceContract.Url

/-- The number that digits of a base write. -/
def numberOf? (base : Nat) (ds : List Char) : Option Nat :=
  ds.foldlM (fun n d => do
    let x ← Json.hexValue? d
    if x < base then some (base * n + x) else none) 0

/-- A part of an address of version 4: decimal, octal behind a zero, or hexadecimal behind `0x`. -/
def addressNumber? : List Char → Option Nat
  | [] => none
  | '0' :: 'x' :: ds | '0' :: 'X' :: ds => numberOf? 16 ds
  | ['0'] => some 0
  | '0' :: ds => numberOf? 8 ds
  | ds => numberOf? 10 ds

/-- The parts of a name, without the empty one behind a full stop at its end. -/
def parts (labels : List (List Char)) : List (List Char) :=
  if labels.getLast? = some [] then labels.dropLast else labels

/-- Whether the last part of a name is a number, so that the whole must be an address. -/
def endsInNumber (labels : List (List Char)) : Bool :=
  match (parts labels).getLast? with
  | none => false
  | some last => (!last.isEmpty && last.all Char.isDigit) || (addressNumber? last).isSome

/-- Whether the parts are an address of version 4: at most four numbers, of which the last one fills
the bytes that are left. -/
def isVersion4 (labels : List (List Char)) : Bool :=
  match (parts labels).mapM addressNumber? with
  | none => false
  | some ns =>
    match ns.reverse with
    | [] => false
    | last :: others =>
      ns.length ≤ 4 && others.all (· < 256) && last < Nat.pow 256 (4 - others.length)

/-- Whether the text is one byte in decimal digits, without a zero in front. -/
def isDecimalByte (ds : List Char) : Bool :=
  !ds.isEmpty && ds.length ≤ 3 && ds.all Char.isDigit && (ds.length = 1 || ds.head? ≠ some '0') &&
    Json.ofDigits ds < 256

/-- How many of the eight groups a part stands for: one, or two if four bytes stand in the place of
the last ones. -/
def groupWidth? (isLast : Bool) (part : List Char) : Option Nat :=
  if !part.isEmpty && part.length ≤ 4 && part.all (Json.hexValue? · |>.isSome) then some 1
  else
    let bytes := splitOn (· = '.') part
    if isLast && bytes.length = 4 && bytes.all isDecimalByte then some 2 else none

/-- How many groups parts between colons stand for. -/
def groups? (isLast : Bool) (cs : List Char) : Option Nat :=
  if cs.isEmpty then some 0
  else
    let parts := splitOn (· = ':') cs
    let widths := parts.zipIdx.mapM fun (part, i) =>
      groupWidth? (isLast && i + 1 = parts.length) part
    widths.map (·.foldl Nat.add 0)

/-- The texts before and behind the first two colons in a row. -/
def splitGap : List Char → Option (List Char × List Char)
  | ':' :: ':' :: rest => some ([], rest)
  | c :: rest => (splitGap rest).map fun (before, behind) => (c :: before, behind)
  | [] => none

/-- Whether the text is an address of version 6: eight groups, or fewer with one gap. -/
def isVersion6 (cs : List Char) : Bool :=
  match splitGap cs with
  | none => groups? true cs == some 8
  | some (before, behind) =>
    match groups? false before, groups? true behind with
    | some m, some n => m + n ≤ 7
    | _, _ => false

end ServiceContract.Url
