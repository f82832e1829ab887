import ServiceContract.Schema.Contract
import ServiceContract.Schema.Sameness
import ServiceContract.Schema.Violation
import ServiceContract.Yaml.Reader

/-!
# Checking documents

Every demand is checked, also when another one of the same schema is not met.
-/

namespace ServiceContract

def Schema.keywords : Schema → List Keyword
  | anything => []
  | defined d => d.keywords
  | demands keywords => keywords

/-- A violation, if a demand is not met. -/
def violationUnless (met : Bool) (violation : Violation) : List Violation :=
  if met then [] else [violation]

/-- The keys among some that a map lacks. -/
def missingKeys (keys : List String) (entries : Entries) : List Violation :=
  (keys.filter fun key => !entries.keys.contains key).map .missing

def KeyRule.violations (key : String) : KeyRule → List Violation
  | pattern p => violationUnless (p.holds key) (.mismatch (.text key) p)
  | oneOf names => violationUnless (names.contains key) (.notOneOf (.text key) names)

/-- The violations of a demand by a value itself, not by what it holds. -/
def Keyword.ownViolations (siblings : List Keyword) : Keyword → Value → List Violation
  | type t, v => violationUnless (t.holds v) (.wrongType v t)
  | oneOf names, v => violationUnless (names.any fun name => v = .text name) (.notOneOf v names)
  | minLength n, .text s => violationUnless (n ≤ s.length) (.tooShort (.text s) n)
  | pattern p, .text s => violationUnless (p.holds s) (.mismatch (.text s) p)
  | uniqueItems, .list vs => violationUnless (allDifferent vs) (.repeatedItems (.list vs))
  | required keys, .map es => missingKeys keys es
  | minProperties n, .map es => violationUnless (n ≤ es.length) (.tooFew (.map es) n)
  | propertyNames rule, .map es => (Entries.keys es).flatMap rule.violations
  | closed, .map es =>
    let unknown := (Entries.keys es).filter fun key => !siblings.any (·.knows key)
    violationUnless unknown.isEmpty (.unexpected unknown)
  | dependentRequired key keys, .map es =>
    if (Entries.keys es).contains key then missingKeys keys es else []
  | _, _ => []

def Keyword.itemSchema? : Keyword → Option Schema
  | items s => some s
  | _ => none

mutual

/-- The violations of demands by a value and what it holds. -/
def violations (keywords : List Keyword) : Value → List Violation
  | .list vs => keywords.flatMap fun k =>
    k.ownViolations keywords (.list vs) ++ itemViolations (k.itemSchema?.elim [] (·.keywords)) vs
  | .map es => keywords.flatMap fun k =>
    k.ownViolations keywords (.map es) ++
      memberViolations (fun key => (k.memberSchema? keywords key).elim [] (·.keywords)) es
  | .null => keywords.flatMap (·.ownViolations keywords .null)
  | .bool b => keywords.flatMap (·.ownViolations keywords (.bool b))
  | .int n => keywords.flatMap (·.ownViolations keywords (.int n))
  | .float x => keywords.flatMap (·.ownViolations keywords (.float x))
  | .text s => keywords.flatMap (·.ownViolations keywords (.text s))
termination_by structural v => v

def itemViolations (keywords : List Keyword) : List Value → List Violation
  | [] => []
  | v :: rest => violations keywords v ++ itemViolations keywords rest
termination_by structural vs => vs

/-- The violations by the members of a map, whose keys say what is demanded. -/
def memberViolations (keywords : String → List Keyword) :
    List (String × Value) → List Violation
  | [] => []
  | (key, v) :: rest => violations (keywords key) v ++ memberViolations keywords rest
termination_by structural es => es

end

def Contract.violations (document : Value) : List Violation :=
  ServiceContract.violations schemaKeywords document

/-- The violations by the document that a text writes, if it can be read. -/
def Contract.textViolations? (text : String) : Option (List Violation) :=
  (Yaml.read? text).map violations

/-- The sentences for violations. A validator comes to them in an order of its own, which is left
open: here they stand in the order of their characters. -/
def violationMessages (vs : List Violation) : List String :=
  (vs.map Violation.message).mergeSort fun a b => a ≤ b

end ServiceContract
