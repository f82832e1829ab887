import ServiceContract.Finding
import ServiceContract.Generation.Artifact
import ServiceContract.Schema.Check

/-!
# Generation runs

From a specification to artifacts, without a look at any directory. Of several faults the one counts
that is met first: those of the model, of the objectives, of the contract, then the findings, then
the names of files.
-/

namespace ServiceContract

/-- The outcome of a run. -/
structure Generation where
  /-- The artifacts, in the order of their paths. -/
  artifacts : List Artifact
  findings : List Finding
  /-- What is wrong with the contract. -/
  violations : List Violation
deriving DecidableEq

namespace Generation

/-- Whether there is nothing to remark. -/
def isClean (g : Generation) : Bool := g.findings.isEmpty && g.violations.isEmpty

def artifact? (g : Generation) (path : String) : Option Artifact :=
  g.artifacts.find? (·.path = path)

/-- The sentences for what is wrong with the contract. -/
def messages (g : Generation) : List String := violationMessages g.violations

end Generation

namespace Specification

variable (s : Specification) (c : Configuration) (baseName : String)

def model : Except GenerationError Model :=
  (Model.build s.dataTypes s.endpoints).mapError .model

def heading : Contract.Heading :=
  ⟨s.name, s.description, s.version.getD c.contract.defaultVersion⟩

/-- The name of the file of agreements, if there are any. -/
def agreementFile : Option String :=
  if s.agreementTemplates.isEmpty then none else some (Agreement.fileName baseName)

/-- The artifact of agreements, if there are any. -/
def agreementArtifacts : List Artifact :=
  (s.agreementFile baseName).toList.map fun path =>
    ⟨path, Yaml.render (Agreement.document s.agreementTemplates)⟩

/-- The bundles of objectives, if there are any. -/
def reliabilityBundles : Except GenerationError (List ReliabilityBundle) :=
  if s.objectiveTemplates.isEmpty then .ok []
  else Reliability.render c.reliability.thresholdObjectives s baseName

/-- The contract with the names of the other files. -/
def contract (model : Model) (bundles : List ReliabilityBundle) : Except GenerationError Value :=
  (Contract.render (s.heading c) model).map
    (Contract.attach (s.agreementFile baseName) (bundles.map (·.fileName)))

/-- The violations by the text of a contract, if they are asked for. -/
def contractViolations (text : String) : Except GenerationError (List Violation) :=
  if c.contract.runValidator then
    match Contract.textViolations? text with
    | some violations => .ok violations
    | none => .error .serialization
  else .ok []

/-- Builds all artifacts. -/
def generate : Except GenerationError Generation := do
  let model ← s.model
  let bundles ← s.reliabilityBundles c baseName
  let contract ← s.contract c baseName model bundles
  let text := Yaml.render contract
  let findings := s.findings c.validation
  let violations ← contractViolations c text
  if c.validation.failOnFindings && !(findings.isEmpty && violations.isEmpty) then
    throw (.findingsRejected findings.length violations.length)
  let artifacts := sortByPath (s.agreementArtifacts baseName ++
    bundles.map (fun b => ⟨b.fileName, b.text⟩) ++ [⟨Contract.fileName baseName, text⟩])
  checkNames [] artifacts
  return ⟨artifacts, findings, violations⟩

end Specification

end ServiceContract
