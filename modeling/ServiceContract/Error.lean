import ServiceContract.TypeGraph.Registry

/-!
# Why nothing is generated
-/

namespace ServiceContract

/-- What a name can refer to. -/
inductive ReferenceKind where
  | indicator
  | alertPolicy
  | notificationTarget
  | service
  | dataSource
deriving DecidableEq

def ReferenceKind.words : ReferenceKind → String
  | indicator => "indicator"
  | alertPolicy => "alert policy"
  | notificationTarget => "notification target"
  | service => "service"
  | dataSource => "data source"

/-- Why a generation run fails. -/
inductive GenerationError where
  /-- A file or directory cannot be read or written. -/
  | io (what : String)
  /-- A text that was written cannot be read back. -/
  | serialization
  /-- A specification is refused. -/
  | input (reason : String)
  /-- A specification is no well-formed text. -/
  | inputSyntax
  | model (error : ModelError)
  | unresolvedReference (kind : ReferenceKind) (name : String)
  | duplicateOperation (method : Method) (path : String)
  | missingTemplates
  | findingsRejected (findings messages : Nat)
  | duplicateArtifact (path : String)
  | missingArtifact (path : String)
  | artifactMismatch (path : String)
  | unexpectedArtifact (path : String)
  | outputPath (path : String)
deriving DecidableEq

def GenerationError.message : GenerationError → String
  | io what => "io error: " ++ what
  | serialization => "serialization error: contract reparse failed"
  | input reason => "input error: " ++ reason
  | inputSyntax => "input error: malformed text"
  | model error => error.message
  | unresolvedReference kind name => "unresolved " ++ kind.words ++ " reference: " ++ name
  | duplicateOperation method path => "duplicate operation: " ++ method.keyword ++ " " ++ path
  | missingTemplates => "no SLO templates defined"
  | findingsRejected findings messages =>
    "generation rejected: " ++ toString findings ++ " finding(s), " ++ toString messages ++
      " validator message(s)"
  | duplicateArtifact path => "contract generation error: duplicate artifact: " ++ path
  | missingArtifact path => "contract generation error: missing artifact: " ++ path
  | artifactMismatch path => "contract generation error: artifact mismatch: " ++ path
  | unexpectedArtifact path => "contract generation error: unexpected artifact: " ++ path
  | outputPath path => "invalid output path: " ++ path

end ServiceContract
