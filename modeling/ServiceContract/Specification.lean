import ServiceContract.Specification.Agreement
import ServiceContract.Specification.Declaration
import ServiceContract.Specification.Reliability

/-!
# Service specifications
-/

namespace ServiceContract

/-- Everything that is declared about one service. -/
structure Specification where
  name : String
  version : Option String
  description : Option String
  dataTypes : List TypeDeclaration
  endpoints : List EndpointDeclaration
  agreementTemplates : List AgreementTemplate
  objectiveTemplates : List ObjectiveTemplate
  indicators : List Indicator
  alertPolicies : List AlertPolicy
  notificationTargets : List NotificationTarget
  dataSources : List DataSource
  services : List Service
deriving DecidableEq

end ServiceContract
