import ServiceContract.Codec.Agreement
import ServiceContract.Codec.Payload
import ServiceContract.Codec.Reliability
import ServiceContract.Specification

/-!
# The tree form of a specification
-/

namespace ServiceContract.Specification

open Codec

def type : RecordType :=
  { title := "struct ServiceSpecification",
    fields := ["name", "version", "description", "data_types", "endpoints", "sla_templates",
      "slo_templates", "indicators", "alert_policies", "notification_targets", "data_sources",
      "services"] }

def decode : Decoder Specification := fun d v => do
  let m ← members d type.title v
  build d type m (mk <$> required type m "name" (text d)
    <*> field type m "version" (some none) (optional text d)
    <*> field type m "description" (some none) (optional text d)
    <*> field type m "data_types" (some []) (listOf TypeDeclaration.decode d)
    <*> field type m "endpoints" (some []) (listOf EndpointDeclaration.decode d)
    <*> field type m "sla_templates" (some []) (listOf AgreementTemplate.decode d)
    <*> field type m "slo_templates" (some []) (listOf ObjectiveTemplate.decode d)
    <*> field type m "indicators" (some []) (listOf Indicator.decode d)
    <*> field type m "alert_policies" (some []) (listOf AlertPolicy.decode d)
    <*> field type m "notification_targets" (some []) (listOf NotificationTarget.decode d)
    <*> field type m "data_sources" (some []) (listOf DataSource.decode d)
    <*> field type m "services" (some []) (listOf Service.decode d))

def encode (x : Specification) : Value :=
  .map [("name", .text x.name), ("version", encodeOption .text x.version),
    ("description", encodeOption .text x.description),
    ("data_types", encodeList TypeDeclaration.encode x.dataTypes),
    ("endpoints", encodeList EndpointDeclaration.encode x.endpoints),
    ("sla_templates", encodeList AgreementTemplate.encode x.agreementTemplates),
    ("slo_templates", encodeList ObjectiveTemplate.encode x.objectiveTemplates),
    ("indicators", encodeList Indicator.encode x.indicators),
    ("alert_policies", encodeList AlertPolicy.encode x.alertPolicies),
    ("notification_targets", encodeList NotificationTarget.encode x.notificationTargets),
    ("data_sources", encodeList DataSource.encode x.dataSources),
    ("services", encodeList Service.encode x.services)]

end ServiceContract.Specification
