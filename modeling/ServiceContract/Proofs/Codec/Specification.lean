import ServiceContract.Codec.Specification
import ServiceContract.Proofs.Codec.Payload
import ServiceContract.Proofs.Codec.Reliability

/-!
# Decoding specifications again

Whatever document a specification was read from, the tree that is written for it is read as the same
specification.
-/

namespace ServiceContract.Specification

open Codec

theorem restores : Restores decode encode := by
  have htypes : Restores TypeDeclaration.decode TypeDeclaration.encode :=
    .of_forall TypeDeclaration.decode_encode
  have hendpoints : Restores EndpointDeclaration.decode EndpointDeclaration.encode :=
    .of_forall EndpointDeclaration.decode_encode
  refine .record rfl fun d m x h => ?_
  simp only [Reading.seq_yields, Reading.map_yields] at h ⊢
  obtain ⟨name, hname, version, hversion, description, hdescription, types, hts, endpoints, hes,
    agreements, hagreements, objectives, hobjectives, indicators, hindicators, policies, hpolicies,
    targets, htargets, dataSources, hdataSources, services, hservices, rfl⟩ := h
  exact ⟨_, text_restores.required hname rfl, _, optionalText_restores.field rfl hversion rfl, _,
    optionalText_restores.field rfl hdescription rfl, _, htypes.listOf.field rfl hts rfl, _,
    hendpoints.listOf.field rfl hes rfl, _,
    AgreementTemplate.restores.listOf.field rfl hagreements rfl, _,
    ObjectiveTemplate.restores.listOf.field rfl hobjectives rfl, _,
    Indicator.restores.listOf.field rfl hindicators rfl, _,
    AlertPolicy.restores.listOf.field rfl hpolicies rfl, _,
    NotificationTarget.restores.listOf.field rfl htargets rfl, _,
    DataSource.restores.listOf.field rfl hdataSources rfl, _,
    Service.restores.listOf.field rfl hservices rfl, rfl⟩

/-- A specification that is read from any form of document is read again from its own tree: numbers
stay the literals they are, what is absent stays absent, and queries are what they were. -/
theorem decode_encode_of_decode {d : Dialect} {v : Value} {s : Specification}
    (h : decode d v = .ok s) : decode .tree s.encode = .ok s :=
  restores d v s h

/-- A document that leaves out what it may and gives some records in order. Its numbers are an
integer, an integral double and an integer that is too large for 64 bits, and it has a query. -/
def looseDocument : Value :=
  .map [("name", .text "Shop"), ("version", .null),
    ("data_types", .list [.list [.text "Order", .map [("parameter_tree", .map [("nodes", .list [
      .map [("tree", .list [.text "item", .list [.map [("node", .map [("atomic",
        .map [("base_type", .text "int")])])]]])]])])]]]),
    ("slo_templates", .list [.map [("name", .text "latency"), ("service", .text "shop"),
      ("indicator", .map [("built_in", .map [("name", .text "time"), ("metric", .map [("threshold",
        .map [("metric_source", .map [("spec", .map [("query", .list [.null,
          .map [("quantile", .float (.ofInt 1))]])])])])])])]),
      ("time_window", .map [("duration", .list [.int 5, .text "d"])]),
      ("budgeting_method", .text "Occurrences"),
      ("objectives", .list [.map [("value", .float (.ofInt 5)),
        ("target", .map [("percent", .int 99)]),
        ("time_slice_target", .int 9223372036854775808)]])]])]

def looseSpecification : Specification where
  name := "Shop"
  version := none
  description := none
  dataTypes := [⟨"Order", .tree ⟨none, [.tree (some "item")
    [.single (.atomic ⟨none, .int, none⟩)] none], none⟩⟩]
  endpoints := []
  agreementTemplates := []
  objectiveTemplates := [{
    name := "latency"
    displayName := none
    description := none
    service := "shop"
    indicator := .builtIn ⟨"time", none, none,
      .threshold ⟨none, none, some (.map [("query", .list [.null,
        .map [("quantile", .float (.ofInt 1))]])])⟩⟩
    timeWindow := ⟨⟨.integer 5, "d"⟩, none, true⟩
    budgetingMethod := "Occurrences"
    objectives := [⟨none, none, some (.decimal (.ofInt 5)), .percent (.ofInt 99),
      some (.decimal (.ofInt 9223372036854775808)), none⟩]
    externalPolicies := []
    builtInPolicies := [] }]
  indicators := []
  alertPolicies := []
  notificationTargets := []
  dataSources := []
  services := []

theorem decode_encode_of_decode_loose :
    decode .tree looseDocument = .ok looseSpecification ∧
      decode .tree looseSpecification.encode = .ok looseSpecification := by
  have h : decode .tree looseDocument = .ok looseSpecification := by decide +kernel
  exact ⟨h, decode_encode_of_decode h⟩

end ServiceContract.Specification
