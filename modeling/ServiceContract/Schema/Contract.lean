import ServiceContract.Schema

/-!
# The schema of contracts
-/

namespace ServiceContract

namespace Schema

def string : Schema := .demands [.type .string]

/-- A string with at least one character. -/
def nonEmptyString : Schema := .demands [.type .string, .minLength 1]

def strings : Schema := .demands [.type .array, .items string]

/-- A truth value. -/
def boolean : Schema := .demands [.type .boolean]

end Schema

namespace Contract

open Schema (string nonEmptyString strings boolean)

/-- Keys that extensions may use. -/
def extensionKeys : Pattern := { beginning := "x-" }

/-- The title, the version and what belongs to them. -/
def infoSchema : Schema := .demands [
  .type .object,
  .required ["title", "version"],
  .properties [
    ("title", nonEmptyString),
    ("description", string),
    ("version", nonEmptyString),
    ("x-external-sla-file", .demands [
      .type .object,
      .required ["$ref"],
      .properties [("$ref", nonEmptyString)],
      .closed]),
    ("x-openslo", .demands [.type .array, .items nonEmptyString, .uniqueItems])],
  .patternProperties extensionKeys,
  .closed]

def tagsSchema : Schema := .demands [
  .type .array,
  .items (.demands [
    .type .object,
    .required ["name"],
    .properties [("name", nonEmptyString), ("description", string)],
    .closed])]

def pathsSchema : Schema := .demands [
  .type .object,
  .propertyNames (.pattern { beginning := "/" }),
  .additional (.defined .pathItem)]

/-- The named types. -/
def componentsSchema : Schema := .demands [
  .type .object,
  .properties [("schemas", .demands [
    .type .object,
    .propertyNames (.pattern { beginning := "", rest := some .nameCharacter }),
    .additional (.defined .typeSchema)])]]

def schemaKeywords : List Keyword := [
  .type .object,
  .required ["openapi", "info", "paths"],
  .properties [
    ("openapi", .demands [
      .type .string, .pattern { beginning := "3.0.", rest := some .digit }]),
    ("info", infoSchema),
    ("tags", tagsSchema),
    ("paths", pathsSchema),
    ("components", componentsSchema)],
  .patternProperties extensionKeys,
  .closed]

def bodySchema : Schema := .demands [
  .type .object,
  .required ["content"],
  .properties [("required", boolean), ("content", .defined .content)]]

def responsesSchema : Schema := .demands [
  .type .object,
  .minProperties 1,
  .additional (.demands [
    .type .object,
    .required ["description"],
    .properties [("description", string), ("content", .defined .content)]])]

/-- The schemas of the members of a schema. -/
def typeMembers : List (String × Schema) := [
  ("$ref", .demands [.type .string, .pattern { beginning := "#/components/schemas/" }]),
  ("type", .demands [.oneOf ["object", "array", "string", "integer", "number", "boolean"]]),
  ("format", string),
  ("nullable", boolean),
  ("items", .defined .typeSchema),
  ("allOf", .demands [.type .array, .items (.defined .typeSchema)]),
  ("properties", .demands [.type .object, .additional (.defined .typeSchema)]),
  ("required", .demands [.type .array, .items string, .uniqueItems])]

end Contract

open Schema (string nonEmptyString strings boolean)

/-- The demands of the schemas that are defined aside. -/
def Definition.keywords : Definition → List Keyword
  | pathItem => [
    .type .object,
    .propertyNames (.oneOf ["get", "put", "post", "patch", "delete"]),
    .additional (.defined .operation)]
  | operation => [
    .type .object,
    .required ["responses"],
    .properties [
      ("tags", strings),
      ("summary", string),
      ("operationId", nonEmptyString),
      ("requestBody", Contract.bodySchema),
      ("responses", Contract.responsesSchema)]]
  | content => [
    .type .object,
    .additional (.demands [.type .object, .properties [("schema", .defined .typeSchema)]])]
  | typeSchema => [
    .type .object,
    .properties Contract.typeMembers,
    .dependentRequired "items" ["type"]]

/-- The schema of contracts as a document, with the definitions aside. -/
def Contract.schema : Value :=
  .map (("$schema", .text "https://json-schema.org/draft/2020-12/schema") ::
    (encodeKeywords schemaKeywords ++
      [("$defs", .map ([.pathItem, .operation, .content, .typeSchema].map fun d : Definition =>
        (d.name, .map (encodeKeywords d.keywords))))]))

end ServiceContract
