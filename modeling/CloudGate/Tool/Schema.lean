import CloudGate.Rule.Credential
import CloudGate.Tool.Registry

/-!
The description of tools as JSON schemas, for callers that choose tools by their description.
-/

namespace CloudGate

/-- What an element of an array parameter looks like. -/
def itemSchema (param : String) : Json :=
  if param = "bucket_access" then
    .object
      [("type", .str "object"),
       ("properties", .object
         [("bucket_name", .object [("type", .str "string")]),
          ("region", .object [("type", .str "string")]),
          ("permissions", .object
            [("type", .str "string"), ("enum", .strings Rule.accessKeyPermissions)])]),
       ("required", .strings ["bucket_name", "region", "permissions"])]
  else .object [("type", .str "string")]

/-- Types other than those of JSON count as text. -/
def Parameter.schema (p : Parameter) : Json :=
  if p.type = "integer" ∨ p.type = "number" ∨ p.type = "boolean" then
    .object [("type", .str p.type), ("description", .str p.description)]
  else if p.type = "array" then
    .object
      [("type", .str "array"), ("items", itemSchema p.name), ("description", .str p.description)]
  else .object [("type", .str "string"), ("description", .str p.description)]

namespace Tool

/-- The schemas of the parameters. Of parameters of one name the last one counts. -/
def properties (t : Tool) : Fields Json :=
  Fields.ofList (t.parameters.map fun p => (p.name, p.schema))

def requiredNames (t : Tool) : List String :=
  (t.parameters.filter (·.required)).map (·.name)

def schema (t : Tool) : Json :=
  .object
    [("name", .str t.name),
     ("description", .str t.description),
     ("classifications", .strings (t.classifications.map (·.name))),
     ("input_schema", .object
       [("type", .str "object"),
        ("properties", .obj t.properties),
        ("required", .strings t.requiredNames)])]

end Tool

namespace Registry

def schemas (r : Registry) : List Json := r.all.map (·.schema)

def readOnlySchemas (r : Registry) : List Json := r.readOnly.map (·.schema)

end Registry

end CloudGate
