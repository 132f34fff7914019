import CloudGate.Tool.Definition

/-!
Shorthands for the parameters that many tools of the catalog share.
-/

namespace CloudGate.Catalog

def required (name description : String) : Parameter :=
  { name, description, required := true, type := "string" }

def optional (name description : String) : Parameter :=
  { name, description, required := false, type := "string" }

def withType (p : Parameter) (type : String) : Parameter := { p with type }

/-- The identifier of the resource that the operation is about. -/
def identifier (name description : String) : Parameter :=
  withType (required name description) "integer"

/-- A tool with parameters, classifications and argument rules. -/
def tool (name description : String) (parameters : List Parameter)
    (classes : List Classification) (rules : ArgumentRules) : Tool :=
  (classes.foldl Tool.addClassification
    (parameters.foldl Tool.addParameter { name, description })).setRules rules

/-- A tool that lists resources. -/
def listing (name description : String) (filters : List (String × MatchMode)) : Tool :=
  filters.foldl (fun t (key, mode) => t.addFilter key key mode) { name, description }

def byLabel : String × MatchMode := ("label", .contains)

def byRegion : String × MatchMode := ("region", .exact)

end CloudGate.Catalog
