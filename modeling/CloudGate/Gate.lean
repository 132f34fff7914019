/-!
The gate before operations that change something: they need the explicit consent of the caller. What
kind of change it is decides which warnings the refusal gives.
-/

namespace CloudGate

/-- Why an operation needs consent. The order is that of the warnings. -/
inductive Classification
  | irreversible
  | billable
  | secretExposure
  | configurationChange
  deriving DecidableEq, Repr

namespace Classification

def all : List Classification := [.irreversible, .billable, .secretExposure, .configurationChange]

def name : Classification → String
  | .irreversible => "irreversible"
  | .billable => "billable"
  | .secretExposure => "secret_exposure"
  | .configurationChange => "configuration_change"

def warning : Classification → String
  | .irreversible =>
    "This operation is irreversible: the resource and its data are permanently destroyed and " ++
      "cannot be recovered."
  | .billable => "This operation creates a billable resource."
  | .secretExposure =>
    "The response contains a secret (such as the secret_key of an access key) that is shown " ++
      "exactly once and cannot be retrieved again; store it securely."
  | .configurationChange => "This operation changes the configuration of a live resource."

/-- The place of a classification in the order of the warnings. -/
def rank : Classification → Nat
  | .irreversible => 0
  | .billable => 1
  | .secretExposure => 2
  | .configurationChange => 3

/-- Puts a classification in front of the first one that does not come before it. -/
def place (c : Classification) : List Classification → List Classification
  | [] => [c]
  | d :: rest => if c.rank ≤ d.rank then c :: d :: rest else d :: place c rest

def sort : List Classification → List Classification := List.foldr place []

/-- The members of a list in the order of the warnings, each of them once. -/
def distinct (classes : List Classification) : List Classification := (sort classes).eraseReps

end Classification

namespace Gate

/-- The argument that gives consent. -/
def confirmName : String := "confirm"

/-- A refusal, with the distinct classifications that caused it. -/
structure Refusal where
  classifications : List Classification
  deriving DecidableEq, Repr

def Refusal.message (r : Refusal) : String :=
  " ".intercalate (r.classifications.map (·.warning)) ++ " Set confirm=true to proceed."

/-- Lets a call pass that has consent or needs none. -/
def pass (confirmed : Bool) (classes : List Classification) : Except Refusal Unit :=
  if confirmed || classes.isEmpty then .ok () else .error ⟨Classification.distinct classes⟩

end Gate

end CloudGate
