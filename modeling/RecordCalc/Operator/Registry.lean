/-
  Registries of operators. Ids are unique, and so is every name by which a formula calls an
  operator. A frozen registry takes no more operators; its clone does.
-/
import RecordCalc.Operator.Basic

namespace RecordCalc

/-- Operators in the order of their registration. -/
structure Registry where
  operators : List Operator
  /-- The names of calls, each with the id of its operator. -/
  names : List (String × String)
  frozen : Bool

namespace Registry

/-- A registry without operators. -/
def empty : Registry := ⟨[], [], false⟩

/-- The operator of an id. -/
def find? (r : Registry) (id : String) : Option Operator := r.operators.find? (·.id == id)

/-- Whether an id is taken. -/
def contains (r : Registry) (id : String) : Bool := (r.find? id).isSome

/-- The operator of an id; a failure when there is none. -/
def get (r : Registry) (id : String) : Except Failure Operator :=
  match r.find? id with
  | some o => .ok o
  | none => .error (.operatorNotFound id)

/-- The id that a name of calls stands for. -/
def idOf? (r : Registry) (name : String) : Option String :=
  (r.names.find? (·.1 == name)).map (·.2)

/-- The operator that a call by some name, in any letter case, stands for. -/
def resolve? (r : Registry) (name : String) : Option Operator :=
  (r.idOf? (Text.upper name)).bind r.find?

/-- The registry with one more operator. -/
def register (r : Registry) (o : Operator) : Except Failure Registry :=
  if r.frozen then .error (.registryFrozen o.id)
  else if r.contains o.id then .error (.duplicateOperator o.id)
  else
    match o.callNames.find? (fun name => (r.idOf? name).isSome) with
    | some name => .error (.duplicateOperator name)
    | none =>
      .ok { r with operators := r.operators ++ [o], names := r.names ++ o.callNames.map (·, o.id) }

/-- The registry of some operators, up to the first that cannot be registered. -/
def ofList (os : List Operator) : Except Failure Registry := os.foldlM register empty

/-- The registry, closed to more operators. -/
def freeze (r : Registry) : Registry := { r with frozen := true }

/-- A copy that is open to more operators. -/
def clone (r : Registry) : Registry := { r with frozen := false }

/-- The number of operators. -/
def size (r : Registry) : Nat := r.operators.length

/-- The ids in the order of registration. -/
def ids (r : Registry) : List String := r.operators.map (·.id)

/-- The names of calls in the order of code points. -/
def callNames (r : Registry) : List String := (r.names.map (·.1)).mergeSort (· ≤ ·)

/-- The operators of a category. -/
def inCategory (r : Registry) (c : Category) : List Operator :=
  r.operators.filter (·.category == c)

/-- The categories that have operators, in the order of their first ones. -/
def categories (r : Registry) : List Category := (r.operators.map (·.category)).eraseDups

/-- The categories as a listing shows them. -/
def categoriesText (r : Registry) : String :=
  "_RegistryView([" ++ Text.join ", " (r.categories.map (·.shown)) ++ "])"

/-- The registry as it is shown. -/
def shown (r : Registry) : String :=
  "OperatorRegistry(operators=" ++ toString r.size ++ ", frozen=" ++
    (if r.frozen then "True" else "False") ++ ")"

end Registry

end RecordCalc
