import NetworkOperator.Api.V1alpha1

/-!
# Validator — field paths, field errors and run-time panics

What the validator of `api/v1alpha1/validator/nicclusterpolicy_webhook.go` reports: a
`field.ErrorList` of `field.Invalid` and `field.Forbidden` errors, each with the path of the
field it is about, the value it reports and its detail; and, when the list is not empty,
`apierrors.NewInvalid` for the `NicClusterPolicy`.  Where the Go code can panic at run time
(a nil pointer dereferenced, a type assertion that fails) the model returns a `Panic` in
`Except`.
-/

namespace NetworkOperator.Validator

open NetworkOperator.V1alpha1

/-- A `field.Path`, its segments root first. -/
structure Path where
  segments : List String
  deriving DecidableEq, Repr

/-- `field.NewPath(name)`. -/
def Path.newPath (name : String) : Path := ⟨[name]⟩

/-- `Path.Child(name)`. -/
def Path.child (p : Path) (name : String) : Path := ⟨p.segments ++ [name]⟩

@[simp] theorem Path.child_segments (p : Path) (name : String) : (p.child name).segments = p.segments ++ [name] := rfl

@[simp] theorem Path.newPath_segments (name : String) : (Path.newPath name).segments = [name] := rfl

theorem Path.prefix_child (p : Path) (name : String) : p.segments <+: (p.child name).segments :=
  List.prefix_append _ _

/-- `Path.String()`: the segments joined by dots. -/
def Path.toString (p : Path) : String := ".".intercalate p.segments

/-- `field.ErrorType`, for the two kinds the validator reports. -/
inductive ErrorType where
  | invalid
  | forbidden
  deriving DecidableEq, Repr

/-- The value a `field.Error` reports, as the validator passes it. -/
inductive BadValue where
  | none
  | string (s : String)
  | config (c : Option String)
  | quantity (q : ℚ)
  | resources (rs : List ResourceRequirements)

/-- A `field.Error`. -/
structure FieldError where
  type : ErrorType
  field : Path
  badValue : BadValue
  detail : String

/-- `field.Invalid(path, value, detail)`. -/
def invalid (path : Path) (value : BadValue) (detail : String) : FieldError :=
  ⟨.invalid, path, value, detail⟩

/-- `field.Forbidden(path, detail)`. -/
def forbidden (path : Path) (detail : String) : FieldError := ⟨.forbidden, path, .none, detail⟩

/-- `apierrors.NewInvalid(schema.GroupKind{...}, name, errs)`. -/
structure StatusError where
  group : String
  kind : String
  name : String
  errs : List FieldError

/-- A Go run-time panic. -/
inductive Panic where
  | nilPointerDereference
  | typeAssertion (expected : String)
  deriving DecidableEq, Repr

end NetworkOperator.Validator
