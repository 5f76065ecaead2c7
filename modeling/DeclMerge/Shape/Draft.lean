import DeclMerge.Shape.Basic

/-!
# Drafts of shapes

A draft is a value that somebody offers as a shape. Checking it reports every part that is wrong,
in the order kind, name, signature; nothing is converted, and only the name may be missing or
null. A shape that passed the check never changes: assignments are refused, except to private
names, which belong to no shape.
-/
namespace DeclMerge

/-- What stands under one field of a draft. -/
inductive Draft.Part where
  | absent
  | null
  | text (value : String)
  | other
  deriving DecidableEq, Repr

/-- A value offered as a shape: a record, of which three fields count, or something else. -/
inductive Draft where
  | record (kind name signature : Draft.Part)
  | other
  deriving DecidableEq, Repr

/-- Why a draft is no shape, or why a shape cannot be changed. -/
inductive Draft.Problem where
  | missing (field : String)
  | notText (field : String)
  | notRecord
  | frozen (field : String)
  deriving DecidableEq, Repr

namespace Draft

/-- The text of a field that must be there. -/
def Part.required (field : String) : Part → Except Problem String
  | .text value => .ok value
  | .absent => .error (.missing field)
  | .null | .other => .error (.notText field)

/-- The text of a field that may be missing or null. -/
def Part.optional (field : String) : Part → Except Problem (Option String)
  | .text value => .ok (some value)
  | .absent | .null => .ok none
  | .other => .error (.notText field)

/-- The problem of a checked part, if it has one. -/
def problems {α : Type} : Except Problem α → List Problem
  | .ok _ => []
  | .error problem => [problem]

/-- The shape that a draft describes, or all its problems. -/
def check : Draft → Except (List Problem) Shape
  | .other => .error [.notRecord]
  | .record kind name signature =>
    match kind.required "kind", name.optional "name", signature.required "signature" with
    | .ok kind, .ok name, .ok signature => .ok { kind, name, signature }
    | kind, name, signature => .error (problems kind ++ problems name ++ problems signature)

/-- The draft that a shape passes for. -/
def ofShape (shape : Shape) : Draft :=
  .record (.text shape.kind) (shape.name.elim .null .text) (.text shape.signature)

theorem check_ofShape (shape : Shape) : (ofShape shape).check = .ok shape := by
  obtain ⟨kind, _ | name, signature⟩ := shape <;> rfl

end Draft

/-- A name is private if an underscore leads it. -/
def isPrivateName (name : String) : Bool := name.toList.head? = some '_'

/-- The shape after an assignment, whatever the value. What is kept under a private name is no
part of the shape; every other name is refused, whether a shape has such a part or not. -/
def Shape.assign (shape : Shape) (field : String) : Except (List Draft.Problem) Shape :=
  if isPrivateName field then .ok shape else .error [.frozen field]

/-- No assignment changes a shape. -/
theorem Shape.eq_of_assign {shape after : Shape} {field : String}
    (assigned : shape.assign field = .ok after) : after = shape := by
  unfold assign at assigned
  split at assigned
  · cases assigned
    rfl
  · cases assigned

end DeclMerge
