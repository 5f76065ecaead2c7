import DeclMerge.Output.Kind
import DeclMerge.Shape.Draft
import DeclMerge.Text.Quoted
import DeclMerge.Text.Utf8

/-!
# Faults

Why an operation did not succeed, and how that is worded.
-/
namespace DeclMerge

inductive Fault where
  -- A text is not UTF-8.
  | undecodable (fault : Utf8.Fault)
  -- No item, or an item of this kind, was asked for what it does not have.
  | lacking (receiver : Option Kind) (feature : Feature)
  -- A scope that is none of the known ones.
  | unknownScope
  -- A draft is no shape.
  | invalid (problems : List Draft.Problem)
  -- An item has no child under this name.
  | noChild (key : String)
  -- A label under which nothing was kept.
  | unknownLabel (label : String)
  deriving DecidableEq, Repr

/-- The wording. The problems of a draft are told one by one, so there is no text for them. -/
def Fault.message : Fault → Option String
  | .undecodable fault => some fault.message
  | .lacking receiver feature =>
    some ("'" ++ (receiver.map Kind.label).getD "NoneType" ++ "' object has no attribute '"
      ++ feature.label ++ "'")
  | .unknownScope => some "Expected code to be unreachable, but got: None"
  | .invalid _ => none
  | .noChild key => some (Text.quote key)
  | .unknownLabel label => some (Text.quote label)

end DeclMerge
