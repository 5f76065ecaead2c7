/-!
# Shapes

A shape is one thing that a declaration contributes: an entry of a body, the call of a function,
what an alias stands for, an entry of an enumeration, a variable. Two shapes are the same when
their three parts are equal, wherever they were declared.
-/
namespace DeclMerge

structure Shape where
  -- The kind of the entry, such as `property_signature` or `type_alias`.
  kind : String
  name : Option String := none
  -- The normal form of the source text, without bodies.
  signature : String
  deriving DecidableEq, Repr

end DeclMerge
