/-!
# Notes

What the library notes down while it names and registers declarations. A note keeps what
happened; `Note.text` words it.
-/
namespace DeclMerge

/-- Why a declaration in a namespace goes by its bare name. -/
inductive Fallback where
  | noSession
  | noNameNode
  | noSymbol
  deriving DecidableEq, Repr

inductive Note where
  | bareName (why : Fallback) (name space : String)
  | moduleCreated (name : String)
  | registered (key : String)
  -- How many shapes were new, and how many there are after them.
  | merged (key : String) (added total : Nat)
  deriving DecidableEq, Repr

/-- The part of the library that a note comes from. -/
inductive Note.Topic where
  | key
  | catalog
  deriving DecidableEq, Repr

def Note.topic : Note → Topic
  | .bareName .. => .key
  | .moduleCreated _ | .registered _ | .merged .. => .catalog

def Note.quoted (text : String) : String := "'" ++ text ++ "'"

def Note.text : Note → String
  | .bareName .noSession name space =>
    "No symbol session, naming " ++ quoted name ++ " in namespace " ++ quoted space
      ++ " by its bare name"
  | .bareName .noNameNode name space =>
    "Declaration " ++ quoted name ++ " in namespace " ++ quoted space
      ++ " has no name node, using bare name"
  | .bareName .noSymbol name space =>
    "No symbol found for " ++ quoted name ++ " in namespace " ++ quoted space
      ++ ", using bare name"
  | .moduleCreated name => "Created module node " ++ quoted name
  | .registered key => "Registered declaration " ++ quoted key
  | .merged key added total =>
    "Merged " ++ quoted key ++ ": " ++ added.repr ++ " new member(s), " ++ total.repr ++ " total"

end DeclMerge
