import DeclMerge.Proofs.Text.Append
import Mathlib.Data.List.Basic

/-!
# Chains of names

A chain of names is written with a separator between them. Joining can be done in parts
(`intercalate_flatten`), so a name that carries separators counts as the names in between. A chain
can be read back from what is written if its names are words or stand in quotes: a text in quotes
may carry the separator, but what comes before the separator lacks the second quote and is no name
itself (`IsName.ne_joined`). So no name can be taken for the beginning of another one, and
different chains are written differently (`intercalate_inj`).
-/
namespace DeclMerge.Text

section Join

variable {separator : String}

theorem intercalate_split (before after : List String) (left right : String) :
    separator.intercalate (before ++ (left ++ separator ++ right) :: after) =
      separator.intercalate (before ++ left :: right :: after) := by
  induction before with
  | nil => simp only [List.nil_append, String.intercalate_cons_append, String.intercalate_cons_cons,
      String.append_assoc]
  | cons first rest ih =>
    rw [List.cons_append, List.cons_append, String.intercalate_cons_of_ne_nil (by simp),
      String.intercalate_cons_of_ne_nil (by simp), ih]

/-- What is joined part by part is joined. -/
theorem intercalate_flatten {parts : List (List String)} (nonempty : ∀ part ∈ parts, part ≠ []) :
    separator.intercalate (parts.map separator.intercalate) =
      separator.intercalate parts.flatten := by
  induction parts with
  | nil => rfl
  | cons part rest ih =>
    have further := ih fun other member => nonempty other (List.mem_cons_of_mem part member)
    cases rest with
    | nil => simp
    | cons next others =>
      have filled : (next :: others).flatten ≠ [] := by
        have first := nonempty next (by simp)
        simp [first]
      have split : (part :: next :: others).flatten = part ++ (next :: others).flatten :=
        List.flatten_cons
      rw [split, List.map_cons, String.intercalate_cons_of_ne_nil (by simp), further,
        String.intercalate_append_of_ne_nil (nonempty part List.mem_cons_self) filled]

end Join

section Reading

variable {mark : Char}

theorem intercalate_cons_eq_joined {rest : List String} (more : rest ≠ []) (name : String) :
    (String.singleton mark).intercalate (name :: rest) =
      joined mark name ((String.singleton mark).intercalate rest) :=
  String.intercalate_cons_of_ne_nil more

/-- Chains are written apart if no name in them begins with another name and the mark. -/
theorem intercalate_inj {IsName : String → Prop}
    (apart : ∀ name other, IsName name → IsName other → ∀ rest, other ≠ joined mark name rest)
    {left right : List String} (here : left ≠ []) (there : right ≠ [])
    (names : ∀ name ∈ left, IsName name) (others : ∀ name ∈ right, IsName name)
    (same : (String.singleton mark).intercalate left = (String.singleton mark).intercalate right) :
    left = right := by
  induction left generalizing right with
  | nil => exact absurd rfl here
  | cons name rest ih =>
    obtain ⟨other, more, rfl⟩ := List.exists_cons_of_ne_nil there
    have forth := apart name other (names name List.mem_cons_self) (others other List.mem_cons_self)
    have back := apart other name (others other List.mem_cons_self) (names name List.mem_cons_self)
    -- Where one chain ends, the other one ends too.
    by_cases last : rest = [] <;> by_cases ends : more = []
    · rw [last, ends, String.intercalate_singleton, String.intercalate_singleton] at same
      rw [last, ends, same]
    · rw [last, String.intercalate_singleton, intercalate_cons_eq_joined ends] at same
      exact absurd same (back _)
    · rw [ends, String.intercalate_singleton, intercalate_cons_eq_joined last] at same
      exact absurd same.symm (forth _)
    · rw [intercalate_cons_eq_joined last, intercalate_cons_eq_joined ends,
        joined_eq_joined_iff] at same
      rcases same with ⟨first, further⟩ | ⟨part, longer, _⟩ | ⟨part, longer, _⟩
      · rw [first, ih last ends (fun x member => names x (List.mem_cons_of_mem name member))
          (fun x member => others x (List.mem_cons_of_mem other member)) further]
      · exact absurd longer (forth part)
      · exact absurd longer (back part)

end Reading

/-- A word, without a dot or a quote in it. -/
def Plain (name : String) : Prop :=
  '.' ∉ name.toList ∧ '"' ∉ name.toList ∧ '\'' ∉ name.toList

instance : DecidablePred Plain := fun _ => inferInstanceAs (Decidable (_ ∧ _ ∧ _))

/-- A text between two quotes of one kind, without that quote in it. -/
def InQuotes (name : String) : Prop :=
  ∃ quote ∈ ['"', '\''], ∃ content : String, quote ∉ content.toList ∧
    name = .singleton quote ++ content ++ .singleton quote

def IsName (name : String) : Prop := Plain name ∨ InQuotes name

theorem Plain.ne_joined {name : String} (plain : Plain name) (left right : String) :
    name ≠ joined '.' left right := by
  rintro rfl
  exact plain.1 (by simp [joined])

theorem Plain.quote_notMem {name : String} (plain : Plain name) :
    ∀ quote ∈ ['"', '\''], quote ∉ name.toList := by
  simpa using plain.2

/-- What comes before a dot in quotes is not a name: it has the first quote without the second. -/
theorem InQuotes.ne_joined {name other : String} (quoted : InQuotes other) (is : IsName name)
    (rest : String) : other ≠ joined '.' name rest := by
  obtain ⟨quote, mark, content, inside, rfl⟩ := quoted
  intro same
  have chars := congrArg String.toList same
  simp only [joined, String.toList_append, String.toList_singleton, List.append_assoc,
    List.singleton_append] at chars
  rcases is with plain | ⟨other, _, shorter, _, rfl⟩
  · cases begins : name.toList with
    | nil =>
      rw [begins] at chars
      have dot : quote = '.' := (List.cons.inj chars).1
      rw [dot] at mark
      exact absurd mark (by decide)
    | cons first more =>
      rw [begins] at chars
      have starts : quote = first := (List.cons.inj chars).1
      exact plain.quote_notMem quote mark (by rw [begins, starts]; exact List.mem_cons_self)
  · simp only [String.toList_append, String.toList_singleton, List.append_assoc,
      List.cons_append, List.nil_append] at chars
    obtain ⟨rfl, behind⟩ := List.cons.inj chars
    -- The next quote ends both texts, but the dot comes after it.
    obtain ⟨_, _, ends⟩ :=
      (List.append_cons_inj_of_notMem inside List.not_mem_nil).mp behind
    cases ends

theorem IsName.ne_joined (name other : String) (is : IsName name) (is_also : IsName other)
    (rest : String) : other ≠ joined '.' name rest := by
  rcases is_also with plain | quoted
  · exact plain.ne_joined name rest
  · exact quoted.ne_joined is rest

end DeclMerge.Text
