import DeclMerge.Key
import DeclMerge.Proofs.Text.Append

/-!
# Which declarations have the same key

Outside of namespaces scope and name alone decide the key. The separator may stand in the name of a
module and in the name of a declaration too, so the key does not always tell where the one ends and
the other begins. `key_eq_iff` lists all declarations that have the same key: besides equal ones
these are the `Confusable` ones, of which one name carries a separator.
-/
namespace DeclMerge.Scope

/-- No session has a say in the keys of this scope. -/
def SelfContained : Scope → Prop
  | .inNamespace _ => False
  | _ => True

instance : DecidablePred SelfContained
  | .global => .isTrue trivial
  | .inModule _ => .isTrue trivial
  | .inNamespace _ => .isFalse id

/-- The first name carries a separator, and what stands before it can be read as the end of the
path to the second name. -/
inductive Confusable : Scope → String → Scope → String → Prop where
  | global (owner name : String) :
      Confusable .global (owner ++ Vocabulary.moduleSeparator ++ name) (.inModule owner) name
  | nested (owner part name : String) :
      Confusable (.inModule owner) (part ++ Vocabulary.moduleSeparator ++ name)
        (.inModule (owner ++ Vocabulary.moduleSeparator ++ part)) name

/-- These two are one declaration, or cannot be told apart. -/
def Meets (scope : Scope) (name : String) (other : Scope) (rest : String) : Prop :=
  (scope = other ∧ name = rest) ∨ Confusable scope name other rest ∨
    Confusable other rest scope name

theorem Meets.symm {scope other : Scope} {name rest : String}
    (meets : scope.Meets name other rest) : other.Meets rest scope name := by
  rcases meets with ⟨rfl, rfl⟩ | forth | back
  · exact .inl ⟨rfl, rfl⟩
  · exact .inr (.inr forth)
  · exact .inr (.inl back)

theorem Confusable.separator_mem {scope other : Scope} {name rest : String}
    (confusable : Confusable scope name other rest) : '$' ∈ name.toList := by
  cases confusable <;> simp [Vocabulary.moduleSeparator]

private theorem global_meets_module_iff (owner name rest : String) :
    Meets .global name (.inModule owner) rest ↔
      name = owner ++ Vocabulary.moduleSeparator ++ rest := by
  constructor
  · rintro (⟨same, _⟩ | confusable | confusable)
    · cases same
    · cases confusable with
      | global => rfl
    · cases confusable
  · rintro rfl
    exact .inr (.inl (.global owner rest))

private theorem module_meets_module_iff (owner other name rest : String) :
    Meets (.inModule owner) name (.inModule other) rest ↔
      owner ++ Vocabulary.moduleSeparator ++ name =
        other ++ Vocabulary.moduleSeparator ++ rest := by
  -- The separator is a single mark, so the cuts of a joined text are known.
  have mark : Vocabulary.moduleSeparator = .singleton '$' := by decide
  have cuts := Text.joined_eq_joined_iff '$' owner name other rest
  simp only [Text.joined, ← mark] at cuts
  rw [cuts]
  constructor
  · rintro (⟨same, rfl⟩ | confusable | confusable)
    · cases same
      exact .inl ⟨rfl, rfl⟩
    · cases confusable with
      | nested owner part name => exact .inr (.inl ⟨part, rfl, rfl⟩)
    · cases confusable with
      | nested owner part name => exact .inr (.inr ⟨part, rfl, rfl⟩)
  · rintro (⟨rfl, rfl⟩ | ⟨part, rfl, rfl⟩ | ⟨part, rfl, rfl⟩)
    · exact .inl ⟨rfl, rfl⟩
    · exact .inr (.inl (.nested owner part rest))
    · exact .inr (.inr (.nested other part name))

theorem key_eq_iff {scope other : Scope} (here : scope.SelfContained) (there : other.SelfContained)
    (name rest : String) (raw statement : Option Node) (session asked : Option Session) :
    (scope.keyOf name raw session).key = (other.keyOf rest statement asked).key ↔
      scope.Meets name other rest := by
  cases scope with
  | inNamespace space => exact here.elim
  | global =>
    cases other with
    | inNamespace space => exact there.elim
    | global =>
      simp only [keyOf, Except.ok.injEq]
      constructor
      · intro same
        exact .inl ⟨rfl, same⟩
      · rintro (⟨_, same⟩ | confusable | confusable)
        · exact same
        · cases confusable
        · cases confusable
    | inModule owner =>
      simp only [keyOf, Except.ok.injEq]
      exact (global_meets_module_iff owner name rest).symm
  | inModule owner =>
    cases other with
    | inNamespace space => exact there.elim
    | global =>
      simp only [keyOf, Except.ok.injEq]
      rw [eq_comm, ← global_meets_module_iff]
      exact ⟨Meets.symm, Meets.symm⟩
    | inModule other =>
      simp only [keyOf, Except.ok.injEq]
      exact (module_meets_module_iff owner other name rest).symm

/-- Where no name carries a separator, declarations are kept apart by scopes and names. -/
theorem key_eq_iff_of_plain {scope other : Scope} (here : scope.SelfContained)
    (there : other.SelfContained) {name rest : String} (plain : '$' ∉ name.toList)
    (clean : '$' ∉ rest.toList) (raw statement : Option Node) (session asked : Option Session) :
    (scope.keyOf name raw session).key = (other.keyOf rest statement asked).key ↔
      scope = other ∧ name = rest := by
  rw [key_eq_iff here there]
  constructor
  · rintro (same | confusable | confusable)
    · exact same
    · exact absurd confusable.separator_mem plain
    · exact absurd confusable.separator_mem clean
  · exact .inl

end DeclMerge.Scope
