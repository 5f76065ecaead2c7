import DeclMerge.Proofs.Program.Supply
import DeclMerge.Proofs.Shape.Parts
import DeclMerge.Proofs.Text.Tidy

/-!
# Signatures are tidy

Every signature that is read off a declaration, of whatever kind, is the normal form of some text
(`Node.readsNormalized_reader`), so it is tidy. Items only ever get shapes that were read like
this, or that callers bring along; so what a program leaves behind carries tidy signatures, as long
as callers bring no other (`signatures_tidy`).
-/
namespace DeclMerge

open Text

/-- The signature is its own words with single spaces between them. -/
def Shape.IsTidy (shape : Shape) : Prop := Tidy shape.signature.toList

/-- All shapes that this reads have the normal form of a text for their signature. -/
def ReadsNormalized (read : Except Utf8.Fault Shape) : Prop :=
  ∀ shape, read = .ok shape → ∃ text, shape.signature = Text.normalize text

theorem readsNormalized_pure (kind : String) (name : Option String) (text : String) :
    ReadsNormalized (pure { kind, name, signature := Text.normalize text }) := by
  intro shape same
  cases same
  exact ⟨text, rfl⟩

theorem readsNormalized_bind {α : Type} {first : Except Utf8.Fault α}
    {next : α → Except Utf8.Fault Shape} (each : ∀ value, ReadsNormalized (next value)) :
    ReadsNormalized (first >>= next) := by
  intro shape read
  cases first with
  | error fault => cases read
  | ok value => exact each value shape read

/-- However a part of a declaration is read, its signature is the normal form of a text. -/
theorem Node.readsNormalized_reader (kind : String) (part : Node) :
    ReadsNormalized (reader kind part) := by
  -- The name is read first, then the texts that the signature is made of.
  have entry : ReadsNormalized part.entryShape :=
    readsNormalized_bind fun _ => readsNormalized_bind fun _ => readsNormalized_pure _ _ _
  have function : ReadsNormalized part.functionShape :=
    readsNormalized_bind fun _ => readsNormalized_bind fun _ => readsNormalized_bind fun _ =>
      readsNormalized_pure _ _ _
  have definition : ReadsNormalized part.aliasShape :=
    readsNormalized_bind fun _ => readsNormalized_bind fun _ => readsNormalized_pure _ _ _
  have enumeration : ReadsNormalized part.enumShape :=
    readsNormalized_bind fun _ => readsNormalized_bind fun _ => readsNormalized_pure _ _ _
  have declarator : ReadsNormalized part.variableShape :=
    readsNormalized_bind fun _ => readsNormalized_bind fun _ => readsNormalized_pure _ _ _
  unfold reader
  split_ifs
  · exact entry
  · exact function
  · exact definition
  · exact enumeration
  · exact declarator

/-- What a traversal that succeeds answers, it answers of one of the elements. -/
theorem mem_mapM {ε α β : Type} {read : α → Except ε β} {list : List α} {values : List β}
    (all : list.mapM read = .ok values) {value : β} (member : value ∈ values) :
    ∃ x ∈ list, read x = .ok value := by
  induction list generalizing values with
  | nil =>
    cases all
    cases member
  | cons x rest ih =>
    rw [List.mapM_cons] at all
    cases first : read x with
    | error fault =>
      rw [first] at all
      cases all
    | ok here =>
      cases further : rest.mapM read with
      | error fault =>
        rw [first, further] at all
        cases all
      | ok others =>
        rw [first, further] at all
        cases all
        rcases List.mem_cons.mp member with rfl | later
        · exact ⟨x, List.mem_cons_self, first⟩
        · obtain ⟨y, inside, found⟩ := ih further later
          exact ⟨y, List.mem_cons_of_mem x inside, found⟩

theorem isTidy_of_shapesOf {raw : Option Node} {shapes : List Shape}
    (read : shapesOf raw = .ok shapes) : ∀ shape ∈ shapes, shape.IsTidy := by
  intro shape member
  cases raw with
  | none =>
    cases read
    cases member
  | some node =>
    rw [shapesOf_eq_mapM] at read
    obtain ⟨part, _, found⟩ := mem_mapM read member
    obtain ⟨text, signature⟩ := Node.readsNormalized_reader _ part shape found
    rw [Shape.IsTidy, signature, Text.normalize, String.toList_ofList]
    exact tidy_normalForm text.toList

/-- The normal form looks at the words alone; it is tidy, and comes of the joined words by cutting
off separators and spaces at the end. So are the signatures of all shapes that a program gives to
items, if callers themselves offer no others, and in particular if they offer none. -/
theorem signatures_tidy :
    (∀ left right : String, words left.toList = words right.toList →
      Text.normalize left = Text.normalize right) ∧
    (∀ text : String,
      spaced (Text.normalize text).toList = (Text.normalize text).toList ∧
      Tidy (Text.normalize text).toList ∧
      ∃ cut, (Text.normalize text).toList ++ cut = spaced text.toList ∧
        ∀ c ∈ cut, c = ';' ∨ c = ',' ∨ c = ' ') ∧
    ∀ (n : Nat) (program : Program n) (start : World n),
      (∀ id, ∀ shape ∈ start.store.shapes id, shape.IsTidy) →
      (∀ turn ∈ program.turns start.current,
        turn.operation.Offers fun shapes => ∀ shape ∈ shapes, shape.IsTidy) →
      ∀ id, ∀ shape ∈ (program.run start).world.store.shapes id,
        spaced shape.signature.toList = shape.signature.toList ∧ shape.IsTidy := by
  refine ⟨fun left right => normalize_congr, fun text => ?_, ?_⟩
  · rw [Text.normalize, String.toList_ofList]
    exact ⟨spaced_normalForm text.toList, tidy_normalForm text.toList, exists_cut text.toList⟩
  · intro n program start initially offers id shape member
    have statements raw shapes (read : shapesOf raw = .ok shapes) :
        ∀ shape ∈ shapes, shape.IsTidy := isTidy_of_shapesOf read
    have supplied := program.run_supplied statements start offers
    have tidy : ∀ shape ∈ (program.run start).world.store.shapes id, shape.IsTidy := by
      refine supplied.carry (fun shapes => ∀ shape ∈ shapes, shape.IsTidy) statements
        (fun _ none => by cases none) ?_ initially id
      intro known more old new shape member
      rcases (mem_addNovel known more shape).mp member with here | here
      · exact old shape here
      · exact new shape here
    exact ⟨(spaced_eq_self_iff _).mpr (tidy shape member), tidy shape member⟩

/-- An interface with `x :`, a line break, a tab and `a ;`, and `class B { m( )  { } }`. -/
def blanked : Tree where
  file := 0
  source := "interface A \x7b x :\n\ta ;\n \x7d class B \x7b m( )  \x7b \x7d \x7d".toUTF8.toList
  rows := #[
    ⟨"interface_declaration", none, none, true, some ⟨0, 25⟩⟩,
    ⟨"interface_body", some 0, some "body", true, some ⟨12, 25⟩⟩,
    ⟨"property_signature", some 1, none, true, some ⟨14, 22⟩⟩,
    ⟨"class_declaration", none, none, true, some ⟨26, 47⟩⟩,
    ⟨"class_body", some 3, some "body", true, some ⟨34, 47⟩⟩,
    ⟨"method_definition", some 4, none, true, some ⟨36, 45⟩⟩,
    ⟨"property_identifier", some 5, some "name", true, some ⟨36, 37⟩⟩,
    ⟨"statement_block", some 5, some "body", true, some ⟨42, 45⟩⟩]

def blankedA : Node := ⟨blanked, 0, by decide⟩

def blankedB : Node := ⟨blanked, 3, by decide⟩

/-- Both declarations, under one key. -/
def declaringBlanked : Program 1 :=
  .perform (.request (Fin.last 0) (.declare (some blankedA) (some "A") none)) none
    (.perform (.request (Fin.last 0) (.declare (some blankedB) (some "A") none)) none .done)

theorem signatures_tidy_blanked :
    let start : World 1 := { catalogs := #v[{}] }
    let final := (declaringBlanked.run start).world
    (final.store.shapes 0).map Shape.signature = ["x : a", "m( )"] ∧
    (∀ shape ∈ final.store.shapes 0, shape.IsTidy) ∧
    Text.normalize " x\t:\na ;" = Text.normalize "x : a\n;" := by
  intro start final
  obtain ⟨same_words, _, tidy⟩ := signatures_tidy
  refine ⟨by decide +kernel, fun shape member => ?_, same_words _ _ (by decide +kernel)⟩
  have offers : ∀ turn ∈ declaringBlanked.turns start.current,
      turn.operation.Offers fun shapes => ∀ shape ∈ shapes, shape.IsTidy := by
    simp [declaringBlanked, Program.turns, Operation.Offers]
  have initially : ∀ id, ∀ shape ∈ start.store.shapes id, shape.IsTidy := by
    intro id shape none
    cases none
  exact (tidy 1 declaringBlanked start initially offers 0 shape member).2

end DeclMerge
