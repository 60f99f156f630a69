import DomainGen.Generate.Java

/-!
# The syntax of generated classes

A generated class as a tree: what it extends and implements, its fields, and methods of
one statement.  The text of a class is the text of its tree (`text_ofEntity`), so that
the types it mentions can be read off the tree, each with the place where it stands.
-/

namespace DomainGen.Java

/-- A type where a class mentions it: a name, with brackets for an array. -/
structure TypeUse where
  name : String
  array : Bool := false
  deriving Repr, DecidableEq

/-- A type as it is written. -/
def TypeUse.text (type : TypeUse) : String := if type.array then type.name ++ "[]" else type.name

/-- What a method does with the field that it is for. -/
inductive Statement where
  /-- Store the parameter. -/
  | store
  /-- Return the value, after a cast if there is one. -/
  | fetch (cast : Option TypeUse)
  /-- Return the value after a cast, if it passes a test. -/
  | fetchIf (test cast : TypeUse)
  deriving Repr, DecidableEq

/-- A statement about the field of the given name. -/
def Statement.text (field : String) : Statement → String
  | store => "this." ++ field ++ " = " ++ field ++ ";"
  | fetch cast =>
      "return " ++ cast.elim "" (fun type => "(" ++ type.text ++ ") ") ++ "this." ++ field ++ ";"
  | fetchIf test cast =>
      "return " ++ ("this." ++ field) ++ " instanceof " ++ test.text ++ " ? (" ++ cast.text ++
        ") " ++ ("this." ++ field) ++ " : null;"

/-- A method for a field.  A parameter has the name of the field. -/
structure MethodSource where
  name : String
  field : String
  /-- The type of the result, if there is one. -/
  result : Option TypeUse
  /-- The type of the parameter, if there is one. -/
  parameter : Option TypeUse
  statement : Statement
  deriving Repr, DecidableEq

/-- The method with its parts as they are written. -/
def MethodSource.method (source : MethodSource) : Method where
  result := source.result.elim "void" (·.text)
  name := source.name
  parameter := source.parameter.map fun type => (type.text, source.field)
  statement := source.statement.text source.field

/-- A class. -/
structure ClassSource where
  name : String
  /-- The class it extends, if there is one. -/
  super : Option String
  /-- The interfaces it implements. -/
  interfaces : List String
  /-- The fields, by type and name. -/
  fields : List (TypeUse × String)
  methods : List MethodSource
  deriving Repr, DecidableEq

/-- The first line of a class. -/
def ClassSource.header (source : ClassSource) : String :=
  "public class " ++ source.name ++ source.super.elim "" (" extends " ++ ·) ++
    if source.interfaces.isEmpty then "" else
      " implements " ++ Text.join ", " source.interfaces

/-- A class as it is written. -/
def ClassSource.text (source : ClassSource) : String :=
  source.header ++ " \x7b\n" ++
    String.join (source.fields.map fun field =>
      "    " ++ "private " ++ field.1.text ++ " " ++ field.2 ++ ";\n") ++
    String.join (source.methods.map ("\n" ++ ·.method.render)) ++ "\x7d\n"

/-! ## Types in a class -/

/-- Where a class mentions a type. -/
inductive Place where
  | super
  | interface
  | field
  | parameter
  | result
  | test
  | cast
  deriving Repr, DecidableEq

/-- The types that a statement mentions. -/
def Statement.mentions : Statement → List (Place × String)
  | store => []
  | fetch cast => cast.toList.map (.cast, ·.name)
  | fetchIf test cast => [(.test, test.name), (.cast, cast.name)]

/-- The types that a method mentions. -/
def MethodSource.mentions (source : MethodSource) : List (Place × String) :=
  source.result.toList.map (.result, ·.name) ++ source.parameter.toList.map (.parameter, ·.name) ++
    source.statement.mentions

/-- The types that a class mentions, by place and name. -/
def ClassSource.mentions (source : ClassSource) : List (Place × String) :=
  source.super.toList.map (.super, ·) ++ source.interfaces.map (.interface, ·) ++
    source.fields.map (.field, ·.1.name) ++ source.methods.flatMap (·.mentions)

theorem MethodSource.interface_not_mem_mentions (source : MethodSource) (name : String) :
    (.interface, name) ∉ source.mentions := by
  have statement : (.interface, name) ∉ source.statement.mentions := by
    cases source.statement with
    | store => simp [Statement.mentions]
    | fetch cast => simp [Statement.mentions]
    | fetchIf test cast => simp [Statement.mentions]
  simp [mentions, statement]

theorem ClassSource.interface_mem_mentions_iff {source : ClassSource} {name : String} :
    (.interface, name) ∈ source.mentions ↔ name ∈ source.interfaces := by
  simp [mentions, MethodSource.interface_not_mem_mentions]

/-! ## The classes of entities -/

/-- The type of a feature. -/
def TypeUse.ofFeature (scope : Scope) (feature : Feature) : TypeUse :=
  ⟨scope.typeName builtins feature.type, feature.many⟩

/-- The type of a primitive member of a union. -/
def TypeUse.ofAlias (type : DataType) : TypeUse := { name := aliasType type }

/-- The method that stores a value of a type. -/
def setterSource (feature : Feature) (type : TypeUse) : MethodSource where
  name := "set" ++ Text.upperFirst feature.name
  field := feature.name
  result := none
  parameter := some type
  statement := .store

/-- The method that returns the value, with a cast where the field holds an object. -/
def getterSource (feature : Feature) (type : TypeUse) (cast : Bool) : MethodSource where
  name := "get" ++ Text.upperFirst feature.name
  field := feature.name
  result := some type
  parameter := none
  statement := .fetch (if cast then some type else none)

/-- The method that returns the value if it is of a primitive member of its union. -/
def aliasGetterSource (feature : Feature) (type : DataType) : MethodSource where
  name := "get" ++ Text.upperFirst feature.name ++ "As" ++ Text.upperFirst type.name
  field := feature.name
  result := some (.ofAlias type)
  parameter := none
  statement := .fetchIf (.ofAlias type) (.ofAlias type)

section Features

variable (scope : Scope) (analysis : Analysis) (feature : Feature)

/-- The primitive members of the union that is the type of a feature. -/
def aliasesOf : List DataType := (Accessors.ofFeature scope analysis feature).aliases

/-- The type of the field for a feature. -/
def fieldUse : TypeUse :=
  if (aliasesOf scope analysis feature).isEmpty then .ofFeature scope feature
  else { name := "Object" }

/-- The methods for a feature. -/
def methodSources : List MethodSource :=
  let type := TypeUse.ofFeature scope feature
  let aliases := aliasesOf scope analysis feature
  setterSource feature type :: aliases.map (setterSource feature ∘ .ofAlias) ++
    getterSource feature type (!aliases.isEmpty) :: aliases.map (aliasGetterSource feature)

end Features

/-- The class of the entity at a position. -/
def ClassSource.ofEntity (scope : Scope) (analysis : Analysis) (id : TypeId) (type : Entity) :
    ClassSource where
  name := type.name
  super := (scope.superOf? type).map (·.2.name)
  interfaces := (analysis.unionsOf.of id).filterMap fun union =>
    (scope.type? union).map (·.name)
  fields := type.features.map fun feature => (fieldUse scope analysis feature, feature.name)
  methods := type.features.flatMap (methodSources scope analysis)

variable {scope : Scope} {analysis : Analysis}

theorem text_fieldUse (feature : Feature) :
    (fieldUse scope analysis feature).text =
      (Accessors.ofFeature scope analysis feature).fieldType := by
  rw [fieldUse, aliasesOf, Accessors.fieldType, apply_ite TypeUse.text]
  rfl

theorem methods_methodSources (feature : Feature) :
    (methodSources scope analysis feature).map (·.method) =
      (Accessors.ofFeature scope analysis feature).methods := by
  have getter : (getterSource feature (.ofFeature scope feature)
      (!(aliasesOf scope analysis feature).isEmpty)).method =
        (Accessors.ofFeature scope analysis feature).getter := by
    rw [aliasesOf, Accessors.getter]
    cases (Accessors.ofFeature scope analysis feature).aliases with
    | nil => rfl
    | cons first rest => rfl
  rw [methodSources, Accessors.methods]
  simp only [List.map_append, List.map_cons, List.map_map, getter]
  rfl

theorem header_ofEntity (id : TypeId) (type : Entity) :
    (ClassSource.ofEntity scope analysis id type).header = classHeader scope analysis id type := by
  unfold ClassSource.header ClassSource.ofEntity classHeader
  cases scope.superOf? type with
  | none => rfl
  | some super => rfl

/-- The text of a class is that of its tree. -/
theorem text_ofEntity (id : TypeId) (type : Entity) :
    (ClassSource.ofEntity scope analysis id type).text = renderClass scope analysis id type := by
  have fields : (type.features.map fun feature =>
      (fieldUse scope analysis feature, feature.name)).map
        (fun field => "    " ++ "private " ++ field.1.text ++ " " ++ field.2 ++ ";\n") =
      (type.features.map (Accessors.ofFeature scope analysis)).map fun feature =>
        "    " ++ "private " ++ feature.fieldType ++ " " ++ feature.name ++ ";\n" := by
    rw [List.map_map, List.map_map]
    congr 1
    funext feature
    simp only [Function.comp_apply, text_fieldUse]
    rfl
  have methods : (type.features.flatMap (methodSources scope analysis)).map
      ("\n" ++ ·.method.render) =
        ((type.features.map (Accessors.ofFeature scope analysis)).flatMap (·.methods)).map
          ("\n" ++ ·.render) := by
    rw [List.map_flatMap, List.flatMap_map, List.map_flatMap]
    congr 1
    funext feature
    rw [← methods_methodSources, List.map_map]
    rfl
  rw [ClassSource.text, header_ofEntity]
  simp only [ClassSource.ofEntity]
  rw [fields, methods]
  rfl

/-! ## The types in the class of an entity -/

theorem mentions_setterSource (feature : Feature) (type : TypeUse) :
    (setterSource feature type).mentions = [(.parameter, type.name)] := rfl

theorem mentions_getterSource (feature : Feature) (type : TypeUse) (cast : Bool) :
    (getterSource feature type cast).mentions =
      (.result, type.name) :: if cast then [(.cast, type.name)] else [] := by
  cases cast with
  | false => rfl
  | true => rfl

theorem mentions_aliasGetterSource (feature : Feature) (type : DataType) :
    (aliasGetterSource feature type).mentions =
      [(.result, aliasType type), (.test, aliasType type), (.cast, aliasType type)] := rfl

/-- The types in the methods for a feature are the type of the feature and those of the
primitive members of its union. -/
theorem mentions_methodSources {feature : Feature} {source : MethodSource}
    (member : source ∈ methodSources scope analysis feature) {place : Place} {name : String}
    (mentioned : (place, name) ∈ source.mentions) :
    name = scope.typeName builtins feature.type ∨
      ∃ type ∈ aliasesOf scope analysis feature, name = aliasType type := by
  simp only [methodSources, List.cons_append, List.mem_cons, List.mem_append, List.mem_map,
    Function.comp_apply] at member
  obtain rfl | ⟨type, listed, rfl⟩ | rfl | ⟨type, listed, rfl⟩ := member
  · rw [mentions_setterSource, List.mem_singleton] at mentioned
    cases mentioned
    exact .inl rfl
  · rw [mentions_setterSource, List.mem_singleton] at mentioned
    cases mentioned
    exact .inr ⟨type, listed, rfl⟩
  · rw [mentions_getterSource, List.mem_cons] at mentioned
    obtain mentioned | mentioned := mentioned
    · cases mentioned
      exact .inl rfl
    · split at mentioned
      · cases List.mem_singleton.mp mentioned
        exact .inl rfl
      · contradiction
  · have same : name = aliasType type := by
      simp only [mentions_aliasGetterSource, List.mem_cons, List.not_mem_nil, or_false,
        Prod.mk.injEq, ← or_and_right] at mentioned
      exact mentioned.2
    exact .inr ⟨type, listed, same⟩

/-- Apart from the interfaces, the types in a class are its supertype, the types of its
features, those of the primitive members of their unions, and the type of a field that
holds any of them. -/
theorem mentions_ofEntity {id : TypeId} {type : Entity} {place : Place} {name : String}
    (mentioned : (place, name) ∈ (ClassSource.ofEntity scope analysis id type).mentions)
    (apart : place ≠ .interface) :
    (∃ super, scope.superOf? type = some super ∧ name = super.2.name) ∨
      name = "Object" ∨
      ∃ feature ∈ type.features, name = scope.typeName builtins feature.type ∨
        ∃ primitive ∈ aliasesOf scope analysis feature, name = aliasType primitive := by
  simp only [ClassSource.mentions, ClassSource.ofEntity, List.mem_append, List.mem_map,
    List.mem_flatMap, Option.mem_toList, Option.map_eq_some_iff, Prod.mk.injEq] at mentioned
  obtain ((⟨_, ⟨super, found, rfl⟩, -, rfl⟩ | ⟨_, -, rfl, -⟩) |
      ⟨_, ⟨feature, member, rfl⟩, -, rfl⟩) |
    ⟨source, ⟨feature, member, listed⟩, mentioned⟩ := mentioned
  · exact .inl ⟨super, found, rfl⟩
  · contradiction
  · right
    rw [fieldUse]
    split
    · exact .inr ⟨feature, member, .inl rfl⟩
    · exact .inl rfl
  · exact .inr (.inr ⟨feature, member, mentions_methodSources listed mentioned⟩)

end DomainGen.Java
