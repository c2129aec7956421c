import Reidentify.Mapper.Member
import Reidentify.Mapper.Registry

/-!
# The standard mappers

The classes of linked nodes, the buffer and the model, and the definition of an item with its
members. The integer fields of an item definition are assigned by its constructors in a fixed
order, so each of them is selected by its position; the two methods that read a definition
differ by one pushed integer only.
-/

namespace Reidentify.Standard

/-- The descriptor of the class of texts, which is given literally. -/
def textType : String := "Ljava/lang/String;"

/-- The descriptor of the class that every chain of superclasses ends in, `Document.rootClass`. -/
def rootType : String := "Ljava/lang/Object;"

/-- The name of the class that the members of an item definition belong to, and of the mapper for
it. -/
def itemDefinition : String := "ItemDefinition"

/-- The integer fields of an item definition, in the order in which its constructors assign them. -/
def integerFields : List String :=
  ["zoom2d", "xan2d", "yan2d", "zan2d", "offsetX2d", "offsetY2d",
   "isStackable", "price", "team",
   "maleModel", "maleModel1", "maleOffset",
   "femaleModel", "femaleModel1", "femaleOffset",
   "maleModel2", "femaleModel2",
   "maleHeadModel", "maleHeadModel2", "femaleHeadModel", "femaleHeadModel2",
   "note", "notedTemplate",
   "resizeX", "resizeY", "resizeZ",
   "ambient", "contrast",
   "int1", "unnotedId", "notedId", "int2", "int3"]

/-- The conjunction of the predicates `a`, `b` and `c`, tried in this order. -/
def three (a b c : Predicate) : Predicate :=
  .conjunction a [b, c]

/-- The conjunction of the predicates `a` and `b`, tried in this order. -/
def two (a b : Predicate) : Predicate :=
  .conjunction a [b]

/-- The class that the mapper named `mapper` is bound to, as a type without array dimensions. -/
def bound (mapper : String) : TypeRef :=
  .mapped mapper 0

/-- The test for abstract classes, which only classes and methods have an answer to
(`Predicate.test`). -/
def isAbstract : Predicate :=
  .ofEntity "is abstract" fun entity =>
    match entity with
    | .ofClass decl => .ok decl.isAbstract
    | .ofMethod method => .ok method.isAbstract
    | _ => .error .noAttribute

/-- The declarations of the mappers for classes, in the order of their registration, each of them
made by `Mapper.forClass` or with a fault. -/
def classMappers : List (Except Fault Mapper) :=
  [Mapper.forClass "Node"
    (three (.extendsType (.literal rootType)) (.selfLinks (.int 2))
      (.hasInstanceField (.literal "J"))) [],
   Mapper.forClass "DualNode" (two (.extendsType (bound "Node")) (.selfLinks (.int 2))) ["Node"],
   Mapper.forClass "Buffer"
    (two (.extendsType (bound "Node")) (.hasInstanceField (.literal "[B"))) ["Node"],
   Mapper.forClass "Entity" (two (.extendsType (bound "DualNode")) isAbstract) ["DualNode"],
   Mapper.forClass "Model"
    (two (.extendsType (bound "Entity")) (.hasInstanceField (.literal "[I"))) ["Entity"],
   Mapper.forClass itemDefinition
    (three (.extendsType (bound "DualNode")) (.instanceFieldCount (.literal "[S") (.int 4))
      (.instanceFieldCount (.literal ("[" ++ textType)) (.int 2))) ["DualNode"]]

/-- The declarations of the mappers for the members of an item definition that are not among its
`integerFields`. -/
def memberMappers : List (Except Fault Mapper) :=
  [Mapper.instanceMethod itemDefinition "getModel" (.returns (bound "Model")) ["Model"]
    (some ["quantity"]),
   Mapper.instanceField itemDefinition "name" (.ofType (.literal textType)) [],
   Mapper.constructorField itemDefinition "groundActions"
    (.fieldAccess (some (.literal ("[" ++ textType)))) 0 none [],
   Mapper.constructorField itemDefinition "inventoryActions"
    (.fieldAccess (some (.literal ("[" ++ textType)))) 1 none [],
   Mapper.constructorField itemDefinition "isMembersOnly" (.fieldAccess (some (.literal "Z"))) 0
    (some 2) [],
   Mapper.constructorField itemDefinition "isTradable" (.fieldAccess (some (.literal "Z"))) 1
    (some 2) [],
   Mapper.instanceMethod itemDefinition "read"
    (three (.returns (.literal "V")) (.argumentsStartWith [bound "Buffer"])
      (.lacksInstruction (.pushesInt (.int 16)))) ["Buffer"] none,
   Mapper.instanceMethod itemDefinition "readNext"
    (three (.returns (.literal "V")) (.argumentsStartWith [bound "Buffer"])
      (.containsInstruction (.pushesInt (.int 16)))) ["Buffer"] none]

/-- The declarations of the mappers for the `integerFields` of an item definition, each at its
position among them. -/
def integerFieldMappers : List (Except Fault Mapper) :=
  integerFields.zipIdx.map fun (field, index) =>
    Mapper.constructorField itemDefinition field (.fieldAccess (some (.literal "I")))
      (.number index) none []

/-- The values of computations none of which has a fault, or else the first fault of them. -/
def collect {α : Type} : List (Except Fault α) → Except Fault (List α)
  | [] => .ok []
  | .error fault :: _ => .error fault
  | .ok a :: rest => (collect rest).map (a :: ·)

/-- The registry of the standard mappers: classes first, then the other members and the integer
fields. -/
def registry : Except Fault Registry :=
  match collect (classMappers ++ memberMappers ++ integerFieldMappers) with
  | .ok mappers => Registry.ofList mappers
  | .error fault => .error fault

end Reidentify.Standard
