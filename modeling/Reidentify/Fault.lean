import Reidentify.Artifact.Attribute
import Reidentify.Json.Reader
import Reidentify.Mapper.Kinds
import Reidentify.Value.Whole

/-!
# Faults

Everything that can go wrong, by its cause. A fault ends the computation that meets it; that a
mapper finds nothing is no fault but an outcome. The wording of every fault is in one function,
`Fault.message`, and `Fault.isReported` separates the faults that a command reports to its user
from those that end the program.
-/

namespace Reidentify

/-- What is wrong with a document that should describe an artifact. A `place` is the class, or the
class and the method, that a complaint is about. -/
inductive DocumentFault where
  /-- The document is no object. -/
  | rootNotObject
  /-- The document has no list under the key `classes`. -/
  | noClasses
  /-- Two classes have the same `name`. -/
  | repeatedClass (name : String)
  /-- The class at `position` in the list of classes is no object. -/
  | classNotObject (position : Nat)
  /-- The member `key` of the record at `place` should be a text and is `found`. -/
  | notText (place key : String) (found : Value)
  /-- The member `key` of the record at `place` should be a list and is `found`. -/
  | notList (place key : String) (found : Value)
  /-- Among the names of interfaces of the class `owner` there is one that is no text. -/
  | interfaceNotText (owner : String)
  /-- A field of the class `owner` is no object. -/
  | fieldNotObject (owner : String)
  /-- A method of the class `owner` is no object. -/
  | methodNotObject (owner : String)
  /-- The `descriptor` of the field `name` of the class `owner` is malformed. -/
  | fieldDescriptor (owner name descriptor : String)
  /-- The `descriptor` of the method `name` of the class `owner` is malformed. -/
  | methodDescriptor (owner name descriptor : String)
  /-- The instruction number `index` of the method at `place` is no object. -/
  | instructionNotObject (place : String) (index : Nat)
  /-- The operation of an instruction is `found`, which is no number below 256. -/
  | opcode (place : String) (index : Nat) (found : Value)
  /-- An instruction on fields does not say which field it means. -/
  | noFieldReference (place : String) (index : Nat)
  /-- A call does not say which method it means. -/
  | noMethodReference (place : String) (index : Nat)
  /-- There is no file at `path`. -/
  | noFile (path : String)
  /-- The `text` of the file at `path` is no JSON text: there is a `problem` at `offset`. -/
  | notJson (path text : String) (problem : Json.Problem) (offset : Nat)
  deriving DecidableEq

/-- Why the module or the member that should give a set of mappers cannot be had. -/
inductive UnavailableReason where
  /-- No module has this `name`. -/
  | noModule (name : String)
  /-- The module `parent` exists, but has no parts, so there is no module `name`. -/
  | notAPackage (name parent : String)
  /-- The module `moduleName` has no `member` of this name. -/
  | noMember (moduleName member : String)
  deriving DecidableEq

/-- The wording of an `UnavailableReason`, as it follows the name of the set of mappers. -/
def UnavailableReason.message : UnavailableReason → String
  | .noModule name => s!"No module named {Text.quoted name}"
  | .notAPackage name parent =>
    s!"No module named {Text.quoted name}; {Text.quoted parent} is not a package"
  | .noMember moduleName member =>
    "module '" ++ moduleName ++ "' has no attribute '" ++ member ++ "'"

/-- What is wrong with the declaration of a mapper or with a setting, as far as the declaration
itself shows it. -/
inductive ConfigurationFault where
  /-- The number of workers `found` is below one. -/
  | workers (found : Value)
  /-- The variable for the number of workers holds a `text` that is no integer. -/
  | workersText (text : String)
  /-- The variable for parallel evaluation holds a `text` that is no truth value. -/
  | parallelText (text : String)
  /-- A scope over all classes names an owner. -/
  | strayOwner
  /-- A scope of a `kind` that needs an owner names none. -/
  | missingOwner (kind : ScopeKind)
  /-- The `size` of a group is below one. -/
  | groupSize (size : Whole)
  /-- The `offset` lies outside a group of this `size`. -/
  | groupOffset (offset size : Whole)
  /-- A mapper has no name. -/
  | unnamed
  /-- The `mapper` selects by position and has no position. -/
  | missingPosition (mapper : String)
  /-- The `mapper` selects the only candidate and has a position. -/
  | strayPosition (mapper : String)
  /-- The `mapper` has a `target` that its scope, of this `kind`, has no candidates for. -/
  | impossibleTarget (mapper : String) (target : Target) (kind : ScopeKind)
  /-- The `mapper` has parameters although it binds no method. -/
  | strayParameters (mapper : String)
  /-- No strategy has the name `found`. -/
  | unknownStrategy (found : Value)
  /-- The `mapper` is to select by position and has none. -/
  | noPosition (mapper : String)
  /-- A type is to be taken from `mapper`, which has `bound` something that is no class. -/
  | typeOwner (mapper : String) (bound : Entity)
  /-- The `owner` of a scope has `bound` an entity that is not of the kind `needed`. -/
  | scopeOwner (scope owner : String) (needed : Target) (bound : Entity)
  /-- The `name` of a set of mappers is not of the right form. -/
  | setForm (name : String)
  /-- The set of mappers `name` cannot be loaded, for this `reason`. -/
  | setUnavailable (name : String) (reason : UnavailableReason)
  /-- The function `name` gives a `result` that is no set of mappers. -/
  | setResult (name result : String)
  deriving DecidableEq

/-- What is wrong with a set of mappers as a whole, although each declaration is right. -/
inductive RegistryFault where
  /-- Two mappers have the same `name`. -/
  | duplicate (name : String)
  /-- No mapper has the `name` that is asked for. -/
  | unknown (name : String)
  /-- Mappers depend on mappers that are not there: `pairs` of a mapper and what it misses. -/
  | dangling (pairs : List (String × String))
  /-- Some `owners` of scopes bind the wrong kind: a mapper, its owner, what it needs and what the
  owner binds. -/
  | mismatched (owners : List (String × String × Target × Target))
  deriving DecidableEq

/-- Why `Table.resolve` cannot take an entity from a mapper: the outcome that it has, or that there
is none. -/
inductive UnresolvedState where
  /-- The mapper has no outcome yet. -/
  | pending
  /-- The mapper has failed. -/
  | failed
  /-- The mapper was skipped. -/
  | skipped
  deriving DecidableEq, Repr

/-- What goes wrong with the file or the directory at a `path`. -/
inductive FileFault where
  /-- There is no file or directory at `path`. -/
  | notFound (path : String)
  /-- The name `path` belongs to something else already. -/
  | occupied (path : String)
  /-- A file stands where `path` needs a directory. -/
  | notDirectory (path : String)
  /-- A directory stands at `path`, where a file is needed. -/
  | isDirectory (path : String)
  /-- A name in `path`, or the whole of it, is too long. -/
  | nameTooLong (path : String)
  deriving DecidableEq, Repr

/-- Why a store cannot be opened, whichever request it is opened for (`StoreFault`). -/
inductive OpenFault where
  /-- The directory of the store cannot be made, for this `cause`. -/
  | directory (cause : FileFault)
  /-- The name belongs to a directory, or leads nowhere. -/
  | noFile
  /-- The file is no store. -/
  | foreignFile
  /-- A directory is to be read as a store. -/
  | unreadable
  /-- A store is to be made where nothing may be changed. -/
  | readOnly
  /-- The name of the store asks for an access `word` that does not exist. -/
  | noAccess (word : String)
  /-- The name of the store asks for an access `word` after a narrower one. -/
  | widerAccess (word : String)
  /-- The name of the store asks for a way of sharing `word` that does not exist. -/
  | noSharing (word : String)
  /-- The name of the store asks for a file system `word` that does not exist. -/
  | noFileSystem (word : String)
  deriving DecidableEq, Repr

/-- What is wrong with a request to a store, found when it is opened or when the request is made. -/
inductive StoreFault where
  /-- The store at `path` cannot be opened, for this `cause`. -/
  | cannotOpen (path : String) (cause : OpenFault)
  /-- The value for a `column` that must have one is absent. -/
  | missing (column : String)
  /-- The value of a request at the place `parameter` is a list or an object, as `kind` says. -/
  | unsupported (parameter : Nat) (kind : String)
  /-- The file of the store is no store any more. -/
  | damaged
  /-- The file of the store cannot be reached any more. -/
  | unreachable
  /-- The store keeps nothing, not even for a moment. -/
  | noTable
  /-- A text to search for is too long. -/
  | patternTooLong
  /-- The store may not be changed. -/
  | readOnly
  deriving DecidableEq, Repr

/-- The parts of a point in time that can be out of their range when a text is read as one. -/
inductive TimePart where
  /-- The year, with its `number`. -/
  | year (number : Nat)
  /-- The month. -/
  | month
  /-- The day of the month. -/
  | day
  /-- The hour. -/
  | hour
  /-- The minute. -/
  | minute
  /-- The second. -/
  | second
  deriving DecidableEq, Repr

/-- What is wrong with a value that has the right type but must not be used. -/
inductive ValueFault where
  /-- The characters of `text` are no integer. -/
  | notInteger (text : String)
  /-- The value that is no number is to be made an integer. -/
  | integerOfNotANumber
  /-- An integer is written with `digits` digits, more than are read (`Text.digitLimit`). -/
  | tooManyDigits (digits : Nat)
  /-- An integer has more digits than are written (`Text.digitLimit`). -/
  | unwritable
  /-- The method descriptor `text` is malformed. -/
  | methodDescriptor (text : String)
  /-- The value `found` is no member of `enumeration`. -/
  | notMember (found : Value) (enumeration : Enumeration)
  /-- A conjunction has no parts. -/
  | emptyConjunction
  /-- No run has the number `id`. -/
  | noRun (id : Int)
  /-- The characters of `text` are not of the form of a point in time. -/
  | timestamp (text : String)
  /-- The `part` of a point in time is out of its range. -/
  | timePart (part : TimePart)
  /-- The distance to coordinated universal time, in millionths of a second, is a day or more. -/
  | timeOffset (microseconds : Int)
  /-- A path contains the character zero. -/
  | zeroCharacter
  deriving DecidableEq

/-- What is too large for the form that it is to have, such as the integer of a `column`. -/
inductive OverflowFault where
  /-- Infinity is to be made an integer. -/
  | integerOfInfinity
  /-- An integer does not fit into a column, which holds 64 bits with a sign. -/
  | column
  deriving DecidableEq, Repr

/-- Why a computation ends without a result. `Fault.message` gives the wording of each of them, and
`Fault.isReported` says which ones a command reports. -/
inductive Fault where
  /-- A document does not describe an artifact, for this `cause`. -/
  | document (cause : DocumentFault)
  /-- A declaration or a setting is wrong, for this `cause`. -/
  | configuration (cause : ConfigurationFault)
  /-- A set of mappers is wrong, for this `cause`. -/
  | registry (cause : RegistryFault)
  /-- The mappers `members` depend on each other in circles. -/
  | cycle (members : List String)
  /-- The `mapper` is one for classes and is bound to `entity`, which is something else. -/
  | misbound (mapper : String) (entity : Entity)
  /-- A second outcome of `mapper` is to be recorded. -/
  | recordedTwice (mapper : String)
  /-- An entity is to be taken from `mapper`, which has none in this `state`. -/
  | unresolved (mapper : String) (state : UnresolvedState)
  /-- A request to a store failed, for this `cause`. -/
  | store (cause : StoreFault)
  /-- A value is wrong, for this `cause`. -/
  | value (cause : ValueFault)
  /-- A number is too large, for this `cause`. -/
  | overflow (cause : OverflowFault)
  /-- An object has no member `key`. -/
  | missingKey (key : String)
  /-- The characters of `text` are no JSON: there is a `problem` at `offset`. -/
  | json (text : String) (problem : Json.Problem) (offset : Nat)
  /-- A text is nested too deeply. -/
  | tooDeep
  /-- A file is not encoded as text. -/
  | encoding
  /-- A text is to be written that has the unpaired code units `units` at `position`. -/
  | unencodable (position : Nat) (units : List Char)
  /-- A test of a predicate gave up with `message`. -/
  | raised (message : String)
  /-- A value has the wrong type. -/
  | wrongType
  /-- An entity of the wrong kind is asked for something it does not have. -/
  | noAttribute
  /-- A number is divided by zero. -/
  | divisionByZero
  /-- A file operation failed, for this `cause`. -/
  | file (cause : FileFault)
  deriving DecidableEq

/-- The wording of a `DocumentFault`. Values that were found are shown as in `Value.rendered`. -/
def DocumentFault.message : DocumentFault → String
  | .rootNotObject => "Entity model root must be a JSON object"
  | .noClasses => "Entity model must contain a 'classes' list"
  | .repeatedClass name => s!"Duplicate class in entity model: {name}"
  | .classNotObject position => s!"classes[{position}] must be an object"
  | .notText place key found => s!"{place}: '{key}' must be str, got {found.rendered}"
  | .notList place key found => s!"{place}: '{key}' must be a list, got {found.rendered}"
  | .interfaceNotText owner => s!"{owner}: 'interfaces' must be a list of class names"
  | .fieldNotObject owner => s!"{owner}: field records must be objects"
  | .methodNotObject owner => s!"{owner}: method records must be objects"
  | .fieldDescriptor owner name descriptor =>
    s!"{owner}.{name}: malformed field descriptor {Text.quoted descriptor}"
  | .methodDescriptor owner name descriptor =>
    s!"{owner}.{name}: malformed method descriptor {Text.quoted descriptor}"
  | .instructionNotObject place index => s!"{place}: instruction {index} must be an object"
  | .opcode place index found =>
    s!"{place}: instruction {index} has invalid opcode {found.rendered}"
  | .noFieldReference place index =>
    s!"{place}: field instruction {index} lacks a 'field' reference"
  | .noMethodReference place index =>
    s!"{place}: invoke instruction {index} lacks a 'method' reference"
  | .noFile path => s!"Entity model not found: {path}"
  | .notJson path text problem offset =>
    s!"Entity model is not valid JSON ({path}): {Json.complaint text problem offset}"

/-- The wording of a `ConfigurationFault`. The names of kinds and targets are those that documents
use for them. -/
def ConfigurationFault.message : ConfigurationFault → String
  | .workers found => s!"max_workers must be >= 1, got {found.plain}"
  | .workersText text => s!"HOOKMAP_MAX_WORKERS must be an integer, got {Text.quoted text}"
  | .parallelText text => s!"HOOKMAP_PARALLEL must be a boolean, got {Text.quoted text}"
  | .strayOwner => "ALL_CLASSES scope takes no owner"
  | .missingOwner kind => s!"{kind.name} scope needs an owner mapper"
  | .groupSize size => s!"group_size must be >= 1, got {size.text}"
  | .groupOffset offset size => s!"offset {offset.text} outside group of size {size.text}"
  | .unnamed => "Mapper name must not be empty"
  | .missingPosition mapper => s!"{mapper}: ORDER mapper needs an order_key"
  | .strayPosition mapper => s!"{mapper}: IDENTITY mapper takes no order_key"
  | .impossibleTarget mapper target kind =>
    s!"{mapper}: target {target.name} impossible for {kind.name} scope"
  | .strayParameters mapper => s!"{mapper}: parameters only apply to methods"
  | .unknownStrategy found => s!"No resolver for mapper kind: {found.rendered}"
  | .noPosition mapper => s!"Order mapper '{mapper}' has no order key"
  | .typeOwner mapper bound =>
    s!"Type reference <{mapper}> must name a class mapper, got {bound.kindLabel}"
  | .scopeOwner scope owner needed bound =>
    s!"Scope '{scope}' needs <{owner}> to bind a {needed.name}, got {bound.kindLabel}"
  | .setForm name => s!"Mapper set must be 'module:function', got {Text.quoted name}"
  | .setUnavailable name reason =>
    s!"Cannot load mapper set {Text.quoted name}: {reason.message}"
  | .setResult name result => s!"{name} returned {result}, expected MapperRegistry"

/-- The wording of a `RegistryFault`, with all the pairs that it lists. -/
def RegistryFault.message : RegistryFault → String
  | .duplicate name => s!"Duplicate mapper name: {name}"
  | .unknown name => s!"Unknown mapper: {name}"
  | .dangling pairs =>
    "Unknown mapper dependencies: "
      ++ "; ".intercalate (pairs.map fun (mapper, missing) => s!"{mapper} → {missing}")
  | .mismatched owners =>
    "Scope owners of the wrong kind: "
      ++ "; ".intercalate (owners.map fun (mapper, owner, needed, bound) =>
        s!"{mapper} → {owner} (needs {needed.name}, binds {bound.name})")

/-- The wording of a `FileFault`, with its number and the quoted path. -/
def FileFault.message : FileFault → String
  | .notFound path => s!"[Errno 2] No such file or directory: {Text.quoted path}"
  | .occupied path => s!"[Errno 17] File exists: {Text.quoted path}"
  | .notDirectory path => s!"[Errno 20] Not a directory: {Text.quoted path}"
  | .isDirectory path => s!"[Errno 21] Is a directory: {Text.quoted path}"
  | .nameTooLong path => s!"[Errno 36] File name too long: {Text.quoted path}"

/-- The wording of an `OpenFault`, without the name of the store. -/
def OpenFault.message : OpenFault → String
  | .directory cause => cause.message
  | .noFile => "unable to open database file"
  | .foreignFile => "file is not a database"
  | .unreadable => "disk I/O error"
  | .readOnly => "attempt to write a readonly database"
  | .noAccess word => s!"no such access mode: {word}"
  | .widerAccess word => s!"access mode not allowed: {word}"
  | .noSharing word => s!"no such cache mode: {word}"
  | .noFileSystem word => s!"no such vfs: {word}"

/-- The wording of a `StoreFault`. Apart from `cannotOpen` they begin all alike. -/
def StoreFault.message : StoreFault → String
  | .cannotOpen path cause => s!"Cannot open run store at {path}: {cause.message}"
  | .missing column => s!"Run store query failed: NOT NULL constraint failed: runs.{column}"
  | .unsupported parameter kind =>
    s!"Run store query failed: Error binding parameter {parameter}: type '{kind}' is not supported"
  | .damaged => "Run store query failed: file is not a database"
  | .unreachable => "Run store query failed: unable to open database file"
  | .noTable => "Run store query failed: no such table: runs"
  | .patternTooLong => "Run store query failed: LIKE or GLOB pattern too complex"
  | .readOnly => "Run store query failed: attempt to write a readonly database"

/-- The wording of the complaint about a `TimePart` that is out of its range. -/
def TimePart.message : TimePart → String
  | .year number => s!"year {number} is out of range"
  | .month => "month must be in 1..12"
  | .day => "day is out of range for month"
  | .hour => "hour must be in 0..23"
  | .minute => "minute must be in 0..59"
  | .second => "second must be in 0..59"

/-- A span of time in days, and in seconds and `microseconds` that are not negative. Parts that are
zero are left out. -/
def spanText (microseconds : Int) : String :=
  let days := microseconds.fdiv 86400000000
  let rest := microseconds.fmod 86400000000
  let parts := [("days", days), ("seconds", rest.fdiv 1000000), ("microseconds", rest.fmod 1000000)]
  let shown := (parts.filter fun part => part.2 != 0).map fun (name, number) => s!"{name}={number}"
  "datetime.timedelta(" ++ ", ".intercalate shown ++ ")"

/-- The wording of a `ValueFault`. Those about too many digits name `Text.digitLimit`. -/
def ValueFault.message : ValueFault → String
  | .notInteger text => s!"invalid literal for int() with base 10: {Text.quoted text}"
  | .integerOfNotANumber => "cannot convert float NaN to integer"
  | .tooManyDigits digits =>
    s!"Exceeds the limit ({Text.digitLimit} digits) for integer string conversion: value has "
      ++ s!"{digits} digits; use sys.set_int_max_str_digits() to increase the limit"
  | .unwritable =>
    s!"Exceeds the limit ({Text.digitLimit} digits) for integer string conversion; "
      ++ "use sys.set_int_max_str_digits() to increase the limit"
  | .methodDescriptor text => s!"Malformed method descriptor: {Text.quoted text}"
  | .notMember found enumeration =>
    s!"{found.rendered} is not a valid {enumeration.label}"
  | .emptyConjunction => "Conjunction needs at least one predicate"
  | .noRun id => s!"No run record with id={id}"
  | .timestamp text => s!"Invalid isoformat string: {Text.quoted text}"
  | .timePart part => part.message
  | .timeOffset microseconds =>
    "offset must be a timedelta strictly between -timedelta(hours=24) and timedelta(hours=24), "
      ++ s!"not {spanText microseconds}."
  | .zeroCharacter => "embedded null byte"

/-- The wording of an `OverflowFault`, which says what is too large and for what. -/
def OverflowFault.message : OverflowFault → String
  | .integerOfInfinity => "cannot convert float infinity to integer"
  | .column => "Python int too large to convert to SQLite INTEGER"

/-- The wording of an `UnresolvedState` of the mapper named `mapper`. -/
def UnresolvedState.message (mapper : String) : UnresolvedState → String
  | .pending => s!"Mapper '{mapper}' has not been evaluated"
  | .failed => s!"Mapper '{mapper}' is failed"
  | .skipped => s!"Mapper '{mapper}' is skipped"

/-- The wording of the complaint about unpaired code units that stand together at `position`: a
single one is shown, several are counted. -/
def unencodableMessage (position : Nat) : List Char → String
  | [c] =>
    let shown := String.ofList (Text.numericEscape c)
    s!"'utf-8' codec can't encode character '{shown}' in position {position}: "
      ++ "surrogates not allowed"
  | units =>
    let last := position + units.length - 1
    s!"'utf-8' codec can't encode characters in position {position}-{last}: surrogates not allowed"

/-- The wording of every `Fault`, from the wordings of its causes. -/
def Fault.message : Fault → String
  | .document cause => cause.message
  | .configuration cause => cause.message
  | .registry cause => cause.message
  | .cycle members => "Cyclic mapper dependency between: " ++ ", ".intercalate members
  | .misbound mapper entity => s!"{mapper} targets a class but bound {entity.rendered}"
  | .recordedTwice mapper => s!"Mapping table entry for '{mapper}' is already recorded"
  | .unresolved mapper state => state.message mapper
  | .store cause => cause.message
  | .value cause => cause.message
  | .overflow cause => cause.message
  | .missingKey key => Text.quoted key
  | .json text problem offset => Json.complaint text problem offset
  | .tooDeep => "nested too deeply"
  | .encoding => "not encoded as UTF-8"
  | .unencodable position units => unencodableMessage position units
  | .raised message => message
  | .wrongType => "wrong type"
  | .noAttribute => "no such attribute"
  | .divisionByZero => "division by zero"
  | .file cause => cause.message

/-- Whether a command reports the fault to its user and ends with a status. The others end the
program. -/
def Fault.isReported : Fault → Bool
  | .document _ | .configuration _ | .registry _ | .cycle _ | .misbound .. | .recordedTwice _
  | .unresolved .. | .store _ | .value _ | .json .. | .encoding | .unencodable .. => true
  | .overflow _ | .missingKey _ | .tooDeep | .raised _ | .wrongType | .noAttribute
  | .divisionByZero | .file _ => false

/-- The result `result` of a computation whose sentence names `numbers`. Sentences are written when
the computation gets to them, so that it ends with a fault of its own if one of the numbers has no
text. -/
def Whole.naming {α : Type} (numbers : List Whole) (result : Except Fault α) : Except Fault α :=
  if numbers.all isWritable then result else .error (.value .unwritable)

/-- Numbers that are named in two steps are named in one: two guards `naming` are one for
`numbers ++ others`. -/
theorem Whole.naming_naming {α : Type} (numbers others : List Whole) (result : Except Fault α) :
    naming numbers (naming others result) = naming (numbers ++ others) result := by
  unfold naming
  rw [List.all_append]
  cases numbers.all isWritable <;> rfl

/-- A `fault` stays a fault, whichever `numbers` it names: none of them gives a `value`. -/
theorem Whole.naming_error_ne_ok {α : Type} (numbers : List Whole) (fault : Fault) (value : α) :
    naming numbers (.error fault) ≠ .ok value := by
  unfold naming
  split <;> exact fun h => nomatch h

end Reidentify
