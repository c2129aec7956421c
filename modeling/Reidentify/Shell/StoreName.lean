import Reidentify.Shell.Path

/-!
# Names of stores

A store is named by a path, which leads to the file that keeps it. A path that begins with the word
for files and a colon is a locator instead: a name, and behind a question mark options, each a name
and a value. In a locator a percent sign with two hexadecimal digits stands for an octet, and
everything behind a hash is left out. The options say what may be done to the store, whether it is
shared, and how its file is used; a store whose name is empty, or that is asked to be in memory, is
kept in no file at all.
-/

namespace Reidentify

/-- What may be done to a store, from the narrowest to the widest (`Access.width`). -/
inductive Access where
  /-- The store may be read. -/
  | read
  /-- The store may be changed, too. -/
  | change
  /-- The store may be made if it is missing, too. -/
  | make
  deriving DecidableEq, Repr

namespace Access

/-- How wide an access is, as a number by which two of them are compared. -/
def width : Access → Nat
  | .read => 0
  | .change => 1
  | .make => 2

/-- The access that a word in the `mode` of a locator stands for, if it is one. -/
def ofWord? : String → Option Access
  | "ro" => some .read
  | "rw" => some .change
  | "rwc" => some .make
  | _ => none

end Access

/-- Where a store is kept, as its name says: in a file, or in memory. -/
inductive StoreHome where
  /-- In no file, and only for the moment of a request. -/
  | nowhere
  /-- In no file, but under `key`, by which later requests find it. -/
  | shared (key : String)
  /-- In the file at `path`. -/
  | file (path : Path)
  deriving DecidableEq, Repr

/-- What the name of a store says about how it is found and used, whether it is a path or a
`Locator`. -/
structure StoreName where
  /-- Where the store is kept. -/
  home : StoreHome
  /-- What may be done to the store. -/
  access : Access
  /-- Whether what keeps the store is taken to be something that never changes. -/
  isFixed : Bool
  /-- Whether the file of the store is used without locks. -/
  isUnlocked : Bool
  deriving DecidableEq, Repr

/-- A locator, taken apart by `Locator.ofText?` into a name and options. -/
structure Locator where
  /-- The name. -/
  name : String
  /-- The options, none of which has the empty name. -/
  options : List (String × String)
  deriving DecidableEq, Repr

namespace Locator

/-- The word that locators begin with, colon included (`ofText?`). -/
def scheme : String := "file:"

/-- The octets that the characters of a section of a locator stand for. The octet zero ends it. -/
def octets : List Char → List UInt8
  | '%' :: high :: low :: rest =>
    match Text.hexValue? high, Text.hexValue? low with
    | some h, some l => if h = 0 && l = 0 then [] else UInt8.ofNat (16 * h + l) :: octets rest
    | _, _ => Text.characterOctets '%' ++ octets (high :: low :: rest)
  | c :: rest => Text.characterOctets c ++ octets rest
  | [] => []

/-- The text that the section `piece` of a locator stands for. -/
def decoded (piece : String) : String := Text.ofOctets (octets piece.toList)

/-- The parts of `text` before and behind the first `separator`. Without one, nothing is behind. -/
def divided (separator : Char) (text : String) : String × String :=
  let chars := text.toList
  (String.ofList (chars.takeWhile (· != separator)),
    String.ofList ((chars.dropWhile (· != separator)).drop 1))

/-- The option that is written in the section `piece`, unless its name is empty. -/
def optionOf? (piece : String) : Option (String × String) :=
  let (name, value) := divided '=' piece
  if (decoded name).isEmpty then none else some (decoded name, decoded value)

/-- Takes the locator `text` apart, if it is one. -/
def ofText? (text : String) : Option Locator :=
  if text.startsWith scheme then
    let (body, _) := divided '#' (String.ofList (text.toList.drop scheme.length))
    let (name, options) := divided '?' body
    some ⟨decoded name, (options.splitOn "&").filterMap optionOf?⟩
  else none

/-- Whether the `value` of a switch is on: a number that is not zero in its last eight bits, or a
word. -/
def isOn (value : String) : Bool :=
  match value.toList.takeWhile fun c => '0' ≤ c && c ≤ '9' with
  | [] => ["on", "yes", "true", "extra", "full"].contains (value.map Char.toLower)
  | digits => (String.ofList digits).toNat?.any fun n => n < Nat.pow 2 31 && n % 256 != 0

/-- Whether the switch `name` is on, which is off if no option is about it. Only the first one
counts. -/
def has (locator : Locator) (name : String) : Bool :=
  (locator.options.lookup name).any isOn

/-- How a store is opened, after some of the options of its locator were read. -/
structure Mode where
  /-- Whether the store is in memory. -/
  inMemory : Bool
  /-- What may be done to the store, as the options so far say. -/
  access : Access
  /-- Whether a store in memory is shared. -/
  isShared : Bool
  /-- The file system. -/
  fileSystem : String
  deriving DecidableEq, Repr

/-- How a store is opened if no option of its locator says anything about it. -/
def Mode.standard : Mode := ⟨false, .make, false, "unix"⟩

/-- The mode `mode` with the access `word`. It may not be wider than the one before it, unless the
store was to be in memory. -/
def Mode.withAccess (mode : Mode) (word : String) : Except OpenFault Mode :=
  if word = "memory" then .ok { mode with inMemory := true, access := .make }
  else
    match Access.ofWord? word with
    | none => .error (.noAccess word)
    | some access =>
      if !mode.inMemory && mode.access.width < access.width then .error (.widerAccess word)
      else .ok { mode with inMemory := false, access }

/-- The mode `mode` with one option more. Options that are not known count for nothing. -/
def Mode.withOption (mode : Mode) : String × String → Except OpenFault Mode
  | ("vfs", word) => .ok { mode with fileSystem := word }
  | ("cache", "shared") => .ok { mode with isShared := true }
  | ("cache", "private") => .ok { mode with isShared := false }
  | ("cache", word) => .error (.noSharing word)
  | ("mode", word) => mode.withAccess word
  | _ => .ok mode

/-- The names of the file systems that are on the disk, which an option `vfs` may give. -/
def diskSystems : List String := ["unix", "unix-none", "unix-dotfile", "unix-excl"]

/-- The file systems without locks that more than one process knows, among `diskSystems`. -/
def unlockedSystems : List String := ["unix-none", "unix-dotfile"]

/-- The name of the file system in memory, which an option `vfs` may give. -/
def memorySystem : String := "memdb"

/-- The name of a store in memory, which stands for no file as a path and in a locator. -/
def memoryName : String := ":memory:"

/-- Whether no file system is needed to find the store of `locator`. -/
def isAside (locator : Locator) (mode : Mode) : Bool :=
  locator.name.isEmpty || mode.inMemory || locator.name = memoryName

/-- Whether the file system in memory shares a store by its `name`, which then starts at the root.
-/
def isRooted (name : String) : Bool :=
  1 < name.length && (name.startsWith "/" || name.startsWith "\\")

/-- Where the store of `locator` is kept, opened by `mode`. -/
def home (locator : Locator) (mode : Mode) : StoreHome :=
  let name := locator.name
  let kept := !name.isEmpty && (mode.isShared || !locator.isAside mode && isRooted name)
  if locator.isAside mode || mode.fileSystem = memorySystem then
    if kept then .shared name else .nowhere
  else .file (Path.ofText name)

/-- What `locator` says. Its options are read in order, and the file system is looked up last. -/
def storeName (locator : Locator) : Except OpenFault StoreName :=
  match locator.options.foldlM Mode.withOption Mode.standard with
  | .error cause => .error cause
  | .ok mode =>
    if mode.fileSystem = memorySystem || diskSystems.contains mode.fileSystem then
      .ok {
        home := locator.home mode
        access := mode.access
        isFixed := !locator.isAside mode && locator.has "immutable"
        isUnlocked := locator.has "nolock" || unlockedSystems.contains mode.fileSystem }
    else .error (.noFileSystem mode.fileSystem)

end Locator

/-- What the `path` that names a store says, as a locator or as the path of a file. -/
def StoreName.ofPath (path : Path) : Except OpenFault StoreName :=
  match Locator.ofText? path.text with
  | some locator => locator.storeName
  | none =>
    .ok ⟨if path.text = Locator.memoryName then .nowhere else .file path, .make, false, false⟩

end Reidentify
