import Reidentify.Fault
import Reidentify.Text.Octets

/-!
# Paths

A path is a sequence of names that leads from the root or from the working directory to a file.
Empty names and single dots lead nowhere and are dropped when a path is read, so a path has one
written form; a double dot is kept, because where it leads depends on the files.
-/

namespace Reidentify

/-- A path along `names`, from the root or from the working directory. -/
structure Path where
  /-- The number of slashes at the beginning. A path without any starts at the working directory,
  every other path at the root. -/
  slashes : Nat
  /-- The names on the way, double dots included. -/
  names : List String
  deriving DecidableEq, Repr

namespace Path

/-- The pieces of characters between slashes, empty ones included. -/
def pieces : List Char → List (List Char)
  | [] => [[]]
  | '/' :: rest => [] :: pieces rest
  | c :: rest =>
    match pieces rest with
    | [] => [[c]]
    | first :: others => (c :: first) :: others

/-- Whether `piece` leads somewhere: it is neither empty nor a single dot. -/
def leads (piece : List Char) : Bool :=
  piece != [] && piece != ['.']

/-- How many slashes a path keeps of the `count` at its beginning: two are kept, more are one. -/
def keptSlashes (count : Nat) : Nat :=
  if count = 0 then 0 else if count = 2 then 2 else 1

/-- Reads the path that `text` writes, without the pieces that lead nowhere (`leads`). -/
def ofText (text : String) : Path :=
  let chars := text.toList
  { slashes := keptSlashes (chars.takeWhile (· == '/')).length
    names := ((pieces chars).filter leads).map String.ofList }

/-- The written form of `path`, which `ofText` reads back. -/
def text (path : Path) : String :=
  if path.slashes = 0 ∧ path.names = [] then "."
  else String.ofList (List.replicate path.slashes '/') ++ "/".intercalate path.names

/-- The path of the root, `/`, which has no names. -/
def root : Path := ⟨1, []⟩

/-- The absolute path from the root along `names`. -/
def fromRoot (names : List String) : Path := ⟨1, names⟩

/-- Whether `path` starts at the root, by its `slashes`. -/
def isAbsolute (path : Path) : Bool := 0 < path.slashes

/-- The path `path` without its last name, or the path itself if it has none. -/
def parent (path : Path) : Path := { path with names := path.names.dropLast }

/-- The path that continues `path` with `other`, which counts alone if it starts at the root. -/
def append (path other : Path) : Path :=
  if other.isAbsolute then other else { path with names := path.names ++ other.names }

/-- The path of the file in `path` that `text` names. The text may itself be a path, even one from
the root. -/
def file (path : Path) (text : String) : Path := path.append (ofText text)

/-- The text of the home directory `home` without slashes at its end. -/
def homeText (home : String) : String :=
  let kept := (home.toList.reverse.dropWhile (· == '/')).reverse
  if kept.isEmpty then "/" else String.ofList kept

/-- The fault of a `name` that nothing can have because of its characters. -/
def misspellingOf? (name : String) : Option Fault :=
  match Text.firstUnpaired? Text.isNameless 0 name.toList with
  | some (position, units) => some (.unencodable position units)
  | none => if name.toList.contains '\x00' then some (.value .zeroCharacter) else none

/-- The fault of `path` if it cannot lead anywhere because of its characters (`misspellingOf?`). -/
def misspelling? (path : Path) : Option Fault := misspellingOf? path.text

/-- Puts the home directory in the place of a first name that is a tilde. A tilde with more behind
it means the home directory of somebody else, which is not known. -/
def expanded (home : Option String) (path : Path) : Except Fault Path :=
  match path.slashes, path.names with
  | 0, first :: rest =>
    if first.startsWith "~" then
      let somebody := String.ofList (first.toList.drop 1)
      match home, somebody with
      | some directory, "" =>
        if directory.startsWith "~" then .error (.raised unknownHome)
        else
          let start := ofText (homeText directory)
          .ok { start with names := start.names ++ rest }
      | _, _ => .error ((misspellingOf? somebody).getD (.raised unknownHome))
    else .ok path
  | _, _ => .ok path
where
  /-- The complaint about a home directory that is not known. -/
  unknownHome : String := "Could not determine home directory."

@[simp] theorem parent_names_length (path : Path) :
    path.parent.names.length = path.names.length - 1 := by
  simp [parent]

end Path

end Reidentify
