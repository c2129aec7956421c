import Reidentify.Artifact.Document
import Reidentify.Bytes.Sha256
import Reidentify.Trail

/-!
# Files of artifacts

A file holds the document of an artifact as JSON text in UTF-8. Its line ends are unified before
it is read. The key of a file is the beginning of the digest of its bytes, so it changes with
any byte.
-/

namespace Reidentify

/-- Makes every line end of a text a single line feed, a carriage return on its own included. -/
def unifyLineEnds : List Char → List Char
  | [] => []
  | '\r' :: '\n' :: rest => '\n' :: unifyLineEnds rest
  | '\r' :: rest => '\n' :: unifyLineEnds rest
  | c :: rest => c :: unifyLineEnds rest

/-- The number of hexadecimal digits that a `fileKey` has of the whole digest. -/
def fileKeyLength : Nat := 16

/-- The key of a file with the contents `bytes`: the first `fileKeyLength` digits of their digest.
-/
def fileKey (bytes : ByteArray) : String :=
  String.ofList ((Sha256.hexDigest bytes.toList).toList.take fileKeyLength)

/-- Reads an artifact from the `text` of the file at `path`, after its line ends are unified. -/
def Artifact.ofText (path text : String) : Except Fault Artifact :=
  let unified := String.ofList (unifyLineEnds text.toList)
  match Json.read unified with
  | .ok document => Artifact.ofValue document
  | .error (.malformed problem offset) => .error (.document (.notJson path unified problem offset))
  | .error .tooDeep => .error .tooDeep
  | .error (.integerTooLong digits) => .error (.value (.tooManyDigits digits))

/-- Reads an artifact from the `bytes` of the file at `path`, which have to be UTF-8. -/
def Artifact.ofBytes (path : String) (bytes : ByteArray) : Except Fault Artifact :=
  match String.fromUTF8? bytes with
  | some text => Artifact.ofText path text
  | none => .error .encoding

/-- Reads an artifact from the file at `path`, which may not be there (`none`). -/
def Artifact.ofFile (path : String) (content : Option ByteArray) : Except Fault Artifact :=
  match content with
  | some bytes => Artifact.ofBytes path bytes
  | none => .error (.document (.noFile path))

end Reidentify
