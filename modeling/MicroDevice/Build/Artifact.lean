import MicroDevice.Build.Workshop
import MicroDevice.Digest.Sha256

/-! # Object artifacts

A written object file, known by its size and the digest of its contents.
-/

namespace MicroDevice

/-- An object file that has been written. -/
structure ObjectArtifact where
  path : Path
  size : Nat
  /-- The SHA-256 digest of the contents, in hexadecimal digits. -/
  digest : String
  deriving DecidableEq, Repr

namespace ObjectArtifact

/-- The artifact of a path and its contents. -/
def ofBytes (path : Path) (contents : Bytes) : ObjectArtifact :=
  ⟨path, contents.length, Sha256.digest contents⟩

/-- The artifact of a file that exists. -/
def ofFile (files : FileTree) (path : Path) : Except IoFault ObjectArtifact :=
  (ofBytes path) <$> files.read path

/-- An artifact as messages show it. -/
def text (artifact : ObjectArtifact) : String :=
  artifact.path.text ++ s!" ({artifact.size} bytes, sha256 " ++
    String.ofList (artifact.digest.toList.take 12) ++ ")"

end ObjectArtifact

end MicroDevice
