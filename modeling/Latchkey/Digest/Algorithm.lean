import Latchkey.Digest.Md5
import Latchkey.Digest.Sha1
import Latchkey.Digest.Sha256
import Latchkey.Digest.Sha512
import Latchkey.Digest.Blake3

namespace Latchkey.Digest

/-- A digest that can be asked for by name. -/
inductive Algorithm where
  | md5
  | sha1
  | sha256
  | sha512
  | blake3
deriving Repr, DecidableEq

namespace Algorithm

/-- MD5 is used where no digest is named. -/
instance : Inhabited Algorithm := ⟨.md5⟩

def all : List Algorithm := [.md5, .sha1, .sha256, .sha512, .blake3]

def name : Algorithm → String
  | .md5 => "md5"
  | .sha1 => "sha1"
  | .sha256 => "sha256"
  | .sha512 => "sha512"
  | .blake3 => "blake3"

/-- The digest with this name. -/
def ofName? (name : String) : Option Algorithm := all.find? (·.name == name)

def digest : Algorithm → List UInt8 → List UInt8
  | .md5 => Md5.digest
  | .sha1 => Sha1.digest
  | .sha256 => Sha256.digest
  | .sha512 => Sha512.digest
  | .blake3 => Blake3.digest

/-- The digest of the bytes in lowercase hexadecimal digits. -/
def hexDigest (a : Algorithm) (bytes : List UInt8) : String := hex (a.digest bytes)

end Algorithm
end Latchkey.Digest
