import ProofDriver.Hash.Sha256
/-!
# Tagged digests

A digest of several byte strings under a tag. Each string goes in behind its length, so that no two
lists of strings are absorbed alike.
-/

namespace ProofDriver.Hash

/-- What is hashed: the tag, then every part behind its length in eight bytes. -/
def absorb (tag : Bytes) (parts : List Bytes) : Bytes :=
  tag ++ parts.flatMap fun part => Bytes.bigEndian 8 part.length ++ part

def tagged (tag : Bytes) (parts : List Bytes) : Bytes :=
  Sha256.digest (absorb tag parts)

@[simp] theorem length_tagged (tag : Bytes) (parts : List Bytes) :
    (tagged tag parts).length = 32 := by
  simp [tagged]

/-- What a digest is made for. -/
inductive Domain where
  | key
  | coreProof
  | compressedProof
  | plonkProof
  deriving Repr, DecidableEq

def Domain.text : Domain → String
  | key => "FIB|VKEY|v1|"
  | coreProof => "FIB|CORE|PROOF|v1|"
  | compressedProof => "FIB|COMPRESSED|PROOF|v1|"
  | plonkProof => "FIB|PLONK|BN254|v1|"

def Domain.tag (d : Domain) : Bytes :=
  d.text.toUTF8.toList

end ProofDriver.Hash
