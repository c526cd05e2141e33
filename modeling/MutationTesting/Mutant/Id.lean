import MutationTesting.Digest.Sha256
import MutationTesting.Tree.Node

/-! Stable identifiers of mutants, derived from where and how a mutant was made. -/
namespace MutationTesting

def idLength : Nat := 12

/-- The lowest eight bytes of a number, the least significant one first. -/
def littleEndian8 (n : Nat) : List UInt8 := (Sha256.bigEndian n 8).reverse

/-- The bytes that an identifier is the digest of: file, path and operator, each closed by a zero
byte, and the ordinal among the operator's proposals for the node. -/
def idPreimage (file : String) (path : Path) (operator : String) (ordinal : Nat) : List UInt8 :=
  file.toUTF8.toList ++ 0 :: path.text.toUTF8.toList ++ 0 :: operator.toUTF8.toList ++
    0 :: littleEndian8 ordinal

def mutantId (file : String) (path : Path) (operator : String) (ordinal : Nat) : String :=
  String.ofList ((Sha256.hexDigest (idPreimage file path operator ordinal)).take idLength)

end MutationTesting
