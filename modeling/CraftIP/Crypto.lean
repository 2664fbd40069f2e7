import CraftIP.Lib.Unicode
import CraftIP.SocketPacket

/-!
# Keys of the proxy clients (`protocol/src/crypto.rs`)

A proxy client's hostname is made from a hash of its public key, and the server checks a signature of a
challenge to see that the client has the private key.
-/

namespace CraftIP
open Unicode (utf8)

def PREFIX : String := "CraftIPServerHost"
def HOSTNAME_LENGTH : Nat := 20

/-- The crates `ring` and `base_x`, as far as they are called. -/
structure Crypto where
  sha256 : List UInt8 → List UInt8
  base36 : List UInt8 → String
  verifyEd25519 : (key message signature : List UInt8) → Bool

/-- What is signed for a challenge. -/
def createChallenge (data : List UInt8) : List UInt8 := utf8 PREFIX ++ data

namespace ServerPublicKey
variable (C : Crypto)

/-- The letters of the base-36 form are single bytes, so that `truncate` counts letters. -/
def getHost (k : ServerPublicKey) : String :=
  String.ofList ((C.base36 (C.sha256 (utf8 PREFIX ++ k.key.toList))).toList.take HOSTNAME_LENGTH)

def getHostname (k : ServerPublicKey) : String := k.getHost C ++ KEY_SERVER_SUFFIX

def verify (k : ServerPublicKey) (data : ChallengeDataType) (signature : SignatureDataType) : Bool :=
  C.verifyEd25519 k.key.toList (createChallenge data.toList) signature.toList

/-! ### A key and a signature -/

/-- The key of the source's test. -/
def sample : ServerPublicKey :=
  ⟨#v[192, 167, 235, 13, 200, 199, 33, 242, 182, 72, 244, 223, 218, 48, 255, 38, 179, 46, 240, 69, 208, 131,
    240, 87, 53, 26, 24, 253, 144, 23, 112, 38]⟩

def sampleChallenge : ChallengeDataType := .replicate 64 7

def sampleSignature : SignatureDataType :=
  #v[176, 130, 126, 152, 30, 203, 234, 223, 71, 28, 123, 19, 3, 238, 172, 17, 78, 81, 95, 246, 252, 234, 118,
    109, 155, 225, 155, 57, 198, 10, 17, 184, 37, 129, 87, 47, 87, 125, 218, 75, 6, 13, 212, 59, 84, 201, 234,
    146, 131, 125, 80, 120, 249, 76, 144, 197, 92, 19, 25, 73, 118, 157, 20, 15]

def sampleChecksum : List UInt8 :=
  [139, 12, 44, 9, 70, 122, 3, 88, 237, 71, 184, 176, 70, 30, 3, 188, 136, 49, 126, 8, 187, 134, 139, 118,
    145, 190, 218, 252, 159, 156, 168, 40]

/-- The crates where they are called for the key, the challenge and the signature. -/
def sampleCrypto : Crypto where
  sha256 m := if m = utf8 PREFIX ++ sample.key.toList then sampleChecksum else []
  base36 b := if b = sampleChecksum then "3grfiewn7rkrpizi11dmamooxbd3t275fzp2z21dn7x2umplpk" else ""
  verifyEd25519 k m s :=
    k = sample.key.toList ∧ m = utf8 PREFIX ++ sampleChallenge.toList ∧ s = sampleSignature.toList

theorem getHostname_sample : sample.getHostname sampleCrypto = "3grfiewn7rkrpizi11dm.t.craftip.net" := by
  decide +kernel

end ServerPublicKey
end CraftIP
