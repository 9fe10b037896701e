import Gossip.Digest.Sha256

/-! The checksum of a payload: the first four bytes of its double SHA-256 digest. -/
namespace Gossip

/-- Four bytes that vouch for a payload. -/
abbrev Checksum := Octets 4

/-- The first word of the digest of the payload's digest. -/
def Checksum.of (payload : Bytes) : Checksum :=
  Digest.Sha256.bytesOf (Digest.Sha256.run (Digest.Sha256.digest payload)).a

end Gossip
