import Gossip.Bytes.LittleEndian

/-! The networks that peers talk on, and the protocol versions they agree on.

Every frame starts with the magic number of its network. -/
namespace Gossip

inductive Network where
  | mainnet
  | testnet3
  | regtest
  | signet
  deriving DecidableEq, Repr, Inhabited

namespace Network

/-- The number that starts every frame on the network. -/
def magic : Network → UInt32
  | .mainnet => 0xD9B4BEF9
  | .testnet3 => 0x0709110B
  | .regtest => 0xDAB5BFFA
  | .signet => 0x40CF030A

def all : List Network := [.mainnet, .testnet3, .regtest, .signet]

/-- The network with a magic number. -/
def ofMagic? (magic : UInt32) : Option Network :=
  all.find? fun network => network.magic == magic

def name : Network → String
  | .mainnet => "mainnet"
  | .testnet3 => "testnet3"
  | .regtest => "regtest"
  | .signet => "signet"

/-- The network with a name; case matters. -/
def ofName? (name : String) : Option Network :=
  all.find? fun network => network.name == name

def diagnostic : Network → String
  | .mainnet => "Mainnet"
  | .testnet3 => "Testnet3"
  | .regtest => "Regtest"
  | .signet => "Signet"

end Network

/-- A protocol version that two peers agreed on. -/
structure ProtocolVersion where
  number : UInt32
  deriving DecidableEq, Repr

namespace ProtocolVersion

/-- The version that is spoken unless another one is agreed on. -/
def current : ProtocolVersion := ⟨70016⟩

def text (version : ProtocolVersion) : String := toString version.number

def diagnostic (version : ProtocolVersion) : String :=
  "ProtocolVersion(" ++ version.text ++ ")"

instance : Ord ProtocolVersion := ⟨fun a b => compare a.number b.number⟩

end ProtocolVersion

/-- How large a payload may be, whatever its message. -/
structure Limits where
  maxPayloadBytes : Nat
  deriving DecidableEq, Repr

namespace Limits

/-- 32 MiB. -/
def standard : Limits := ⟨32 * 1024 * 1024⟩

/-- 64 KiB, for trying limits out. -/
def small : Limits := ⟨64 * 1024⟩

end Limits
end Gossip
