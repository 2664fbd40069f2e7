import Mathlib.Logic.Function.Basic
import Mathlib.Data.List.DropRight
import CraftIP.SocketPacket

/-!
# The register of connected servers (`server/src/register.rs`)

A map from hostnames to the channels of the sessions that serve them.
-/

namespace CraftIP

inductive DistributorError where
  | clientNotFound
  | serverNotFound (server : String)
  | serverAlreadyConnected
  | serverNotConnected (server : String)
  | authError
  | timeout
  | wrongPacket
  | tooManyClients
  | unknownError (error : String)
  | ioError
deriving DecidableEq, Repr

/-- Dots at the end do not count, and a first label that starts with `random-` is dropped. -/
def cleanUpHostname (hostname : String) : String :=
  let hostname := hostname.toList.rdropWhile (· = '.')
  if "random-".toList.isPrefixOf hostname then
    String.ofList (hostname.dropWhile (· ≠ '.')).tail
  else String.ofList hostname

structure Register (Tx : Type) where
  servers : String → Option Tx

namespace Register
variable {Tx : Type}

def empty : Register Tx := ⟨fun _ => none⟩

def getServer (r : Register Tx) (hostname : String) : Option Tx := r.servers hostname

def removeServer (r : Register Tx) (hostname : String) : Register Tx :=
  ⟨Function.update r.servers hostname none⟩

def addServer (r : Register Tx) (hostname : String) (tx : Tx) : Except DistributorError (Register Tx) :=
  if (r.servers hostname).isSome then .error .serverAlreadyConnected
  else .ok ⟨Function.update r.servers hostname (some tx)⟩

@[simp] theorem getServer_removeServer (r : Register Tx) (h h' : String) :
    (r.removeServer h).getServer h' = if h' = h then none else r.getServer h' := by
  simp only [getServer, removeServer, Function.update_apply]

theorem addServer_eq_ok {r r' : Register Tx} {h : String} {tx : Tx} (ha : r.addServer h tx = .ok r') :
    r.getServer h = none ∧ ∀ h', r'.getServer h' = if h' = h then some tx else r.getServer h' := by
  rw [addServer] at ha
  split at ha
  · cases ha
  · next hn =>
    cases ha
    exact ⟨Option.not_isSome_iff_eq_none.1 hn, fun h' => by simp only [getServer, Function.update_apply]⟩

example : cleanUpHostname "random-123123.testawe.random.com" = "testawe.random.com" := by decide
example : cleanUpHostname "random-123123" = "" := by decide

end Register
end CraftIP
