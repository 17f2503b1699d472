/-
  TfScale.Custom.KeyInputs

  Do the HKDF inputs of a peer pair identify the pair?

  All keys of a pair are derived from one shared secret with one salt, so what keeps
  them apart is the info.  A session key's info holds two sorted pairs written one after
  the other with nothing between them.  Ids have one length and so have credentials, so
  the two halves of a pair are found again and only their order is lost, which is what
  `Sym2` forgets (`sortedPair_eq_iff`).  A direction's info keeps the order, and starts
  with another prefix.
-/

import Mathlib.Data.Sym.Sym2
import TfScale.Custom.Channel
import TfScale.Lib.Text

namespace TfScale.Custom

-- ============================================================================
-- Sorted pairs
-- ============================================================================

/-- A public credential as `encode_public_credential` writes it: the prefix, then a key
    of 32 bytes in base64 without padding, which takes 43 bytes. -/
def InFormat (credential : String) : Prop :=
  ∃ key, credential = publicCredentialPrefix ++ key ∧ (strBytes key).length = 43

theorem InFormat.length {credential : String} (h : InFormat credential) :
    (strBytes credential).length = 49 := by
  obtain ⟨key, rfl, hkey⟩ := h
  rw [strBytes_append, List.length_append, hkey]
  rfl

variable {idA idB idA' idB' : FrameDeviceId} {credA credB credA' credB' : String}

namespace Reference

def keyId (a : UInt8) : FrameDeviceId := .replicate 16 a

end Reference

end TfScale.Custom
