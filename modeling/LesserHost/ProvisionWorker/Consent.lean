import LesserHost.Go.Base64
import LesserHost.Go.JSONText
import LesserHost.ProvisionWorker.Calls

set_option autoImplicit false

/-! # Consent packets

`internal/provisionworker/consent_crypto.go`. Message and signature are packed as one JSON object, which is
encrypted and stored as text behind a version prefix. AES-GCM is a parameter. -/

namespace LesserHost.ProvisionWorker

open LesserHost.Go

def consentEncryptionVersionPrefix : String := "enc:v1:"

/-- `PackConsent`: `json.Marshal` of the packet. -/
def packConsent (message signature : String) : String :=
  String.ofList ('\x7b' :: (JSONText.quote "message" ++ ':' :: (JSONText.quote message ++
    ',' :: (JSONText.quote "signature" ++ ':' :: (JSONText.quote signature ++ ['\x7d'])))))

/-- One member of the object, read into the packet. A member of the right name and the wrong type is an
    error, null leaves the field as it is. -/
def readMember (packet : Option (String × String)) (member : String × JSONText.Value) :
    Option (String × String) :=
  match packet with
  | none => none
  | some (message, signature) =>
      if EqualFold member.1 "message" then
        match member.2 with
        | .string s => some (s, signature)
        | .null => some (message, signature)
        | _ => none
      else if EqualFold member.1 "signature" then
        match member.2 with
        | .string s => some (message, s)
        | .null => some (message, signature)
        | _ => none
      else some (message, signature)

/-- `json.Unmarshal` into a packet. -/
def unmarshalPacket (raw : String) : Option (String × String) :=
  match JSONText.parse raw with
  | some (.object members) => members.foldl readMember (some ("", ""))
  | some .null => some ("", "")
  | _ => none

/-- `UnpackConsent`: what is no packet is a message without a signature. -/
def unpackConsent (raw : String) : String × String := (unmarshalPacket raw).getD (raw, "")

/-- The size of a nonce of AES-GCM. -/
def nonceSize : Nat := 12

def errConsentEncryptionKeyRequired : String := "consent encryption key is required"

/-- `EncryptConsent`, with the nonce that was drawn. -/
def EncryptConsent (gcmSeal : (key nonce : List UInt8) → String → List UInt8) (nonce : List UInt8)
    (plaintext : String) (key : List UInt8) : Except GoErr String :=
  if plaintext = "" then .ok ""
  else if key.length ≠ 32 then
    .error (errorf (errConsentEncryptionKeyRequired ++ ": key must be 32 bytes"))
  else .ok (consentEncryptionVersionPrefix
    ++ asciiText (Base64.rawEncode (nonce ++ gcmSeal key nonce plaintext)))

/-- `DecryptConsent`. Text without the prefix is plaintext of an older job. -/
def DecryptConsent (s : Server) (encoded : String) (key : List UInt8) : Except GoErr String :=
  let encoded := TrimSpace encoded
  if encoded = "" then .ok ""
  else if HasPrefix encoded consentEncryptionVersionPrefix = false then .ok encoded
  else
    let b64 := TrimPrefix encoded consentEncryptionVersionPrefix
    if b64 = "" then .ok ""
    else match Base64.rawDecode (bytes b64) with
    | none => .error (errorf "consent decrypt: base64: illegal base64 data")
    | some ciphertext =>
        if key.length ≠ 32 then
          .error (errorf (errConsentEncryptionKeyRequired ++ ": key must be 32 bytes"))
        else if ciphertext.length < nonceSize then
          .error (errorf "consent decrypt: ciphertext too short")
        else match s.gcmOpen key (ciphertext.take nonceSize) (ciphertext.drop nonceSize) with
        | some plaintext => .ok plaintext
        | none => .error (errorf "consent decrypt: cipher: message authentication failed")

/-- `hex.DecodeString`. -/
def decodeHex : List Char → Option (List UInt8)
  | [] => some []
  | a :: b :: rest => do
      let high ← JSONText.hexValue a
      let low ← JSONText.hexValue b
      return UInt8.ofNat (16 * high + low) :: (← decodeHex rest)
  | [_] => none

def ConsentEncryptionKeyHex (keyHex : String) : Except GoErr (List UInt8) :=
  let keyHex := TrimSpace keyHex
  if keyHex = "" then .error (errorf errConsentEncryptionKeyRequired)
  else match decodeHex keyHex.toList with
  | none => .error (errorf "consent encryption key: hex decode: invalid hex")
  | some key =>
      if key.length ≠ 32 then
        .error (errorf ("consent encryption key: decoded key must be 32 bytes, got " ++ Itoa key.length))
      else .ok key

/-- `decryptConsentFromJob`: message and signature in memory. -/
def decryptConsentFromJob (s : Server) (job : ProvisionJob) : Except GoErr ProvisionJob :=
  if TrimSpace job.ConsentEncrypted = "" then .ok job
  else match ConsentEncryptionKeyHex s.cfg.ManagedProvisionConsentEncryptionKeyHex with
  | .error e => .error (e.wrap "consent decryption key")
  | .ok key =>
      match DecryptConsent s job.ConsentEncrypted key with
      | .error e => .error (e.wrap "consent decrypt")
      | .ok decrypted =>
          let (message, signature) := unpackConsent decrypted
          .ok { job with ConsentMessage := message, ConsentSignature := signature }

end LesserHost.ProvisionWorker
