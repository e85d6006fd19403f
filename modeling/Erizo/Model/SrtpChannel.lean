/-
**SRTP channels** (`SrtpChannel.cpp`; the keys of `dtls/DtlsSocket.cpp` and `dtls/DtlsClient.cpp`).

libsrtp is outside: `Srtp` has what is used of it, a session going in and coming out of every call. A call gives the
bytes it leaves in the buffer, or none where it returns an error.

A handshake ends with key material that OpenSSL exports. `getSrtpSessionKeys` cuts it into the keys and the salts of
both sides; each side's key with its salt goes on as text.
-/

import Erizo.Model.Base64

namespace Erizo

/-- `TransmissionType`. -/
inductive TransmissionType
  | sending
  | receiving
  deriving DecidableEq, Repr

/-- What is used of libsrtp, on sessions `ς`. -/
structure Srtp (ς : Type) where
  /-- `srtp_create`, of a session for one direction with a key and its salt. -/
  create : TransmissionType → List UInt8 → Option ς
  protect : ς → List UInt8 → ς × Option (List UInt8)
  protectRtcp : ς → List UInt8 → ς × Option (List UInt8)
  unprotect : ς → List UInt8 → ς × Option (List UInt8)
  unprotectRtcp : ς → List UInt8 → ς × Option (List UInt8)

/-- `SrtpSessionKeys`. -/
structure SrtpSessionKeys where
  clientMasterKey : List UInt8
  serverMasterKey : List UInt8
  clientMasterSalt : List UInt8
  serverMasterSalt : List UInt8

namespace SrtpSessionKeys

/-- `SRTP_MASTER_KEY_KEY_LEN`. -/
def keyLen : ℕ := 16

/-- `SRTP_MASTER_KEY_SALT_LEN`. -/
def saltLen : ℕ := 14

/-- `getSrtpSessionKeys`, of the material that was exported. -/
def getSrtpSessionKeys (material : List UInt8) : SrtpSessionKeys where
  clientMasterKey := material.take keyLen
  serverMasterKey := (material.drop keyLen).take keyLen
  clientMasterSalt := (material.drop (2 * keyLen)).take saltLen
  serverMasterSalt := (material.drop (2 * keyLen + saltLen)).take saltLen

/-- The client's key in `handshakeCompleted`. -/
def clientKey (keys : SrtpSessionKeys) : Text := Base64.encode (keys.clientMasterKey ++ keys.clientMasterSalt)

/-- The server's key in `handshakeCompleted`. -/
def serverKey (keys : SrtpSessionKeys) : Text := Base64.encode (keys.serverMasterKey ++ keys.serverMasterSalt)

end SrtpSessionKeys

/-- `SrtpChannel`. -/
structure SrtpChannel (ς : Type) where
  active : Bool
  sendSession : Option ς
  receiveSession : Option ς
  deriving DecidableEq, Repr

namespace SrtpChannel

variable {ς : Type} (srtp : Srtp ς)

/-- The constructor. -/
def create : SrtpChannel ς := ⟨false, none, none⟩

/-- `configureSrtpSession`. -/
def configureSrtpSession (key : Text) (type : TransmissionType) : Option ς := srtp.create type (Base64.decode key)

/-- `setRtpParams`, with what it returns. -/
def setRtpParams (channel : SrtpChannel ς) (sendingKey receivingKey : Text) : SrtpChannel ς × Bool :=
  let channel := { channel with sendSession := configureSrtpSession srtp sendingKey .sending }
  if channel.sendSession.isSome then
    let channel := { channel with receiveSession := configureSrtpSession srtp receivingKey .receiving }
    if channel.receiveSession.isSome then ({ channel with active := true }, true) else (channel, false)
  else (channel, false)

/-- A call that protects. -/
def send (call : ς → List UInt8 → ς × Option (List UInt8)) (channel : SrtpChannel ς) (buffer : List UInt8) :
    SrtpChannel ς × Option (List UInt8) :=
  if channel.active then
    match channel.sendSession with
    | none => (channel, none)
    | some session =>
        let (session, result) := call session buffer
        ({ channel with sendSession := some session }, result)
  else (channel, none)

/-- A call that takes the protection off. -/
def receive (call : ς → List UInt8 → ς × Option (List UInt8)) (channel : SrtpChannel ς) (buffer : List UInt8) :
    SrtpChannel ς × Option (List UInt8) :=
  if channel.active then
    match channel.receiveSession with
    | none => (channel, none)
    | some session =>
        let (session, result) := call session buffer
        ({ channel with receiveSession := some session }, result)
  else (channel, none)

/-- `protectRtp`. -/
def protectRtp (channel : SrtpChannel ς) (buffer : List UInt8) : SrtpChannel ς × Option (List UInt8) :=
  channel.send srtp.protect buffer

/-- `protectRtcp`. -/
def protectRtcp (channel : SrtpChannel ς) (buffer : List UInt8) : SrtpChannel ς × Option (List UInt8) :=
  channel.send srtp.protectRtcp buffer

/-- `unprotectRtp`. -/
def unprotectRtp (channel : SrtpChannel ς) (buffer : List UInt8) : SrtpChannel ς × Option (List UInt8) :=
  channel.receive srtp.unprotect buffer

/-- `unprotectRtcp`. -/
def unprotectRtcp (channel : SrtpChannel ς) (buffer : List UInt8) : SrtpChannel ς × Option (List UInt8) :=
  channel.receive srtp.unprotectRtcp buffer

end SrtpChannel

end Erizo
