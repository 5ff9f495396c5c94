import Confluence.Exchange.Credentials
import Confluence.Server.Db
import Confluence.Server.Hex

/-!
# The encryption key of the process

Read from the environment for every request that gives credentials.
-/

namespace Confluence

/-- `encryption_key`, of the variable's text, without a result when the decoder panics. -/
def encryptionKey (value : Option String) : ExceptT ApiError Option EncryptionKey :=
  match value with
  | none => throw (.invalid ["EXCHANGE_ENCRYPTION_KEY not configured"])
  | some hexKey => ExceptT.mk do
    match ← (hexDecode hexKey).run with
    | .error () =>
      return .error (.invalid ["EXCHANGE_ENCRYPTION_KEY must be 64 hex chars (32 bytes)"])
    | .ok bytes =>
      if h : bytes.length = 32 then return .ok ⟨bytes, h⟩
      else return .error (.invalid ["EXCHANGE_ENCRYPTION_KEY must be exactly 32 bytes"])

def asBytes (s : String) : List UInt8 := s.toUTF8.data.toList

/-- What a request's credentials are encrypted with: the key, the account's id, and a nonce drawn for
the text. -/
def encryptFresh (cipher : Aead) (key : EncryptionKey) (accountId : Uuid) (nonces : String → Nonce)
    (text : String) : Except ApiError (List UInt8) :=
  (key.encrypt cipher (asBytes text) (asBytes (toString accountId)) (nonces text)).mapError .exchange

/-- What the handler encrypts with when the variable has this text; none when reading the key panics. -/
def requestEncryption (cipher : Aead) (value : Option String) (accountId : Uuid)
    (nonces : String → Nonce) : Option (String → Except ApiError (List UInt8)) :=
  (encryptionKey value).run.map fun
    | .ok key => encryptFresh cipher key accountId nonces
    | .error e => fun _ => .error e

end Confluence
