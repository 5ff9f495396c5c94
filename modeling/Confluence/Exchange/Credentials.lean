import Confluence.Exchange.OrderState

/-!
# Credentials at rest

Credentials are encrypted under a key and a nonce, and bound to associated data. The nonce is stored in
front of the ciphertext. The authenticated cipher is a parameter.
-/

namespace Confluence

def nonceLen : ℕ := 12

abbrev Nonce := { bytes : List UInt8 // bytes.length = nonceLen }

/-- The cipher, over the key, the nonce, the associated data and the text; errors have a text. -/
structure Aead where
  encrypt : List UInt8 → List UInt8 → List UInt8 → List UInt8 → Except String (List UInt8)
  decrypt : List UInt8 → List UInt8 → List UInt8 → List UInt8 → Except String (List UInt8)

/-- Decryption gives back what has been encrypted. -/
def Aead.Inverts (cipher : Aead) : Prop :=
  ∀ key nonce aad msg ct, cipher.encrypt key nonce aad msg = .ok ct →
    cipher.decrypt key nonce aad ct = .ok msg

structure EncryptionKey where
  bytes : List UInt8
  length_bytes : bytes.length = 32

namespace EncryptionKey

variable (cipher : Aead) (key : EncryptionKey)

def encrypt (plaintext aad : List UInt8) (nonce : Nonce) : Except ExchangeError (List UInt8) :=
  match cipher.encrypt key.bytes nonce.val aad plaintext with
  | .ok ct => .ok (nonce.val ++ ct)
  | .error e => .error (.encryptionError e)

def decrypt (blob aad : List UInt8) : Except ExchangeError (List UInt8) :=
  if blob.length < nonceLen then .error (.encryptionError "ciphertext too short")
  else
    match cipher.decrypt key.bytes (blob.take nonceLen) aad (blob.drop nonceLen) with
    | .ok plaintext => .ok plaintext
    | .error e => .error (.encryptionError e)

variable {cipher key} {plaintext aad blob : List UInt8} {nonce : Nonce}

lemma encrypt_eq_ok : key.encrypt cipher plaintext aad nonce = .ok blob ↔
    ∃ ct, cipher.encrypt key.bytes nonce.val aad plaintext = .ok ct ∧ nonce.val ++ ct = blob := by
  cases h : cipher.encrypt key.bytes nonce.val aad plaintext with
  | ok ct => simp [encrypt, h]
  | error e => simp [encrypt, h]

/-- The nonce in front is the one to decrypt with. -/
lemma decrypt_append (ct : List UInt8) : key.decrypt cipher (nonce.val ++ ct) aad =
    (cipher.decrypt key.bytes nonce.val aad ct).mapError .encryptionError := by
  have hlong : ¬ (nonce.val ++ ct).length < nonceLen := by simp [nonce.property]
  rw [decrypt, if_neg hlong, List.take_left' nonce.property, List.drop_left' nonce.property]
  cases cipher.decrypt key.bytes nonce.val aad ct <;> rfl

lemma decrypt_of_encrypt (hcipher : cipher.Inverts)
    (h : key.encrypt cipher plaintext aad nonce = .ok blob) :
    key.decrypt cipher blob aad = .ok plaintext := by
  obtain ⟨ct, hct, rfl⟩ := encrypt_eq_ok.mp h
  rw [decrypt_append, hcipher _ _ _ _ _ hct]
  rfl

end EncryptionKey

end Confluence
