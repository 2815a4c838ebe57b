import Mathlib.Data.List.Basic

/-!
# Authenticated encryption

A cipher seals a message under a key and a nonce, together with associated data. In the ideal,
what opens is what has been sealed, and nothing else.
-/

/-- What is sealed. -/
structure Sealing where
  key : List UInt8
  nonce : List UInt8
  data : List UInt8
  message : List UInt8
  deriving DecidableEq

/-- A sealed message: its ciphertext and its tag. -/
structure SealedBox where
  ciphertext : List UInt8
  tag : List UInt8

/-- A cipher with associated data. -/
structure Cipher where
  encrypt : Sealing → SealedBox
  /-- The message of a box, under a key, a nonce and associated data; `none` if it throws. -/
  decrypt : List UInt8 → List UInt8 → List UInt8 → SealedBox → Option (List UInt8)

/-- **The ideal**: the boxes that open are those of the sealings that were made, each to its
message. -/
structure Cipher.Ideal (cipher : Cipher) (tagBytes : ℕ) (made : List Sealing) : Prop where
  ciphertext_length : ∀ sealing, (cipher.encrypt sealing).ciphertext.length = sealing.message.length
  tag_length : ∀ sealing, (cipher.encrypt sealing).tag.length = tagBytes
  opens : ∀ sealing ∈ made, cipher.decrypt sealing.key sealing.nonce sealing.data
    (cipher.encrypt sealing) = some sealing.message
  authentic : ∀ {key nonce data message : List UInt8} {box : SealedBox},
    cipher.decrypt key nonce data box = some message →
      ⟨key, nonce, data, message⟩ ∈ made ∧ cipher.encrypt ⟨key, nonce, data, message⟩ = box

namespace Cipher

/-- A cipher that keeps a record of the sealings, and opens what stands in it. -/
def recorded (tagBytes : ℕ) (made : List Sealing) : Cipher where
  encrypt sealing := ⟨sealing.message, List.replicate tagBytes 0⟩
  decrypt key nonce data box :=
    if ⟨key, nonce, data, box.ciphertext⟩ ∈ made ∧ box.tag = List.replicate tagBytes 0 then
      some box.ciphertext
    else none

theorem ideal_recorded (tagBytes : ℕ) (made : List Sealing) :
    (recorded tagBytes made).Ideal tagBytes made where
  ciphertext_length _ := rfl
  tag_length _ := List.length_replicate
  opens _ hmade := if_pos ⟨hmade, rfl⟩
  authentic := by
    intro key nonce data message box hopen
    simp only [recorded, Option.ite_none_right_eq_some, Option.some.injEq] at hopen
    obtain ⟨⟨hmade, htag⟩, rfl⟩ := hopen
    exact ⟨hmade, by simp only [recorded, ← htag]⟩

end Cipher
