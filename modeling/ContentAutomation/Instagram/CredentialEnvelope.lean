import ContentAutomation.Library.Aead
import ContentAutomation.Library.Base64
import ContentAutomation.Library.Joined
import ContentAutomation.Library.Utf8

/-!
# Credential envelopes

An access token is sealed under a key of its own, which is sealed under the master key; both
are bound to the row that the token belongs to. This file shows that an envelope opens for its
row, and that no other row and no other bytes after the header open it.
-/

namespace ContentAutomation

open Utf16 List Base64

/-! ### Sealing and opening -/

/-- `KEY_BYTES`. -/
def keyBytes : ℕ := 32

/-- `IV_BYTES`. -/
def ivBytes : ℕ := 12

/-- `TAG_BYTES`. -/
def tagBytes : ℕ := 16

/-- `HEADER_BYTES`. -/
def headerBytes : ℕ := 1 + 4

/-- `WRAPPED_OFFSET`. -/
def wrappedOffset : ℕ := headerBytes + ivBytes

/-- `WRAPPED_TAG_OFFSET`. -/
def wrappedTagOffset : ℕ := wrappedOffset + keyBytes

/-- `PAYLOAD_IV_OFFSET`. -/
def payloadIvOffset : ℕ := wrappedTagOffset + tagBytes

/-- `PAYLOAD_TAG_OFFSET`. -/
def payloadTagOffset : ℕ := payloadIvOffset + ivBytes

/-- `CIPHERTEXT_OFFSET`. -/
def ciphertextOffset : ℕ := payloadTagOffset + tagBytes

/-- `CredentialEncryptionContext`. -/
structure CredentialEncryptionContext where
  accountId : Utf16
  integrationType : Utf16
  workspaceId : Utf16

/-- `SealedCredential`. -/
structure SealedCredential where
  ciphertext : Utf16
  keyVersion : ℚ

/-- What is thrown: a `CredentialEncryptionError`, or an error of the runtime. -/
inductive CredentialThrown
  | credentialEncryptionError (reasonCode : String)
  | runtimeError

/-- What `randomBytes` gives to one sealing. -/
structure SealingRandomness where
  dataKey : List UInt8
  payloadIv : List UInt8
  wrapIv : List UInt8
  dataKey_length : dataKey.length = keyBytes
  payloadIv_length : payloadIv.length = ivBytes
  wrapIv_length : wrapIv.length = ivBytes

/-- `assertMasterKey`. -/
def assertMasterKey (masterKey : List UInt8) : Except CredentialThrown Unit :=
  if masterKey.length ≠ keyBytes then
    .error (.credentialEncryptionError "MASTER_KEY_LENGTH_INVALID")
  else .ok ()

/-- A part of the binding, after its length. -/
def lengthPrefixed (part : Utf16) : Utf16 :=
  ofString (toString part.length) ++ ofString ":" ++ part

/-- `additionalData`. -/
def additionalData (context : CredentialEncryptionContext) : List UInt8 :=
  Utf8.encode ((ofString "|").intercalate
    ([context.workspaceId, context.integrationType, context.accountId].map lengthPrefixed))

/-- `header.writeUInt32BE(value, ..)`: the four bytes, unless the value is out of range. -/
def uint32BE (value : ℕ) : Except CredentialThrown (List UInt8) :=
  if value < 2 ^ 32 then
    .ok [.ofNat (value / 2 ^ 24), .ofNat (value / 2 ^ 16 % 2 ^ 8), .ofNat (value / 2 ^ 8 % 2 ^ 8),
      .ofNat (value % 2 ^ 8)]
  else .error .runtimeError

/-- `buffer.readUInt8(offset)`. -/
def readByte (bytes : List UInt8) (offset : ℕ) : Except CredentialThrown ℕ :=
  match bytes[offset]? with
  | some byte => .ok byte.toNat
  | none => .error .runtimeError

/-- `buffer.readUInt32BE(offset)`. -/
def readWord (bytes : List UInt8) (offset : ℕ) : Except CredentialThrown ℕ :=
  match bytes.drop offset with
  | a :: b :: c :: d :: _ =>
    .ok (((a.toNat * 2 ^ 8 + b.toNat) * 2 ^ 8 + c.toNat) * 2 ^ 8 + d.toNat)
  | _ => .error .runtimeError

/-- `buffer.subarray(start, end)`. -/
def subarray (bytes : List UInt8) (start stop : ℕ) : List UInt8 := (bytes.take stop).drop start

/-- The sealing of the plaintext, under the data key. -/
def payloadSealing (random : SealingRandomness) (context : CredentialEncryptionContext)
    (plaintext : Utf16) : Sealing :=
  ⟨random.dataKey, random.payloadIv, additionalData context, Utf8.encode plaintext⟩

/-- The sealing of the data key, under the master key. -/
def wrapSealing (random : SealingRandomness) (context : CredentialEncryptionContext)
    (masterKey : List UInt8) : Sealing :=
  ⟨masterKey, random.wrapIv, additionalData context, random.dataKey⟩

/-- `encryptCredential`. -/
def encryptCredential (cipher : Cipher) (random : SealingRandomness)
    (context : CredentialEncryptionContext) (keyVersion : ℚ) (masterKey : List UInt8)
    (plaintext : Utf16) : Except CredentialThrown SealedCredential := do
  assertMasterKey masterKey
  if ¬ (keyVersion.den = 1 ∧ 1 ≤ keyVersion) then
    throw (.credentialEncryptionError "KEY_VERSION_INVALID")
  if plaintext.length = 0 then
    throw (.credentialEncryptionError "PLAINTEXT_EMPTY")
  let payload := cipher.encrypt (payloadSealing random context plaintext)
  let wrap := cipher.encrypt (wrapSealing random context masterKey)
  let version ← uint32BE keyVersion.num.toNat
  let envelope := 1 :: version ++ random.wrapIv ++ wrap.ciphertext ++ wrap.tag ++
    random.payloadIv ++ payload.tag ++ payload.ciphertext
  return ⟨encodePadded envelope, keyVersion⟩

/-- What is opened with the master key. -/
def openEnvelope (cipher : Cipher) (context : CredentialEncryptionContext)
    (masterKey envelope : List UInt8) : Except CredentialThrown Utf16 :=
  let aad := additionalData context
  let wrapIv := subarray envelope headerBytes wrappedOffset
  let wrappedKey := subarray envelope wrappedOffset wrappedTagOffset
  let wrapTag := subarray envelope wrappedTagOffset payloadIvOffset
  let payloadIv := subarray envelope payloadIvOffset payloadTagOffset
  let payloadTag := subarray envelope payloadTagOffset ciphertextOffset
  let ciphertext := envelope.drop ciphertextOffset
  match cipher.decrypt masterKey wrapIv aad ⟨wrappedKey, wrapTag⟩ with
  | none => .error (.credentialEncryptionError "AUTHENTICATION_FAILED")
  | some dataKey =>
    if dataKey.length ≠ keyBytes then
      .error (.credentialEncryptionError "DATA_KEY_LENGTH_INVALID")
    else
      match cipher.decrypt dataKey payloadIv aad ⟨ciphertext, payloadTag⟩ with
      | none => .error (.credentialEncryptionError "AUTHENTICATION_FAILED")
      | some plaintext => .ok (Utf8.decode plaintext)

/-- `decryptCredential`. -/
def decryptCredential (cipher : Cipher) (context : CredentialEncryptionContext)
    (masterKeys : ℕ → Option (List UInt8)) (sealedText : Utf16) :
    Except CredentialThrown Utf16 := do
  let envelope := decode sealedText
  if envelope.length ≤ ciphertextOffset then
    throw (.credentialEncryptionError "ENVELOPE_MALFORMED")
  let formatVersion ← readByte envelope 0
  if formatVersion ≠ 1 then
    throw (.credentialEncryptionError "ENVELOPE_VERSION_UNSUPPORTED")
  let keyVersion ← readWord envelope 1
  match masterKeys keyVersion with
  | none => throw (.credentialEncryptionError "KEY_VERSION_UNAVAILABLE")
  | some masterKey => do
    assertMasterKey masterKey
    openEnvelope cipher context masterKey envelope

/-! ### The binding -/

/-- The strings of a context are well-formed. -/
structure CredentialEncryptionContext.WellFormed (context : CredentialEncryptionContext) : Prop where
  accountId : Utf8.WellFormed context.accountId
  integrationType : Utf8.WellFormed context.integrationType
  workspaceId : Utf8.WellFormed context.workspaceId

private theorem lengthPrefixed_append_inj {part part' rest rest' : Utf16}
    (h : lengthPrefixed part ++ rest = lengthPrefixed part' ++ rest') :
    part = part' ∧ rest = rest' := by
  have hcolon : ofString ":" = [0x3A] := by decide
  have hdigits (n : ℕ) : (0x3A : UInt16) ∉ ofString (toString n) := by
    intro hmem
    obtain ⟨c, hc, hunit⟩ := mem_ofString hmem
    have hchar : c = ':' := eq_of_mem_codeUnits (d := ':') (by decide) hunit
    have hlist : (toString n).toList = Nat.toDigits 10 n := Nat.toList_repr
    rw [hlist, hchar] at hc
    exact absurd (Nat.isDigit_of_mem_toDigits (by omega) (by omega) hc) (by decide)
  simp only [lengthPrefixed, hcolon, append_assoc, singleton_append] at h
  obtain ⟨hlengths, hparts⟩ := JoinedText.append_cons_inj h (hdigits _) (hdigits _)
  have hlength : part.length = part'.length := by
    have hsame := Utf8.ofString_injective hlengths
    exact Nat.repr_injective hsame
  exact List.append_inj hparts hlength

private theorem wellFormed_lengthPrefixed {part : Utf16} (h : Utf8.WellFormed part) :
    Utf8.WellFormed (lengthPrefixed part) := by
  have hcolon : Utf8.WellFormed (ofString ":") := Utf8.wellFormed_of_all (by decide)
  have hdigits : Utf8.WellFormed (ofString (toString part.length)) := by
    refine Utf8.wellFormed_of_lt fun unit hunit => ?_
    obtain ⟨c, hc, hmem⟩ := mem_ofString hunit
    have hlist : (toString part.length).toList = Nat.toDigits 10 part.length := Nat.toList_repr
    rw [hlist] at hc
    have hdigit := Nat.isDigit_of_mem_toDigits (by omega) (by omega) hc
    simp only [Char.isDigit, Bool.and_eq_true, decide_eq_true_eq] at hdigit
    have hhigh : c.toNat ≤ 0x39 := UInt32.le_iff_toNat_le.mp hdigit.2
    rw [codeUnits, if_pos (by omega), mem_singleton] at hmem
    rw [hmem, UInt16.toNat_ofNat']
    omega
  exact (hdigits.append hcolon).append h

/-- **The binding is injective** on well-formed contexts. -/
theorem additionalData_injOn {context context' : CredentialEncryptionContext}
    (h : context.WellFormed) (h' : context'.WellFormed)
    (hsame : additionalData context = additionalData context') : context = context' := by
  have hbar : Utf8.WellFormed (ofString "|") := Utf8.wellFormed_of_all (by decide)
  have hwell {context : CredentialEncryptionContext} (h : context.WellFormed) :
      Utf8.WellFormed ((ofString "|").intercalate
        ([context.workspaceId, context.integrationType, context.accountId].map
          lengthPrefixed)) := by
    simp only [map_cons, map_nil, intercalate_cons_cons,
      intercalate_singleton]
    exact ((wellFormed_lengthPrefixed h.workspaceId).append hbar).append
      (((wellFormed_lengthPrefixed h.integrationType).append hbar).append
        (wellFormed_lengthPrefixed h.accountId))
  have htext := Utf8.toWellFormed_eq_of_encode_eq hsame
  rw [(hwell h).toWellFormed_eq, (hwell h').toWellFormed_eq] at htext
  simp only [map_cons, map_nil, intercalate_cons_cons,
    intercalate_singleton, append_assoc] at htext
  obtain ⟨hworkspace, hrest⟩ := lengthPrefixed_append_inj htext
  obtain ⟨htype, hlast⟩ := lengthPrefixed_append_inj (append_cancel_left hrest)
  have haccount : lengthPrefixed context.accountId ++ [] =
      lengthPrefixed context'.accountId ++ [] := by
    rw [append_cancel_left hlast]
  cases context
  cases context'
  simp only at hworkspace htype haccount
  rw [hworkspace, htype, (lengthPrefixed_append_inj haccount).1]

/-! ### The layout -/

/-- The parts of the bytes of an envelope. -/
structure EnvelopeParts where
  header : List UInt8
  wrapIv : List UInt8
  wrap : SealedBox
  payloadIv : List UInt8
  payload : SealedBox

namespace EnvelopeParts

/-- The parts that are read. -/
def read (bytes : List UInt8) : EnvelopeParts where
  header := bytes.take headerBytes
  wrapIv := subarray bytes headerBytes wrappedOffset
  wrap := ⟨subarray bytes wrappedOffset wrappedTagOffset,
    subarray bytes wrappedTagOffset payloadIvOffset⟩
  payloadIv := subarray bytes payloadIvOffset payloadTagOffset
  payload := ⟨bytes.drop ciphertextOffset, subarray bytes payloadTagOffset ciphertextOffset⟩

/-- The bytes that are written after the header. -/
def body (parts : EnvelopeParts) : List UInt8 :=
  parts.wrapIv ++ parts.wrap.ciphertext ++ parts.wrap.tag ++ parts.payloadIv ++
    parts.payload.tag ++ parts.payload.ciphertext

/-- The parts have their lengths. -/
structure Sized (parts : EnvelopeParts) : Prop where
  header : parts.header.length = headerBytes
  wrapIv : parts.wrapIv.length = ivBytes
  wrappedKey : parts.wrap.ciphertext.length = keyBytes
  wrapTag : parts.wrap.tag.length = tagBytes
  payloadIv : parts.payloadIv.length = ivBytes
  payloadTag : parts.payload.tag.length = tagBytes

private theorem subarray_append {before part after : List UInt8} {start stop : ℕ}
    (hstart : before.length = start) (hstop : start + part.length = stop) :
    subarray (before ++ (part ++ after)) start stop = part := by
  have hlength : (before ++ part).length = stop := by
    rw [length_append, hstart, hstop]
  rw [← append_assoc, subarray, take_left' hlength, drop_left' hstart]

variable (bytes : List UInt8)

private theorem take_append_subarray {start stop : ℕ} (h : start ≤ stop) :
    bytes.take start ++ subarray bytes start stop = bytes.take stop := by
  have hshorter : bytes.take start = (bytes.take stop).take start := by
    rw [take_take, Nat.min_eq_left h]
  rw [hshorter, subarray, take_append_drop]

private theorem read_append_body {parts : EnvelopeParts} (h : parts.Sized) :
    read (parts.header ++ parts.body) = parts := by
  obtain ⟨header, wrapIv, ⟨wrappedKey, wrapTag⟩, payloadIv, ⟨ciphertext, payloadTag⟩⟩ := parts
  obtain ⟨hheader, hwrapIv, hwrappedKey, hwrapTag, hpayloadIv, hpayloadTag⟩ := h
  simp only at hheader hwrapIv hwrappedKey hwrapTag hpayloadIv hpayloadTag
  have hwrapped : (header ++ wrapIv).length = wrappedOffset := by
    rw [length_append, hheader, hwrapIv, wrappedOffset]
  have hwrappedTag : (header ++ wrapIv ++ wrappedKey).length = wrappedTagOffset := by
    rw [length_append, hwrapped, hwrappedKey, wrappedTagOffset]
  have hiv : (header ++ wrapIv ++ wrappedKey ++ wrapTag).length = payloadIvOffset := by
    rw [length_append, hwrappedTag, hwrapTag, payloadIvOffset]
  have htag : (header ++ wrapIv ++ wrappedKey ++ wrapTag ++ payloadIv).length =
      payloadTagOffset := by
    rw [length_append, hiv, hpayloadIv, payloadTagOffset]
  have hrest : (header ++ wrapIv ++ wrappedKey ++ wrapTag ++ payloadIv ++ payloadTag).length =
      ciphertextOffset := by
    rw [length_append, htag, hpayloadTag, ciphertextOffset]
  -- each part stands after those before it
  simp only [read, body, EnvelopeParts.mk.injEq, SealedBox.mk.injEq, append_assoc]
  refine ⟨take_left' hheader, ?_, ⟨?_, ?_⟩, ?_, ?_, ?_⟩
  · exact subarray_append hheader (by rw [hwrapIv, wrappedOffset])
  · rw [← append_assoc]
    exact subarray_append hwrapped (by rw [hwrappedKey, wrappedTagOffset])
  · rw [← append_assoc, ← append_assoc]
    exact subarray_append hwrappedTag (by rw [hwrapTag, payloadIvOffset])
  · rw [← append_assoc, ← append_assoc, ← append_assoc]
    exact subarray_append hiv (by rw [hpayloadIv, payloadTagOffset])
  · simp only [← append_assoc]
    exact drop_left' hrest
  · rw [← append_assoc, ← append_assoc, ← append_assoc, ← append_assoc]
    exact subarray_append htag (by rw [hpayloadTag, ciphertextOffset])

private theorem header_append_body_read :
    (read bytes).header ++ (read bytes).body = bytes := by
  simp only [read, body, ← append_assoc]
  rw [take_append_subarray bytes (by decide), take_append_subarray bytes (by decide),
    take_append_subarray bytes (by decide), take_append_subarray bytes (by decide),
    take_append_subarray bytes (by decide), take_append_drop]

private theorem drop_headerBytes : bytes.drop headerBytes = (read bytes).body := by
  have hparts : bytes.take headerBytes ++ (read bytes).body =
      bytes.take headerBytes ++ bytes.drop headerBytes := by
    rw [take_append_drop]
    exact header_append_body_read bytes
  exact (append_cancel_left hparts).symm

end EnvelopeParts

open EnvelopeParts

private theorem readWord_uint32BE {value : ℕ} (h : value < 2 ^ 32) :
    ∃ version, uint32BE value = .ok version ∧ version.length = 4 ∧
      ∀ first rest, readWord (first :: version ++ rest) 1 = .ok value := by
  refine ⟨_, if_pos h, rfl, fun first rest => ?_⟩
  have hbyte {n : ℕ} (hn : n < 2 ^ 8) : (UInt8.ofNat n).toNat = n := Utf8.toNat_ofNat hn
  simp only [cons_append, nil_append, readWord, drop_succ_cons, drop_zero,
    Except.ok.injEq]
  rw [hbyte (by omega), hbyte (by omega), hbyte (by omega), hbyte (by omega)]
  omega

/-! ### What is thrown -/

section

variable {cipher : Cipher} {context : CredentialEncryptionContext}
  {masterKeys : ℕ → Option (List UInt8)}

private theorem openEnvelope_thrown {masterKey envelope : List UInt8} {thrown : CredentialThrown}
    (h : openEnvelope cipher context masterKey envelope = .error thrown) :
    ∃ reasonCode, thrown = .credentialEncryptionError reasonCode := by
  simp only [openEnvelope] at h
  split at h
  · exact ⟨_, (Except.error.inj h).symm⟩
  · split at h
    · exact ⟨_, (Except.error.inj h).symm⟩
    · split at h
      · exact ⟨_, (Except.error.inj h).symm⟩
      · cases h

private theorem openEnvelope_eq_ok {masterKey envelope dataKey message : List UInt8}
    (hwrap : cipher.decrypt masterKey (EnvelopeParts.read envelope).wrapIv (additionalData context)
      (EnvelopeParts.read envelope).wrap = some dataKey) (hlength : dataKey.length = keyBytes)
    (hpayload : cipher.decrypt dataKey (EnvelopeParts.read envelope).payloadIv
      (additionalData context) (EnvelopeParts.read envelope).payload = some message) :
    openEnvelope cipher context masterKey envelope = .ok (Utf8.decode message) := by
  simp only [EnvelopeParts.read] at hwrap hpayload
  simp only [openEnvelope, hwrap, hpayload, hlength, ne_eq, not_true_eq_false, if_false]

private theorem decrypt_of_openEnvelope {masterKey envelope : List UInt8} {plaintext : Utf16}
    (h : openEnvelope cipher context masterKey envelope = .ok plaintext) :
    ∃ dataKey message,
      cipher.decrypt masterKey (EnvelopeParts.read envelope).wrapIv (additionalData context)
        (EnvelopeParts.read envelope).wrap = some dataKey ∧
      cipher.decrypt dataKey (EnvelopeParts.read envelope).payloadIv (additionalData context)
        (EnvelopeParts.read envelope).payload = some message := by
  simp only [openEnvelope] at h
  split at h
  · cases h
  · rename_i dataKey hwrap
    split at h
    · cases h
    · split at h
      · cases h
      · rename_i message hpayload
        exact ⟨dataKey, message, hwrap, hpayload⟩

private theorem readWord_of_le {bytes : List UInt8} {offset : ℕ} (h : offset + 4 ≤ bytes.length) :
    ∃ value, readWord bytes offset = .ok value := by
  have hlength : 4 ≤ (bytes.drop offset).length := by
    rw [length_drop]
    omega
  unfold readWord
  split
  · exact ⟨_, rfl⟩
  · rename_i hshort
    match bytes.drop offset, hlength, hshort with
    | a :: b :: c :: d :: rest, _, hshort => exact absurd rfl (hshort a b c d rest)

private theorem readByte_of_lt {bytes : List UInt8} {offset : ℕ} (h : offset < bytes.length) :
    ∃ value, readByte bytes offset = .ok value := by
  refine ⟨bytes[offset].toNat, ?_⟩
  rw [readByte, List.getElem?_eq_getElem h]

private theorem decryptCredential_eq_openEnvelope {sealedText : Utf16} {keyVersion : ℕ}
    {masterKey : List UInt8} (hlong : ciphertextOffset < (decode sealedText).length)
    (hformat : readByte (decode sealedText) 0 = .ok 1)
    (hversion : readWord (decode sealedText) 1 = .ok keyVersion)
    (hkey : masterKeys keyVersion = some masterKey) (hlength : masterKey.length = keyBytes) :
    decryptCredential cipher context masterKeys sealedText =
      openEnvelope cipher context masterKey (decode sealedText) := by
  have hassert : assertMasterKey masterKey = .ok () := if_neg (not_not.mpr hlength)
  simp only [decryptCredential, if_neg (Nat.not_le_of_lt hlong), hformat, hversion, hkey, hassert,
    bind, Except.bind, ne_eq, not_true_eq_false, if_false]

/-- **No error is thrown but a `CredentialEncryptionError`**, and what is decrypted has been
opened with the master key of its version. -/
theorem decryptCredential_cases (cipher : Cipher) (context : CredentialEncryptionContext)
    (masterKeys : ℕ → Option (List UInt8)) (sealedText : Utf16) :
    (∃ reasonCode, decryptCredential cipher context masterKeys sealedText =
      .error (.credentialEncryptionError reasonCode)) ∨
    ∃ keyVersion masterKey plaintext, ciphertextOffset < (decode sealedText).length ∧
      readWord (decode sealedText) 1 = .ok keyVersion ∧
      masterKeys keyVersion = some masterKey ∧ masterKey.length = keyBytes ∧
      openEnvelope cipher context masterKey (decode sealedText) = .ok plaintext := by
  by_cases hlength : (decode sealedText).length ≤ ciphertextOffset
  · refine .inl ⟨"ENVELOPE_MALFORMED", ?_⟩
    simp only [decryptCredential, if_pos hlength, bind, Except.bind, throw, throwThe,
      MonadExceptOf.throw]
  have hlong : ciphertextOffset < (decode sealedText).length := Nat.lt_of_not_le hlength
  have hoffset : ciphertextOffset = 93 := rfl
  have ⟨formatVersion, hformat⟩ :
      ∃ formatVersion, readByte (decode sealedText) 0 = .ok formatVersion :=
    readByte_of_lt (by omega)
  have ⟨keyVersion, hversion⟩ :
      ∃ keyVersion, readWord (decode sealedText) 1 = .ok keyVersion :=
    readWord_of_le (by omega)
  by_cases hone : formatVersion = 1
  swap
  · refine .inl ⟨"ENVELOPE_VERSION_UNSUPPORTED", ?_⟩
    simp only [decryptCredential, if_neg hlength, hformat, if_pos hone, bind, Except.bind, throw,
      throwThe, MonadExceptOf.throw, ne_eq]
  subst hone
  cases hkey : masterKeys keyVersion with
  | none =>
    refine .inl ⟨"KEY_VERSION_UNAVAILABLE", ?_⟩
    simp only [decryptCredential, if_neg hlength, hformat, hversion, hkey, bind, Except.bind,
      throw, throwThe, MonadExceptOf.throw, ne_eq, not_true_eq_false, if_false]
  | some masterKey =>
    by_cases hbytes : masterKey.length = keyBytes
    · rw [decryptCredential_eq_openEnvelope hlong hformat hversion hkey hbytes]
      cases hopen : openEnvelope cipher context masterKey (decode sealedText) with
      | error thrown =>
        obtain ⟨reasonCode, rfl⟩ := openEnvelope_thrown hopen
        exact .inl ⟨reasonCode, rfl⟩
      | ok plaintext => exact .inr ⟨_, _, _, hlong, hversion, hkey, hbytes, hopen⟩
    · refine .inl ⟨"MASTER_KEY_LENGTH_INVALID", ?_⟩
      have hassert : assertMasterKey masterKey =
          .error (.credentialEncryptionError "MASTER_KEY_LENGTH_INVALID") := if_pos hbytes
      simp only [decryptCredential, if_neg hlength, hformat, hversion, hkey, hassert, bind,
        Except.bind, ne_eq, not_true_eq_false, if_false]

/-! ### What is sealed -/

/-- A call of `encryptCredential`. -/
structure Encryption where
  random : SealingRandomness
  context : CredentialEncryptionContext
  masterKey : List UInt8
  plaintext : Utf16

namespace Encryption

/-- The sealings of a call. -/
def sealings (call : Encryption) : List Sealing :=
  [wrapSealing call.random call.context call.masterKey,
    payloadSealing call.random call.context call.plaintext]

/-- The parts of the envelope of a call. -/
def parts (cipher : Cipher) (call : Encryption) (header : List UInt8) : EnvelopeParts where
  header := header
  wrapIv := call.random.wrapIv
  wrap := cipher.encrypt (wrapSealing call.random call.context call.masterKey)
  payloadIv := call.random.payloadIv
  payload := cipher.encrypt (payloadSealing call.random call.context call.plaintext)

/-- The random bytes of the calls are fresh: no data key is another key, and no vector is used
twice under a master key. -/
structure Fresh (calls : List Encryption) : Prop where
  dataKey_ne : ∀ call ∈ calls, ∀ other ∈ calls, call.random.dataKey ≠ other.masterKey
  dataKey_injOn : ∀ call ∈ calls, ∀ other ∈ calls,
    call.random.dataKey = other.random.dataKey → call = other
  wrapIv_injOn : ∀ call ∈ calls, ∀ other ∈ calls, call.masterKey = other.masterKey →
    call.random.wrapIv = other.random.wrapIv → call = other

variable {calls : List Encryption}

private theorem sized_parts (h : cipher.Ideal tagBytes (calls.flatMap sealings)) (call : Encryption)
    {header : List UInt8} (hheader : header.length = headerBytes) :
    (call.parts cipher header).Sized where
  header := hheader
  wrapIv := call.random.wrapIv_length
  wrappedKey := (h.ciphertext_length _).trans call.random.dataKey_length
  wrapTag := h.tag_length _
  payloadIv := call.random.payloadIv_length
  payloadTag := h.tag_length _

private theorem wrapSealing_of_mem {key nonce data message : List UInt8}
    (hkey : ∀ call ∈ calls, call.random.dataKey ≠ key)
    (h : ⟨key, nonce, data, message⟩ ∈ calls.flatMap sealings) :
    ∃ call ∈ calls, wrapSealing call.random call.context call.masterKey =
      ⟨key, nonce, data, message⟩ := by
  obtain ⟨call, hcall, hsealing⟩ := mem_flatMap.mp h
  simp only [sealings, mem_cons, not_mem_nil, or_false] at hsealing
  rcases hsealing with hwrap | hpayload
  · exact ⟨call, hcall, hwrap.symm⟩
  · exact absurd (congrArg Sealing.key hpayload).symm (hkey call hcall)

private theorem payloadSealing_of_mem (hfresh : Fresh calls) {call : Encryption}
    (hcall : call ∈ calls) {nonce data message : List UInt8}
    (h : ⟨call.random.dataKey, nonce, data, message⟩ ∈ calls.flatMap sealings) :
    payloadSealing call.random call.context call.plaintext =
      ⟨call.random.dataKey, nonce, data, message⟩ := by
  obtain ⟨other, hother, hsealing⟩ := mem_flatMap.mp h
  simp only [sealings, mem_cons, not_mem_nil, or_false] at hsealing
  rcases hsealing with hwrap | hpayload
  · exact absurd (congrArg Sealing.key hwrap) (hfresh.dataKey_ne call hcall other hother)
  · have hsame := hfresh.dataKey_injOn call hcall other hother (congrArg Sealing.key hpayload)
    rw [hsame] at hpayload ⊢
    exact hpayload.symm

/-- **What opens was sealed**: the bytes after the header are those of a call, with the master
key and the binding of the call. -/
theorem openEnvelope_ok (h : cipher.Ideal tagBytes (calls.flatMap sealings)) (hfresh : Fresh calls)
    {masterKey envelope : List UInt8} {plaintext : Utf16}
    (hkey : ∀ call ∈ calls, call.random.dataKey ≠ masterKey)
    (hopen : openEnvelope cipher context masterKey envelope = .ok plaintext) :
    ∃ call ∈ calls, call.masterKey = masterKey ∧
      additionalData call.context = additionalData context ∧
      read envelope = call.parts cipher (envelope.take headerBytes) := by
  obtain ⟨dataKey, message, hwrap, hpayload⟩ := decrypt_of_openEnvelope hopen
  obtain ⟨hwrapMade, hwrapBox⟩ := h.authentic hwrap
  obtain ⟨hpayloadMade, hpayloadBox⟩ := h.authentic hpayload
  obtain ⟨call, hcall, hwrapSealing⟩ := wrapSealing_of_mem hkey hwrapMade
  obtain ⟨hmasterKey, hwrapIv, hdata, hdataKey⟩ := Sealing.mk.inj hwrapSealing
  subst hdataKey
  have hpayloadSealing := payloadSealing_of_mem hfresh hcall hpayloadMade
  obtain ⟨-, hpayloadIv, -, -⟩ := Sealing.mk.inj hpayloadSealing
  rw [← hwrapSealing] at hwrapBox
  rw [← hpayloadSealing] at hpayloadBox
  refine ⟨call, hcall, hmasterKey, hdata, ?_⟩
  have hread (parts : EnvelopeParts) (hheader : parts.header = envelope.take headerBytes) :
      parts = ⟨envelope.take headerBytes, parts.wrapIv, parts.wrap, parts.payloadIv,
        parts.payload⟩ := by
    rw [← hheader]
  rw [hread (read envelope) rfl, ← hwrapIv, ← hwrapBox, ← hpayloadIv, ← hpayloadBox,
    parts]

private theorem openEnvelope_parts (h : cipher.Ideal tagBytes (calls.flatMap sealings))
    {call : Encryption}
    (hcall : call ∈ calls) {header : List UInt8} (hheader : header.length = headerBytes) :
    openEnvelope cipher call.context call.masterKey
      (header ++ (call.parts cipher header).body) =
        .ok (Utf8.toWellFormed call.plaintext) := by
  have hread : read (header ++ (call.parts cipher header).body) =
      call.parts cipher header := read_append_body (sized_parts h call hheader)
  have hmade {sealing : Sealing} (hsealing : sealing ∈ call.sealings) :
      sealing ∈ calls.flatMap sealings := mem_flatMap.mpr ⟨call, hcall, hsealing⟩
  have hwrap := h.opens _ (hmade (mem_cons_self ..))
  have hpayload := h.opens _ (hmade (mem_cons_of_mem _ (mem_singleton_self _)))
  simp only [wrapSealing] at hwrap
  simp only [payloadSealing] at hpayload
  rw [← Utf8.decode_encode]
  refine openEnvelope_eq_ok ?_ call.random.dataKey_length ?_
  · rw [hread]
    simp only [parts, wrapSealing]
    exact hwrap
  · rw [hread]
    simp only [parts, payloadSealing]
    exact hpayload

private theorem lt_length_body (h : cipher.Ideal tagBytes (calls.flatMap sealings))
    {call : Encryption} {header : List UInt8} (hheader : header.length = headerBytes)
    (hplaintext : call.plaintext ≠ []) (hwell : Utf8.WellFormed call.plaintext) :
    ciphertextOffset < (header ++ (call.parts cipher header).body).length := by
  obtain ⟨-, hwrapIv, hwrappedKey, hwrapTag, hpayloadIv, hpayloadTag⟩ :=
    sized_parts h call hheader
  have hciphertext : (call.parts cipher header).payload.ciphertext.length =
      (Utf8.encode call.plaintext).length := h.ciphertext_length _
  have hmessage : Utf8.encode call.plaintext ≠ [] := by
    intro hempty
    have hdecoded := Utf8.decode_encode call.plaintext
    rw [hempty, hwell.toWellFormed_eq] at hdecoded
    exact hplaintext hdecoded.symm
  have hpositive := length_pos_of_ne_nil hmessage
  simp only [body, length_append, hheader, hwrapIv, hwrappedKey, hwrapTag,
    hpayloadIv, hpayloadTag, hciphertext, headerBytes, ivBytes, keyBytes, tagBytes]
  have hoffset : ciphertextOffset = 93 := rfl
  omega

private theorem encryptCredential_eq (cipher : Cipher) {call : Encryption} {keyVersion : ℕ}
    {version : List UInt8} (hversion : uint32BE keyVersion = .ok version) (hone : 1 ≤ keyVersion)
    (hkey : call.masterKey.length = keyBytes) (hplaintext : call.plaintext ≠ []) :
    encryptCredential cipher call.random call.context keyVersion call.masterKey call.plaintext =
      .ok ⟨encodePadded (1 :: version ++ (call.parts cipher (1 :: version)).body),
        keyVersion⟩ := by
  have hassert : assertMasterKey call.masterKey = .ok () := if_neg (not_not.mpr hkey)
  have hinteger : (keyVersion : ℚ).den = 1 ∧ 1 ≤ (keyVersion : ℚ) :=
    ⟨Rat.den_natCast _, by exact_mod_cast hone⟩
  have hnumber : (keyVersion : ℚ).num.toNat = keyVersion := by
    rw [Rat.num_natCast, Int.toNat_natCast]
  simp only [encryptCredential, hassert, hinteger, not_true_eq_false, if_false,
    length_eq_zero_iff, hplaintext, hnumber, hversion, bind, Except.bind, pure, Except.pure,
    and_self, parts, body, append_assoc]

/-- What has the header of a version throws, or is what some call wrote for the binding under the
master key of the version. -/
theorem thrown_or_written (h : cipher.Ideal tagBytes (calls.flatMap sealings))
    (hfresh : Fresh calls) {keyVersion : ℕ} {masterKey header rest : List UInt8} {text : Utf16}
    (hheader : header.length = headerBytes)
    (hword : ∀ rest, readWord (header ++ rest) 1 = .ok keyVersion)
    (hmaster : masterKeys keyVersion = some masterKey)
    (hkey : ∀ call ∈ calls, call.random.dataKey ≠ masterKey)
    ( hprefix : (decode text).take headerBytes <+: header ++ rest) :
    (∃ reasonCode, decryptCredential cipher context masterKeys text =
      .error (.credentialEncryptionError reasonCode)) ∨
    ∃ call ∈ calls, call.masterKey = masterKey ∧
      additionalData call.context = additionalData context ∧ call.plaintext ≠ [] ∧
      decode text = header ++ (call.parts cipher header).body := by
  rcases decryptCredential_cases cipher context masterKeys text with
    hthrown | ⟨version, key, plaintext, hlong, hread, hversion, -, hopen⟩
  · exact .inl hthrown
  right
  have htake : (decode text).take headerBytes = header := by
    have hoffset : headerBytes ≤ (decode text).length :=
      Nat.le_trans (by decide) (Nat.le_of_lt hlong)
    refine IsPrefix.eq_of_length
      (prefix_of_prefix_length_le hprefix (prefix_append _ _) ?_) ?_
    · rw [length_take_of_le hoffset, hheader]
    · rw [length_take_of_le hoffset, hheader]
  have hwhole : header ++ (decode text).drop headerBytes = decode text := by
    rw [← htake, take_append_drop]
  have hsame : version = keyVersion := by
    have hwrote := hword ((decode text).drop headerBytes)
    rw [hwhole, hread] at hwrote
    exact Except.ok.inj hwrote
  rw [hsame, hmaster, Option.some.injEq] at hversion
  subst hversion
  obtain ⟨call, hcall, hcallKey, hdata, hparts⟩ := openEnvelope_ok h hfresh hkey hopen
  rw [htake] at hparts
  have hbytes : decode text = header ++ (call.parts cipher header).body := by
    rw [← hparts, ← EnvelopeParts.drop_headerBytes, hwhole]
  refine ⟨call, hcall, hcallKey, hdata, ?_, hbytes⟩
  intro hempty
  have hciphertext : (EnvelopeParts.read (decode text)).payload.ciphertext.length = 0 := by
    rw [hparts, parts, h.ciphertext_length, payloadSealing, hempty]
    rfl
  rw [EnvelopeParts.read, length_drop] at hciphertext
  omega

private theorem eq_of_written_eq (h : cipher.Ideal tagBytes (calls.flatMap sealings))
    (hfresh : Fresh calls) {call other : Encryption} (hcall : call ∈ calls) (hother : other ∈ calls)
    (hkey : call.masterKey = other.masterKey) {header : List UInt8}
    (hheader : header.length = headerBytes)
    (hbytes : header ++ (call.parts cipher header).body =
      header ++ (other.parts cipher header).body) : call = other := by
  have hread (writer : Encryption) :=
    EnvelopeParts.read_append_body (sized_parts h writer hheader)
  have hparts : call.parts cipher header = other.parts cipher header := by
    rw [← hread call, ← hread other]
    exact congrArg EnvelopeParts.read hbytes
  exact hfresh.wrapIv_injOn call hcall other hother hkey (congrArg EnvelopeParts.wrapIv hparts)

private theorem decryptCredential_written (h : cipher.Ideal tagBytes (calls.flatMap sealings))
    {call : Encryption} (hcall : call ∈ calls) {keyVersion : ℕ} {version : List UInt8}
    (hlength : version.length = 4)
    (hword : ∀ rest, readWord (1 :: version ++ rest) 1 = .ok keyVersion)
    (hmaster : masterKeys keyVersion = some call.masterKey)
    (hkey : call.masterKey.length = keyBytes) (hplaintext : call.plaintext ≠ [])
    (hwell : Utf8.WellFormed call.plaintext) :
    decryptCredential cipher call.context masterKeys
      (encodePadded (1 :: version ++ (call.parts cipher (1 :: version)).body)) =
        .ok call.plaintext := by
  have hheader : (1 :: version).length = headerBytes := by
    rw [length_cons, hlength, headerBytes]
  have hdecoded := decode_encodePadded
    (1 :: version ++ (call.parts cipher (1 :: version)).body)
  have hlong := lt_length_body h hheader hplaintext hwell
  rw [decryptCredential_eq_openEnvelope (by rw [hdecoded]; exact hlong) (by rw [hdecoded]; rfl)
    (by rw [hdecoded]; exact hword _) hmaster hkey, hdecoded, openEnvelope_parts h hcall hheader,
    hwell.toWellFormed_eq]

end Encryption

/-- **An envelope is bound to its row**: it opens for its row to what was sealed, for no other
row, and nothing after its header can be changed, unless to what was sealed for the row by
another call. -/
theorem credential_envelope_bound {calls : List Encryption}
    (hideal : cipher.Ideal tagBytes (calls.flatMap Encryption.sealings))
    (hfresh : Encryption.Fresh calls) {call : Encryption} (hcall : call ∈ calls)
    {keyVersion : ℕ} (hversion : 1 ≤ keyVersion ∧ keyVersion < 2 ^ 32)
    (hkey : call.masterKey.length = keyBytes) (hplaintext : call.plaintext ≠ [])
    (hwell : Utf8.WellFormed call.plaintext) :
    (∀ {left right : CredentialEncryptionContext}, left.WellFormed → right.WellFormed →
      additionalData left = additionalData right → left = right) ∧
    ∃ envelope, encryptCredential cipher call.random call.context keyVersion call.masterKey
        call.plaintext = .ok envelope ∧
      ∀ masterKeys : ℕ → Option (List UInt8), masterKeys keyVersion = some call.masterKey →
        decryptCredential cipher call.context masterKeys envelope.ciphertext =
            .ok call.plaintext ∧
        (∀ other : CredentialEncryptionContext, call.context.WellFormed → other.WellFormed →
          other ≠ call.context →
          ∃ reasonCode, decryptCredential cipher other masterKeys envelope.ciphertext =
            .error (.credentialEncryptionError reasonCode)) ∧
        ∀ text, (Base64.decode text).take headerBytes <+: Base64.decode envelope.ciphertext →
          (∀ other ∈ calls, other.masterKey = call.masterKey →
            additionalData other.context = additionalData call.context →
            ∀ written, encryptCredential cipher other.random other.context keyVersion
              other.masterKey other.plaintext = .ok written →
              Base64.decode text ≠ Base64.decode written.ciphertext) →
          ∃ reasonCode, decryptCredential cipher call.context masterKeys text =
            .error (.credentialEncryptionError reasonCode) := by
  refine ⟨additionalData_injOn, ?_⟩
  obtain ⟨version, hwritten, hlength, hword⟩ := readWord_uint32BE hversion.2
  have hheader : (1 :: version).length = headerBytes := by rw [length_cons, hlength, headerBytes]
  have hfreshKey : ∀ other ∈ calls, other.random.dataKey ≠ call.masterKey :=
    fun other hother => hfresh.dataKey_ne other hother call hcall
  refine ⟨_, Encryption.encryptCredential_eq cipher hwritten hversion.1 hkey hplaintext,
    fun masterKeys hmaster => ⟨?_, ?_, ?_⟩⟩
  · exact Encryption.decryptCredential_written hideal hcall hlength (hword 1) hmaster hkey
      hplaintext hwell
  · intro other hcontext hother hne
    rcases Encryption.thrown_or_written hideal hfresh hheader (hword 1) hmaster hfreshKey
      (by rw [decode_encodePadded]; exact take_prefix _ _) with
      hthrown | ⟨writer, hwriter, hwriterKey, hdata, -, hbytes⟩
    · exact hthrown
    -- the vector of the envelope belongs to no other call
    · exfalso
      rw [decode_encodePadded] at hbytes
      have hcaller := Encryption.eq_of_written_eq hideal hfresh hcall hwriter hwriterKey.symm
        hheader hbytes
      rw [← hcaller] at hdata
      exact hne (additionalData_injOn hcontext hother hdata).symm
  · intro text hprefix hothers
    rw [decode_encodePadded] at hprefix
    rcases Encryption.thrown_or_written hideal hfresh hheader (hword 1) hmaster hfreshKey hprefix
      with hthrown | ⟨writer, hwriter, hwriterKey, hdata, hsealed, hbytes⟩
    · exact hthrown
    · exfalso
      refine hothers writer hwriter hwriterKey hdata _
        (Encryption.encryptCredential_eq cipher hwritten hversion.1 (hwriterKey ▸ hkey) hsealed) ?_
      rw [decode_encodePadded]
      exact hbytes

end

namespace EnvelopeSample

def row : CredentialEncryptionContext :=
  ⟨ofString "account", ofString "instagram", ofString "workspace"⟩

def masterKey : List UInt8 := List.replicate keyBytes 1

def older : Encryption where
  random := ⟨List.replicate keyBytes 2, List.replicate ivBytes 1, List.replicate ivBytes 2,
    length_replicate, length_replicate, length_replicate⟩
  context := row
  masterKey := masterKey
  plaintext := ofString "old"

def newer : Encryption where
  random := ⟨List.replicate keyBytes 3, List.replicate ivBytes 3, List.replicate ivBytes 4,
    length_replicate, length_replicate, length_replicate⟩
  context := row
  masterKey := masterKey
  plaintext := ofString "new"

def cipher : Cipher := Cipher.recorded tagBytes ([older, newer].flatMap Encryption.sealings)

theorem fresh : Encryption.Fresh [older, newer] where
  dataKey_ne := by
    simp only [forall_mem_cons]
    decide
  dataKey_injOn := by
    have hne : older.random.dataKey ≠ newer.random.dataKey := by decide
    simp only [mem_cons, not_mem_nil, or_false]
    rintro call (rfl | rfl) other (rfl | rfl) hsame
    · rfl
    · exact absurd hsame hne
    · exact absurd hsame.symm hne
    · rfl
  wrapIv_injOn := by
    have hne : older.random.wrapIv ≠ newer.random.wrapIv := by decide
    simp only [mem_cons, not_mem_nil, or_false]
    rintro call (rfl | rfl) other (rfl | rfl) - hsame
    · rfl
    · exact absurd hsame hne
    · exact absurd hsame.symm hne
    · rfl

theorem newer_opens :
    ∃ envelope, encryptCredential cipher newer.random row (1 : ℕ) masterKey (ofString "new") =
        .ok envelope ∧
      decryptCredential cipher row (fun _ => some masterKey) envelope.ciphertext =
        .ok (ofString "new") := by
  have hnewer : newer ∈ [older, newer] := mem_cons_of_mem _ (mem_singleton_self _)
  obtain ⟨-, envelope, hwritten, hopens⟩ := credential_envelope_bound
    (Cipher.ideal_recorded tagBytes _) fresh hnewer (by decide : 1 ≤ 1 ∧ 1 < 2 ^ 32)
    (by decide) (by decide) (Utf8.wellFormed_of_all (by decide))
  exact ⟨envelope, hwritten, (hopens _ rfl).1⟩

/-- **An older envelope of the row opens in its place**: nothing but the bytes after the header
has been altered. -/
theorem older_opens :
    cipher.Ideal tagBytes ([older, newer].flatMap Encryption.sealings) ∧
    Encryption.Fresh [older, newer] ∧
    ∃ before after,
      encryptCredential cipher older.random row (1 : ℕ) masterKey (ofString "old") =
        .ok before ∧
      encryptCredential cipher newer.random row (1 : ℕ) masterKey (ofString "new") =
        .ok after ∧
      Base64.decode before.ciphertext ≠ Base64.decode after.ciphertext ∧
      (Base64.decode before.ciphertext).take headerBytes =
        (Base64.decode after.ciphertext).take headerBytes ∧
      decryptCredential cipher row (fun _ => some masterKey) before.ciphertext =
        .ok (ofString "old") := by
  have hideal := Cipher.ideal_recorded tagBytes ([older, newer].flatMap Encryption.sealings)
  obtain ⟨version, hversion, hlength, hword⟩ := readWord_uint32BE (by decide : 1 < 2 ^ 32)
  have hheader : (1 :: version).length = headerBytes := by
    rw [length_cons, hlength, headerBytes]
  have holder : older ∈ [older, newer] := mem_cons_self
  have hnewer : newer ∈ [older, newer] := mem_cons_of_mem _ (mem_singleton_self _)
  have hbefore :=
    @Encryption.encryptCredential_eq cipher older 1 version hversion le_rfl (by decide) (by decide)
  have hafter :=
    @Encryption.encryptCredential_eq cipher newer 1 version hversion le_rfl (by decide) (by decide)
  refine ⟨hideal, fresh, _, _, hbefore, hafter, ?_, ?_, ?_⟩
  · simp only [decode_encodePadded]
    intro hbytes
    have hsame := Encryption.eq_of_written_eq hideal fresh holder hnewer rfl hheader hbytes
    exact absurd (congrArg Encryption.plaintext hsame) (by decide)
  · simp only [decode_encodePadded, take_left' hheader]
  · have hmaster : (fun _ : ℕ => some masterKey) 1 = some older.masterKey := rfl
    exact Encryption.decryptCredential_written hideal holder hlength (hword 1) hmaster
      (by decide) (by decide) (Utf8.wellFormed_of_all (by decide))

end EnvelopeSample

end ContentAutomation
