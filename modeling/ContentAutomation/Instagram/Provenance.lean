import ContentAutomation.Instagram.Provider
import ContentAutomation.Library.Joined
import ContentAutomation.Library.JsonWriting

/-!
# The hash of a payload

A stored post or comment carries a hash of what the provider sent, taken over the item with
its records built anew in the order of their keys. This file determines when equal hashes
mean equal items: what is assigned to the key `__proto__` never becomes a field, and a number
that is read as infinite is written as null.
-/

namespace ContentAutomation

open Utf16 List

/-- The items are one value of JSON, up to the order of keys, once the dropped fields are
removed at every depth. -/
def SameContent (dropped : List Utf16) (item other : Json) : Prop :=
  item.value.without dropped = other.value.without dropped

/-- The items are one value of JSON as far as the hash sees them: without fields named
`__proto__`, and with null for the numbers that are read as infinite. -/
def SameAsHashed (dropped : List Utf16) (item other : Json) : Prop :=
  item.value.finite.without (Json.protoKey :: dropped) =
    other.value.finite.without (Json.protoKey :: dropped)

/-- **The hash identifies the content**: the items have one hash exactly when they are one
value up to the order of keys. -/
def HashIdentifies (hash : Json → HexDigest) (dropped : List Utf16) (item other : Json) : Prop :=
  hash item = hash other ↔ SameContent dropped item other

/-- The text that is hashed. -/
def hashedText (runtime : Runtime) (dropped : List Utf16) (item : Json) : Utf16 :=
  (item.canonicalise dropped).stringify runtime.numeral

/-- The digest tells the encoded texts of two items apart. -/
def DigestTellsApart (runtime : Runtime) (dropped : List Utf16) (item other : Json) : Prop :=
  runtime.sha256 (hashedText runtime dropped item) =
      runtime.sha256 (hashedText runtime dropped other) →
    Utf8.encode (hashedText runtime dropped item) = Utf8.encode (hashedText runtime dropped other)

variable {runtime : Runtime} {dropped : List Utf16} {item other : Json}

private theorem SameContent.sameAsHashed (h : SameContent dropped item other) :
    SameAsHashed dropped item other := by
  have hseen (item : Json) : item.value.finite.without (Json.protoKey :: dropped) =
      ((item.value.without dropped).finite).without [Json.protoKey] :=
    (JsonValue.without_finite_without [Json.protoKey] dropped item.value).symm
  unfold SameAsHashed
  rw [hseen, hseen, h]

/-- The hashed texts have the same bytes exactly when the items are one value as far as the
hash sees them. -/
theorem encode_hashedText_eq_iff (spec : Json.Numerals runtime.numeral) (hitem : item.Keyed)
    (hother : other.Keyed) :
    Utf8.encode (hashedText runtime dropped item) =
        Utf8.encode (hashedText runtime dropped other) ↔ SameAsHashed dropped item other := by
  unfold hashedText SameAsHashed
  rw [Json.encode_stringify_eq_iff spec, Json.written_canonicalise, Json.written_canonicalise,
    Json.canonicalise_eq_iff dropped hitem.written hother.written, Json.value_written,
    Json.value_written]

/-- Two items have one hash exactly when they are one value as far as the hash sees them. -/
theorem sha256_hashedText_eq_iff (spec : Json.Numerals runtime.numeral) (hitem : item.Keyed)
    (hother : other.Keyed) (happart : DigestTellsApart runtime dropped item other) :
    runtime.sha256 (hashedText runtime dropped item) =
        runtime.sha256 (hashedText runtime dropped other) ↔ SameAsHashed dropped item other := by
  rw [← encode_hashedText_eq_iff spec hitem hother]
  constructor
  · exact happart
  · intro hbytes
    have hsame := (Json.encode_stringify_eq_iff spec).mp hbytes
    rw [hashedText, hashedText, (Json.stringify_eq_iff spec).mpr hsame]

/-- The hash over an item without some fields identifies the content exactly when the items
differ in more than what the hash does not see. -/
theorem hashIdentifies_iff (spec : Json.Numerals runtime.numeral) (hitem : item.Keyed)
    (hother : other.Keyed) (happart : DigestTellsApart runtime dropped item other) :
    HashIdentifies (fun item => runtime.sha256 (hashedText runtime dropped item)) dropped item
        other ↔
      (SameAsHashed dropped item other → SameContent dropped item other) := by
  unfold HashIdentifies
  rw [sha256_hashedText_eq_iff spec hitem hother happart]
  exact ⟨fun h => h.mp, fun h => ⟨h, SameContent.sameAsHashed⟩⟩

/-- **The hashes of media and of comments identify the content** exactly when the items do
not differ only in fields named `__proto__` and in numbers that are read as infinite. -/
theorem payload_hashes_identify_iff (spec : Json.Numerals runtime.numeral) (hitem : item.Keyed)
    (hother : other.Keyed)
    (hmedia : DigestTellsApart runtime instagramEphemeralUrlFields item other)
    (hcomment : DigestTellsApart runtime [] item other) :
    (HashIdentifies (hashInstagramMediaPayload runtime) instagramEphemeralUrlFields item other ↔
      (SameAsHashed instagramEphemeralUrlFields item other →
        SameContent instagramEphemeralUrlFields item other)) ∧
    (HashIdentifies (hashInstagramCommentPayload runtime) [] item other ↔
      (SameAsHashed [] item other → SameContent [] item other)) :=
  ⟨hashIdentifies_iff spec hitem hother hmedia,
    hashIdentifies_iff spec hitem hother hcomment⟩

namespace ProvenanceSample

/-- How a number is written as a fraction. -/
def fraction (number : ℚ) : Utf16 :=
  ofString (toString number.num ++ "e" ++ toString number.den)

private theorem digit_or_sign {n : ℤ} {c : Char} (h : c ∈ (toString n).toList) :
    c = '-' ∨ c.isDigit := by
  have hdigits (n : ℕ) (hc : c ∈ n.repr.toList) : c.isDigit = true := by
    rw [Nat.toList_repr] at hc
    exact Nat.isDigit_of_mem_toDigits (by omega) (by omega) hc
  rw [Int.toString_eq_repr, Int.repr_eq_if] at h
  split_ifs at h
  · exact .inr (hdigits _ h)
  · rw [String.toList_append, mem_append] at h
    rcases h with hsign | hrest
    · exact .inl (mem_singleton.mp hsign)
    · exact .inr (hdigits _ hrest)

private theorem isNumeralUnit_of_isDigit {c : Char} {unit : UInt16} (h : c.isDigit)
    (hunit : unit ∈ codeUnits c) : Json.isNumeralUnit unit := by
  have hrange : 0x30 ≤ c.toNat ∧ c.toNat ≤ 0x39 := by
    simp only [Char.isDigit, Bool.and_eq_true, decide_eq_true_eq] at h
    have hlow := UInt32.le_iff_toNat_le.mp h.1
    have hhigh := UInt32.le_iff_toNat_le.mp h.2
    exact ⟨hlow, hhigh⟩
  rw [codeUnits, if_pos (by omega), mem_singleton] at hunit
  have hdecimal : Json.isDecimal unit = true := by
    rw [hunit, Json.isDecimal, Bool.and_eq_true, decide_eq_true_eq, decide_eq_true_eq,
      UInt16.le_iff_toNat_le, UInt16.le_iff_toNat_le, UInt16.toNat_ofNat']
    have hlow : (0x30 : UInt16).toNat = 0x30 := rfl
    have hhigh : (0x39 : UInt16).toNat = 0x39 := rfl
    omega
  rw [Json.isNumeralUnit, hdecimal]
  rfl

private theorem numerals_fraction : Json.Numerals fraction := by
  have hletter : ∀ n : ℤ, 'e' ∉ (toString n).toList := by
    intro n h
    rcases digit_or_sign h with hsign | hdigit
    · exact absurd hsign (by decide)
    · exact absurd hdigit (by decide)
  constructor
  · intro number other h
    have hlists := congrArg String.toList (Utf8.ofString_injective h)
    have he : "e".toList = ['e'] := rfl
    simp only [String.toList_append, he, append_assoc, singleton_append] at hlists
    obtain ⟨hnum, hden⟩ := JoinedText.append_cons_inj hlists (hletter _) (hletter _)
    have hnum := String.toList_inj.mp hnum
    have hden := String.toList_inj.mp hden
    rw [Int.toString_eq_repr, Int.toString_eq_repr] at hnum
    exact Rat.ext (Int.repr_injective hnum) (Nat.repr_injective hden)
  · intro number h
    have hmem : (0x65 : UInt16) ∈ fraction number := by
      rw [fraction, ofString_append, ofString_append]
      exact mem_append_left _ (mem_append_right _ (by decide))
    rw [h] at hmem
    cases hmem
  · intro number unit hunit
    obtain ⟨c, hc, hmem⟩ := mem_ofString hunit
    have hof {n : ℤ} (hc : c ∈ (toString n).toList) : Json.isNumeralUnit unit = true := by
      rcases digit_or_sign hc with rfl | hdigit
      · rw [mem_singleton.mp hmem]
        rfl
      · exact isNumeralUnit_of_isDigit hdigit hmem
    rw [String.toList_append, String.toList_append, mem_append, mem_append] at hc
    rcases hc with (hnum | he) | hden
    · exact hof hnum
    · rw [mem_singleton.mp he] at hmem
      rw [mem_singleton.mp hmem]
      rfl
    · have hlist : (toString number.den).toList = Nat.toDigits 10 number.den := Nat.toList_repr
      rw [hlist] at hden
      exact isNumeralUnit_of_isDigit
        (Nat.isDigit_of_mem_toDigits (by omega) (by omega) hden) hmem

def ones : HexDigest := ⟨List.replicate 64 0x31, List.length_replicate, by simp⟩

/-- Numbers are fractions, and a digest tells texts of even and of odd length apart. -/
def fractions : Runtime where
  numeral := fraction
  dateParse _ := none
  protocol _ := none
  sha256 text := if text.length % 2 = 0 then HexDigest.zeros else ones

/-- An item with a link, and this key before it. -/
def linked (key link : String) : Json :=
  .object [(ofString key, .string (ofString "17890000000000001")),
    (ofString "media_url", .string (ofString link))]

/-- The same item with its fields in the other order. -/
def reordered (key link : String) : Json :=
  .object [(ofString "media_url", .string (ofString link)),
    (ofString key, .string (ofString "17890000000000001"))]

/-- An item that has nothing but the link. -/
def bare (link : String) : Json :=
  .object [(ofString "media_url", .string (ofString link))]

private theorem hashedTexts_eq : ∀ dropped ∈ [instagramEphemeralUrlFields, []],
    hashedText fractions dropped (linked "id" "https://a") =
        hashedText fractions dropped (reordered "id" "https://a") ∧
      hashedText fractions dropped (linked "__proto__" "https://a") =
        hashedText fractions dropped (bare "https://a") := by
  decide +kernel

private theorem digestTellsApart_of_eq {dropped : List Utf16} {item other : Json}
    (h : hashedText fractions dropped item = hashedText fractions dropped other) :
    DigestTellsApart fractions dropped item other := by
  intro _
  rw [h]

private theorem keyed_samples :
    (linked "id" "https://a").Keyed ∧ (reordered "id" "https://a").Keyed ∧
    (linked "__proto__" "https://a").Keyed ∧ (bare "https://a").Keyed :=
  ⟨⟨by decide, trivial, trivial, trivial⟩, ⟨by decide, trivial, trivial, trivial⟩,
    ⟨by decide, trivial, trivial, trivial⟩, ⟨by decide, trivial, trivial⟩⟩

/-- Under another link an item has the same hash as a medium, and another one as a comment. -/
theorem hashedText_linked :
    hashedText fractions instagramEphemeralUrlFields (linked "id" "https://a") =
        hashedText fractions instagramEphemeralUrlFields (linked "id" "https://bc") ∧
      (fractions.sha256 (hashedText fractions [] (linked "id" "https://a"))).text ≠
        (fractions.sha256 (hashedText fractions [] (linked "id" "https://bc"))).text := by
  decide +kernel

/-- A reordered item and one with another link are identified. -/
theorem reordered_is_identified :
    ((HashIdentifies (hashInstagramMediaPayload fractions) instagramEphemeralUrlFields
          (linked "id" "https://a") (reordered "id" "https://a") ↔
        (SameAsHashed instagramEphemeralUrlFields (linked "id" "https://a") (reordered "id" "https://a") →
          SameContent instagramEphemeralUrlFields (linked "id" "https://a") (reordered "id" "https://a"))) ∧
      (HashIdentifies (hashInstagramCommentPayload fractions) [] (linked "id" "https://a")
          (reordered "id" "https://a") ↔
        (SameAsHashed [] (linked "id" "https://a") (reordered "id" "https://a") →
          SameContent [] (linked "id" "https://a") (reordered "id" "https://a")))) ∧
    ((HashIdentifies (hashInstagramMediaPayload fractions) instagramEphemeralUrlFields
          (linked "id" "https://a") (linked "id" "https://bc") ↔
        (SameAsHashed instagramEphemeralUrlFields (linked "id" "https://a") (linked "id" "https://bc") →
          SameContent instagramEphemeralUrlFields (linked "id" "https://a") (linked "id" "https://bc"))) ∧
      (HashIdentifies (hashInstagramCommentPayload fractions) [] (linked "id" "https://a")
          (linked "id" "https://bc") ↔
        (SameAsHashed [] (linked "id" "https://a") (linked "id" "https://bc") →
          SameContent [] (linked "id" "https://a") (linked "id" "https://bc")))) := by
  obtain ⟨hlinked, hreordered, -, -⟩ := keyed_samples
  have hother : (linked "id" "https://bc").Keyed := ⟨by decide, trivial, trivial, trivial⟩
  have hmedia := (hashedTexts_eq instagramEphemeralUrlFields (by simp)).1
  have hcomment := (hashedTexts_eq [] (by simp)).1
  refine ⟨payload_hashes_identify_iff numerals_fraction hlinked hreordered
      (digestTellsApart_of_eq hmedia) (digestTellsApart_of_eq hcomment),
    payload_hashes_identify_iff numerals_fraction hlinked hother
      (digestTellsApart_of_eq hashedText_linked.1) fun hsame => ?_⟩
  exact absurd (congrArg HexDigest.text hsame) hashedText_linked.2

/-- A field named `__proto__` goes unnoticed. -/
theorem proto_goes_unnoticed : ¬ ∀ (runtime : Runtime) (item other : Json),
    Json.Numerals runtime.numeral → item.Keyed → other.Keyed →
    DigestTellsApart runtime instagramEphemeralUrlFields item other →
    DigestTellsApart runtime [] item other →
    HashIdentifies (hashInstagramMediaPayload runtime) instagramEphemeralUrlFields item other ∧
      HashIdentifies (hashInstagramCommentPayload runtime) [] item other := by
  intro h
  obtain ⟨-, -, hlinked, hbare⟩ := keyed_samples
  have hmedia := (hashedTexts_eq instagramEphemeralUrlFields (by simp)).2
  have hcomment := (hashedTexts_eq [] (by simp)).2
  have hboth := h fractions _ _ numerals_fraction hlinked hbare (digestTellsApart_of_eq hmedia)
    (digestTellsApart_of_eq hcomment)
  have hsame := JsonValue.object.inj (hboth.2.mp (congrArg fractions.sha256 hcomment))
  have hproto := congrArg Option.isSome (congrFun hsame Json.protoKey)
  revert hproto
  decide

end ProvenanceSample

end ContentAutomation
