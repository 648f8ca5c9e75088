import Mathlib.Algebra.GroupWithZero.Nat
import McpgOperator.Lib.Base64
import McpgOperator.Lib.Hex
import McpgOperator.Proofs.Revocation

/-!
# Which key a Secret holds

A signing key is 32 bytes, and its Secret holds them as they are, in one of two
base64 forms, or in hex with white space around it. The four decoders are tried
in order, and the text of a later form may well be accepted by an earlier
decoder (hex digits are base64 symbols). What keeps them apart is how long they
are: 32, 44, 43 and at least 64 bytes, where the decoders are strict enough
that a result of 32 bytes comes from a text of exactly that length.
-/

namespace McpgOperator.Plugin

open McpgOperator.Kube McpgOperator.Text

/-- The bytes of a text. -/
def utf8 (text : String) : Bytes := text.toByteArray.data.toList

/-- What the crates document of the decoders: strict base64 in the two
alphabets, hex in either case, and UTF-8. -/
structure CodecLaws (codec : CodecLib) : Prop where
  base64Standard : ∀ bytes,
    codec.base64Standard bytes = Base64.decode Base64.standard true bytes
  base64UrlSafeNoPad : ∀ bytes,
    codec.base64UrlSafeNoPad bytes = Base64.decode Base64.urlSafe false bytes
  hexDecode : ∀ text, codec.hexDecode text = Hex.decode text.toList
  fromUtf8 : ∀ bytes text,
    codec.fromUtf8 bytes = .ok text ↔ utf8 text = bytes

/-- The encodings of a key. -/
inductive Encodes (key : Bytes) : Bytes → Prop
  | raw : Encodes key key
  | standard : Encodes key (Base64.encode Base64.standard true key)
  | urlSafe : Encodes key (Base64.encode Base64.urlSafe false key)
  | hex (before digits after : List Char)
      (hbefore : ∀ c ∈ before, isWhitespace c = true)
      (hafter : ∀ c ∈ after, isWhitespace c = true)
      (hdigits : digits.map Char.toLower = Hex.encode key) :
      Encodes key (utf8 (String.ofList (before ++ (digits ++ after))))

/-! ## Lengths -/

theorem length_utf8 (text : String) :
    (utf8 text).length = text.utf8ByteSize := rfl

theorem utf8ByteSize_ofList (cs : List Char) :
    (String.ofList cs).utf8ByteSize = (cs.map Char.utf8Size).sum := by
  rw [← String.size_toByteArray, String.toByteArray_ofList, List.utf8Encode,
    List.size_toByteArray, List.length_flatMap]
  simp only [String.length_utf8EncodeChar]

/-- The digits of a key are 64 bytes, none of them white space. -/
theorem hexDigits_facts {digits : List Char} {key : Bytes}
    (hkey : key.length = 32) (h : digits.map Char.toLower = Hex.encode key) :
    (∀ c ∈ digits, isWhitespace c = false) ∧
      (digits.map Char.utf8Size).sum = 64 := by
  have hdecode := Hex.decode_eq_some.mpr h
  have hrange : ∀ c ∈ digits, 48 ≤ c.toNat ∧ c.toNat ≤ 102 := by
    intro c hc
    obtain ⟨n, hn⟩ := Hex.value_of_decode hdecode c hc
    exact Hex.range_of_value hn
  refine ⟨fun c hc => ?_, ?_⟩
  · have hc := hrange c hc
    simp only [isWhitespace, Bool.or_eq_false_iff, Bool.and_eq_false_iff,
      beq_eq_false_iff_ne, decide_eq_false_iff_not]
    omega
  · have hone : digits.map Char.utf8Size = digits.map fun _ => 1 := by
      refine List.map_congr_left fun c hc => ?_
      rw [Char.utf8Size_eq_one_iff, UInt32.le_iff_toNat_le]
      have hc := hrange c hc
      have hval : c.val.toNat = c.toNat := rfl
      have hascii : UInt32.toNat 127 = 127 := rfl
      omega
    have hlength := congrArg List.length h
    rw [List.length_map, Hex.length_encode, hkey] at hlength
    rw [hone, List.map_const', List.sum_replicate_nat, hlength]

theorem length_hexText {before digits after : List Char} {key : Bytes}
    (hkey : key.length = 32) (h : digits.map Char.toLower = Hex.encode key) :
    64 ≤ (utf8 (String.ofList (before ++ (digits ++ after)))).length := by
  have hsize := (hexDigits_facts hkey h).2
  rw [length_utf8, utf8ByteSize_ofList, List.map_append, List.map_append,
    List.sum_append, List.sum_append, hsize]
  omega

/-! ## The decoders in order -/

variable {codec : CodecLib} {bytes key : Bytes}

/-- What a decoder's result of the length of a key is kept for. -/
theorem filter_length_eq_some {o : Option Bytes} :
    o.filter (·.length = 32) = some key ↔ o = some key ∧ key.length = 32 := by
  rw [Option.filter_eq_some_iff, decide_eq_true_eq]

theorem standard_iff (laws : CodecLaws codec) :
    (codec.base64Standard bytes).filter (·.length = 32) = some key ↔
      Base64.encode Base64.standard true key = bytes ∧ key.length = 32 := by
  rw [filter_length_eq_some, laws.base64Standard, Base64.decode_eq_some]

theorem urlSafe_iff (laws : CodecLaws codec) :
    (codec.base64UrlSafeNoPad bytes).filter (·.length = 32) = some key ↔
      Base64.encode Base64.urlSafe false key = bytes ∧ key.length = 32 := by
  rw [filter_length_eq_some, laws.base64UrlSafeNoPad, Base64.decode_eq_some]

theorem not_standard (laws : CodecLaws codec) (h : bytes.length ≠ 44) :
    (codec.base64Standard bytes).filter (·.length = 32) = none := by
  rw [Option.eq_none_iff_forall_ne_some]
  intro k hk
  obtain ⟨rfl, hlength⟩ := (standard_iff laws).mp hk
  rw [Base64.length_encode_padded, hlength] at h
  exact h rfl

theorem not_urlSafe (laws : CodecLaws codec) (h : bytes.length ≠ 43) :
    (codec.base64UrlSafeNoPad bytes).filter (·.length = 32) = none := by
  rw [Option.eq_none_iff_forall_ne_some]
  intro k hk
  obtain ⟨rfl, hlength⟩ := (urlSafe_iff laws).mp hk
  rw [Base64.length_encode_unpadded, hlength] at h
  exact h rfl

/-- A value that is accepted encodes the key it is read as. -/
theorem encodes_of_decodeSigningKey (laws : CodecLaws codec)
    (h : decodeSigningKey codec bytes = some key) : Encodes key bytes := by
  unfold decodeSigningKey at h
  by_cases hraw : bytes.length = 32
  · rw [if_pos hraw] at h
    cases h
    exact .raw
  rw [if_neg hraw] at h
  cases hstandard : (codec.base64Standard bytes).filter (·.length = 32) with
  | some decoded =>
      rw [hstandard] at h
      cases h
      obtain ⟨rfl, -⟩ := (standard_iff laws).mp hstandard
      exact .standard
  | none =>
      rw [hstandard] at h
      dsimp only at h
      cases hurl : (codec.base64UrlSafeNoPad bytes).filter
          (·.length = 32) with
      | some decoded =>
          rw [hurl] at h
          cases h
          obtain ⟨rfl, -⟩ := (urlSafe_iff laws).mp hurl
          exact .urlSafe
      | none =>
          rw [hurl] at h
          dsimp only at h
          cases htext : codec.fromUtf8 bytes with
          | error e =>
              rw [htext] at h
              cases h
          | ok text =>
              rw [htext] at h
              dsimp only at h
              by_cases hsize : (trim text).utf8ByteSize = 64
              · rw [if_pos hsize] at h
                have hhex := (filter_length_eq_some.mp h).1
                rw [laws.hexDecode, trim, String.toList_ofList,
                  Hex.decode_eq_some] at hhex
                obtain ⟨before, after, hparts, hbefore, hafter⟩ :=
                  exists_trimMatches isWhitespace text.toList
                have hbytes := (laws.fromUtf8 _ _).mp htext
                rw [← String.ofList_toList (s := text), hparts] at hbytes
                subst hbytes
                exact .hex before _ after hbefore hafter hhex
              · rw [if_neg hsize] at h
                cases h

/-- Each encoding of a key is read as the key. -/
theorem decodeSigningKey_of_encodes (laws : CodecLaws codec)
    (hkey : key.length = 32) (h : Encodes key bytes) :
    decodeSigningKey codec bytes = some key := by
  unfold decodeSigningKey
  cases h with
  | raw => rw [if_pos hkey]
  | standard =>
      have hlength := Base64.length_encode_padded Base64.standard key
      rw [hkey] at hlength
      rw [if_neg (by omega), (standard_iff laws).mpr ⟨rfl, hkey⟩]
  | urlSafe =>
      have hlength := Base64.length_encode_unpadded Base64.urlSafe key
      rw [hkey] at hlength
      rw [if_neg (by omega), not_standard laws (by omega)]
      dsimp only
      rw [(urlSafe_iff laws).mpr ⟨rfl, hkey⟩]
  | hex before digits after hbefore hafter hdigits =>
      have hlength :
          64 ≤ (utf8 (String.ofList (before ++ (digits ++ after)))).length :=
        length_hexText hkey hdigits
      obtain ⟨hblank, hsize⟩ := hexDigits_facts hkey hdigits
      rw [if_neg (by omega), not_standard laws (by omega)]
      dsimp only
      rw [not_urlSafe laws (by omega)]
      dsimp only
      rw [(laws.fromUtf8 _ _).mpr rfl]
      dsimp only
      have htrim : trim (String.ofList (before ++ (digits ++ after))) =
          String.ofList digits := by
        rw [trim, String.toList_ofList,
          trimMatches_append hbefore hblank hafter]
      rw [htrim, if_pos ((utf8ByteSize_ofList digits).trans hsize),
        laws.hexDecode, String.toList_ofList, Hex.decode_eq_some.mpr hdigits]
      exact filter_length_eq_some.mpr ⟨rfl, hkey⟩

/-! ## The Secret -/

/-- The Secret the reference names holds the bytes. -/
def SecretHolds (getSecret : String → Except KubeError Secret)
    (keyRef : SigningKeyRef) (bytes : Bytes) : Prop :=
  ∃ secret, getSecret keyRef.secretName = .ok secret ∧
    (secret.data.getD []).lookup keyRef.key = some bytes

theorem loadSigningKey_eq_ok {getSecret : String → Except KubeError Secret}
    {keyRef : SigningKeyRef} :
    loadSigningKey codec getSecret keyRef = .ok key ↔
      ∃ bytes, SecretHolds getSecret keyRef bytes ∧
        decodeSigningKey codec bytes = some key := by
  unfold loadSigningKey SecretHolds
  cases getSecret keyRef.secretName with
  | error e => simp
  | ok secret =>
      simp only [Except.ok.injEq, exists_eq_left']
      cases (secret.data.getD []).lookup keyRef.key with
      | none => simp
      | some bytes =>
          simp only [Option.some.injEq, exists_eq_left']
          cases decodeSigningKey codec bytes with
          | none => simp
          | some k => simp

/-- The key that is loaded is the 32 bytes the Secret encodes, in whichever
encoding; and no value encodes two keys. -/
theorem signing_key_decoding (laws : CodecLaws codec) :
    (∀ getSecret keyRef key,
      loadSigningKey codec getSecret keyRef = .ok key ↔
        key.length = 32 ∧ ∃ bytes,
          SecretHolds getSecret keyRef bytes ∧ Encodes key bytes) ∧
    ∀ bytes key other, key.length = 32 → other.length = 32 →
      Encodes key bytes → Encodes other bytes → key = other := by
  refine ⟨fun getSecret keyRef key => ?_, ?_⟩
  · rw [loadSigningKey_eq_ok]
    constructor
    · rintro ⟨bytes, hholds, hdecode⟩
      exact ⟨decodeSigningKey_length hdecode, bytes, hholds,
        encodes_of_decodeSigningKey laws hdecode⟩
    · rintro ⟨hkey, bytes, hholds, hencodes⟩
      exact ⟨bytes, hholds, decodeSigningKey_of_encodes laws hkey hencodes⟩
  · intro bytes key other hkey hother hencodes hencodes'
    have hdecode := decodeSigningKey_of_encodes laws hkey hencodes
    rw [decodeSigningKey_of_encodes laws hother hencodes'] at hdecode
    exact (Option.some.inj hdecode).symm

namespace Sample

/-- Decoders that do what the laws say. -/
def strictCodec : CodecLib where
  fromUtf8 bytes :=
    if h : bytes.toByteArray.IsValidUTF8 then
      .ok (String.fromUTF8 bytes.toByteArray h)
    else .error "invalid utf-8 sequence"
  base64Standard := Base64.decode Base64.standard true
  base64UrlSafeNoPad := Base64.decode Base64.urlSafe false
  hexDecode text := Hex.decode text.toList
  YamlValue := Unit
  yamlFromStr _ := .error "no document"
  yamlGet _ _ := none
  yamlAsStr _ := none

theorem strictCodec_laws : CodecLaws strictCodec where
  base64Standard _ := rfl
  base64UrlSafeNoPad _ := rfl
  hexDecode _ := rfl
  fromUtf8 bytes text := by
    have hbytes : bytes.toByteArray.data.toList = bytes :=
      List.toList_data_toByteArray
    constructor
    · intro h
      by_cases hvalid : bytes.toByteArray.IsValidUTF8
      · cases (dif_pos hvalid).symm.trans h
        exact hbytes
      · cases (dif_neg hvalid).symm.trans h
    · rintro rfl
      have hsame : (utf8 text).toByteArray = text.toByteArray :=
        ByteArray.ext (Array.toList_inj.mp hbytes)
      have hvalid : (utf8 text).toByteArray.IsValidUTF8 := by
        rw [hsame]
        exact text.isValidUTF8
      have htext : String.fromUTF8 (utf8 text).toByteArray hvalid = text :=
        String.toByteArray_inj.mp hsame
      exact (dif_pos hvalid).trans (congrArg Except.ok htext)

/-- The key of the module's test in hex, as `kubectl` reads it from a file
with a line feed at its end. -/
def hexSecret : Secret where
  name := some "keys"
  namespace_ := some operatorNamespace
  data := some [("pub", utf8 (String.ofList
    ([] ++ (List.replicate 64 'F' ++ ['\n']))))]

theorem signingKey_hexSecret :
    loadSigningKey strictCodec (fun _ => .ok hexSecret)
        { secretName := "keys", key := "pub" } =
      .ok (List.replicate 32 255) := by
  refine ((signing_key_decoding strictCodec_laws).1 _ _ _).mpr
    ⟨rfl, _, ⟨hexSecret, rfl, rfl⟩, ?_⟩
  have hbefore : ∀ c ∈ ([] : List Char), isWhitespace c = true :=
    fun _ hc => absurd hc List.not_mem_nil
  have hafter : ∀ c ∈ ['\n'], isWhitespace c = true := by
    intro c hc
    rw [List.mem_singleton.mp hc]
    rfl
  exact .hex [] _ ['\n'] hbefore hafter (by decide)

end Sample

end McpgOperator.Plugin
