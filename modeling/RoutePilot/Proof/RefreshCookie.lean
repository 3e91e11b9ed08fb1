/-
  A refresh token in its cookie (`sealJson`, `openJson`, `setSessionCookies` and
  `readRefreshToken` in `oidc.ts`).

  What is sealed is opened again (`openJson_sealed`), and a text of `n` bytes is sealed in
  `43` characters and a third more than `n` (`length_sealed`).  The bound on tokens and the
  one on sealed texts do not match: a token is sealed if and only if its escaped bytes and
  the digits of the time leave room for it.
-/
import Mathlib.Algebra.Order.Ring.Rat
import Mathlib.Data.Bool.AllAny
import Mathlib.Tactic.Linarith
import RoutePilot.Web.Oidc

namespace RoutePilot.Web.Oidc

open Lib

/-! ## Base64 -/

theorem length_base64url (bytes : List UInt8) : (base64url bytes).length = (4 * bytes.length + 2) / 3 := by
  rw [base64url, Base64.length_text, List.length_map]

theorem map_toNat_lt {bytes : List UInt8} : ∀ b ∈ bytes.map UInt8.toNat, b < 256 := by
  intro b hb
  obtain ⟨u, -, rfl⟩ := List.mem_map.1 hb
  exact u.toNat_lt

theorem mem_alphabet_of_mem_base64url {bytes : List UInt8} : ∀ c ∈ base64url bytes, c ∈ Base64.alphabet :=
  Base64.forall_text Base64.digit_mem map_toNat_lt

/-- What was encoded is read back. -/
theorem strictBase64url_base64url {bytes : List UInt8} {maxBytes : ℕ} (hne : bytes ≠ [])
    (hle : bytes.length ≤ maxBytes) :
    strictBase64url (base64url bytes) maxBytes = some bytes := by
  have hlength := length_base64url bytes
  have hpos : 0 < bytes.length := List.length_pos_iff.2 hne
  have hvalue : base64url bytes ≠ [] := fun hnil => by
    rw [hnil, List.length_nil] at hlength
    omega
  have hdecode : Base64.decode (base64url bytes ++ ['=', '=', '=']) = some (bytes.map UInt8.toNat) :=
    Base64.decode_text 0 map_toNat_lt
  have hback : (bytes.map UInt8.toNat).map UInt8.ofNat = bytes := by
    rw [List.map_map]
    refine (List.map_congr_left fun u _ => ?_).trans (List.map_id bytes)
    exact UInt8.ofNat_toNat
  rw [strictBase64url, if_neg, hdecode, Option.bind_some, hback]
  · dsimp only
    rw [if_neg]
    rintro (h | h | h)
    · exact hne h
    · omega
    · exact h rfl
  · rintro (h | h | h)
    · exact hvalue h
    · exact h (List.all_eq_true.2 fun c hc => by simpa using mem_alphabet_of_mem_base64url c hc)
    · omega

/-! ## Sealing -/

section
variable {C : Crypto} {cookieKey iv encrypted tag : List UInt8} {text : JsString} {purpose : String}

/-- The parts of a sealed text. -/
def sealedParts (iv encrypted tag : List UInt8) : List (List Char) :=
  ["v1".toList, base64url iv, base64url encrypted, base64url tag]

variable (encrypted) in
theorem length_sealedParts (hiv : iv.length = 12) (htag : tag.length = 16) :
    (['.'].intercalate (sealedParts iv encrypted tag)).length = 43 + (4 * encrypted.length + 2) / 3 := by
  simp only [sealedParts, List.intercalate_cons_cons, List.intercalate_singleton, List.length_append,
    length_base64url, hiv, htag]
  show 2 + 1 + _ = _
  simp only [List.length_cons, List.length_nil]
  omega

theorem splitOn_sealedParts :
    (['.'].intercalate (sealedParts iv encrypted tag)).splitOn '.' = sealedParts iv encrypted tag := by
  refine List.splitOn_intercalate '.' (fun part hpart => ?_) (List.cons_ne_nil _ _)
  have hdot : ∀ bytes, '.' ∉ base64url bytes := fun bytes h =>
    absurd (mem_alphabet_of_mem_base64url '.' h) (by decide +kernel)
  simp only [sealedParts, List.mem_cons, List.not_mem_nil, or_false] at hpart
  rcases hpart with rfl | rfl | rfl | rfl
  · decide
  · exact hdot _
  · exact hdot _
  · exact hdot _

/-- AES-GCM: the ciphertext is as long as the plaintext, the tag has 16 bytes, and decryption undoes encryption. -/
structure Crypto.Lawful (C : Crypto) : Prop where
  length : ∀ key iv aad plaintext, (C.encrypt key iv aad plaintext).1.length = plaintext.length
  tag : ∀ key iv aad plaintext, (C.encrypt key iv aad plaintext).2.length = 16
  decrypt : ∀ key iv aad plaintext, C.decrypt key iv aad (C.encrypt key iv aad plaintext).2
    (C.encrypt key iv aad plaintext).1 = some plaintext

/-- What is sealed, if it is not too long. -/
theorem sealJson_eq (hC : C.Lawful) (hiv : iv.length = 12) : sealJson C cookieKey iv text purpose =
    if (utf8 text).length ≤ 2_817 then
      some (['.'].intercalate (sealedParts iv (C.encrypt cookieKey iv (aad purpose) (utf8 text)).1
        (C.encrypt cookieKey iv (aad purpose) (utf8 text)).2))
    else none := by
  have hlength := length_sealedParts (C.encrypt cookieKey iv (aad purpose) (utf8 text)).1 hiv
    (hC.tag cookieKey iv (aad purpose) (utf8 text))
  rw [hC.length] at hlength
  rw [sealJson]
  dsimp only
  rw [← sealedParts, hlength]
  split
  · rw [if_neg (by omega)]
  · rw [if_pos (by omega)]

/-- **What was sealed is opened again.** -/
theorem openJson_sealed (hC : C.Lawful) (hiv : iv.length = 12) (hne : utf8 text ≠ []) {sealed : List Char}
    (h : sealJson C cookieKey iv text purpose = some sealed) :
    openJson C cookieKey sealed purpose = C.parse (utf8 text) := by
  rw [sealJson_eq hC hiv] at h
  split at h
  · rename_i hshort
    cases h
    have hlength := length_sealedParts (C.encrypt cookieKey iv (aad purpose) (utf8 text)).1 hiv
      (hC.tag cookieKey iv (aad purpose) (utf8 text))
    have hencrypted := hC.length cookieKey iv (aad purpose) (utf8 text)
    have htag := hC.tag cookieKey iv (aad purpose) (utf8 text)
    have hdecrypt := hC.decrypt cookieKey iv (aad purpose) (utf8 text)
    generalize (C.encrypt cookieKey iv (aad purpose) (utf8 text)).1 = encrypted at *
    generalize (C.encrypt cookieKey iv (aad purpose) (utf8 text)).2 = tag at *
    have hencryptedne : encrypted ≠ [] := fun hnil => by
      rw [hnil, List.length_nil] at hencrypted
      exact hne (List.length_eq_zero_iff.1 hencrypted.symm)
    have hivne : iv ≠ [] := fun hnil => by rw [hnil] at hiv; cases hiv
    have htagne : tag ≠ [] := fun hnil => by rw [hnil] at htag; cases htag
    rw [openJson, if_neg, splitOn_sealedParts, sealedParts]
    · dsimp only
      rw [if_neg (not_not.2 rfl), strictBase64url_base64url hivne hiv.le,
        strictBase64url_base64url hencryptedne (by omega), strictBase64url_base64url htagne htag.le]
      simp only [Option.bind_eq_bind, Option.bind_some]
      rw [if_neg (by omega), hdecrypt, Option.bind_some, if_neg (by omega)]
    · rintro (hnil | hlong)
      · rw [hnil, List.length_nil] at hlength
        omega
      · omega
  · cases h

end

/-! ## Refresh tokens -/

/-- The digits of a time. -/
def digits (createdAt : ℕ) : ℕ := (toString createdAt).length

theorem units_small {s : String} (h : ∀ c ∈ s.toList, c.toNat < 0x80) : ∀ u ∈ units s, u.toNat < 0x80 := by
  intro u hu
  obtain ⟨c, hc, rfl⟩ := List.mem_map.1 hu
  have hlt := h c hc
  rw [UInt16.toNat_ofNat', Nat.mod_eq_of_lt (by omega)]
  exact hlt

theorem toString_small (n : ℕ) : ∀ c ∈ (toString n).toList, c.toNat < 0x80 := by
  intro c hc
  rw [show toString n = String.ofList (Nat.toDigits 10 n) from rfl, String.toList_ofList] at hc
  have hdigit := Nat.isDigit_of_mem_toDigits (by decide) (by decide) hc
  rw [Char.isDigit, Bool.and_eq_true, decide_eq_true_eq, decide_eq_true_eq] at hdigit
  have hle : c.toNat ≤ 57 := hdigit.2
  omega

/-- The bytes of a payload: those of the escaped token, the digits of the time, and 44 around them. -/
theorem length_utf8_refreshText (refreshToken : JsString) (createdAt : ℕ) :
    (utf8 (refreshText refreshToken createdAt)).length = escapedBytes refreshToken + digits createdAt + 44 := by
  have hquote : ∀ u ∈ ([0x22] : JsString), u.toNat < 0x80 := List.all_iff_forall_prop.1 (by decide)
  have hfront : ∀ u ∈ units "\x7b\"version\":1,\"refreshToken\":", u.toNat < 0x80 :=
    List.all_iff_forall_prop.1 (by decide +kernel)
  have hback : ∀ u ∈ units (",\"createdAt\":" ++ toString createdAt ++ "\x7d"), u.toNat < 0x80 := by
    refine units_small fun c hc => ?_
    rw [String.toList_append, String.toList_append, List.mem_append, List.mem_append] at hc
    rcases hc with (hc | hc) | hc
    · exact (List.all_iff_forall_prop.1 (by decide +kernel) : ∀ c ∈ (",\"createdAt\":" : String).toList,
        c.toNat < 0x80) c hc
    · exact toString_small createdAt c hc
    · exact (List.all_iff_forall_prop.1 (by decide +kernel) : ∀ c ∈ ("\x7d" : String).toList, c.toNat < 0x80) c hc
  have hfrontLength : (units "\x7b\"version\":1,\"refreshToken\":").length = 28 := by decide +kernel
  have hbackLength : (units (",\"createdAt\":" ++ toString createdAt ++ "\x7d")).length = 14 + digits createdAt := by
    rw [length_units, String.length_append, String.length_append, digits]
    have hname : (",\"createdAt\":" : String).length = 13 := by decide +kernel
    have hbrace : ("\x7d" : String).length = 1 := by decide +kernel
    omega
  rw [refreshText, quote, ← List.singleton_append, List.append_assoc, List.append_assoc, length_utf8_append hfront,
    length_utf8_append hquote, length_utf8_escape, length_utf8_append hquote, ← List.append_nil (units (_ ++ _)),
    length_utf8_append hback, hfrontLength, hbackLength]
  simp only [List.length_cons, List.length_nil, utf8]
  omega

/-- A token that was accepted. -/
theorem validateTokenString_eq_some {value : Option JsValue} {maxBytes : ℕ} {token : JsString}
    (h : validateTokenString value maxBytes = some token) : token ≠ [] ∧ (utf8 token).length ≤ maxBytes := by
  unfold validateTokenString at h
  split at h
  · split at h
    · cases h
    · rename_i hok
      cases h
      rw [not_or, not_lt] at hok
      exact hok
  · cases h

theorem validateTokenString_of_accepted {maxBytes : ℕ} {token : JsString} (hne : token ≠ [])
    (hle : (utf8 token).length ≤ maxBytes) : validateTokenString (some (.string token)) maxBytes = some token :=
  if_neg (not_or.2 ⟨hne, not_lt.2 hle⟩)

theorem tokenRequest_refreshToken {T : Tokens} {response : JsValue} {now : ℤ}
    {expectedNonce priorRefreshToken : Option JsString} {tokens : SessionTokens}
    (h : tokenRequest T response now expectedNonce priorRefreshToken = some tokens) :
    tokens.refreshToken ≠ [] ∧ (utf8 tokens.refreshToken).length ≤ refreshTokenMaxBytes := by
  unfold tokenRequest at h
  split at h
  · split at h
    · cases h
    · simp only [Option.bind_eq_bind, Option.bind_eq_some_iff] at h
      obtain ⟨accessToken, -, refreshToken, hrefresh, h⟩ := h
      split at h
      · cases h
      · simp only [Option.bind_eq_some_iff] at h
        obtain ⟨expiresAt, -, h⟩ := h
        split at h
        · cases h
        · simp only [Option.bind_eq_some_iff] at h
          obtain ⟨lifetime, -, h⟩ := h
          split at h
          · cases h
          · cases h
            exact validateTokenString_eq_some hrefresh
  · cases h

/-! ### The payload -/

section
variable {refreshToken : JsString} {createdAt : Millis}

theorem get?_version : (refreshPayload refreshToken createdAt).get? "version" = some (.number 1) := by
  simp [refreshPayload, JsValue.get?]

theorem get?_refreshToken : (refreshPayload refreshToken createdAt).get? "refreshToken" =
    some (.string refreshToken) := by
  have hversion : (units "refreshToken" == units "version") = false := by decide +kernel
  simp [refreshPayload, JsValue.get?, List.lookup_cons, hversion]

theorem get?_createdAt : (refreshPayload refreshToken createdAt).get? "createdAt" = some (.number createdAt.val) := by
  have hversion : (units "createdAt" == units "version") = false := by decide +kernel
  have htoken : (units "createdAt" == units "refreshToken") = false := by decide +kernel
  simp [refreshPayload, JsValue.get?, List.lookup_cons, hversion, htoken]

theorem safeInteger_createdAt : safeInteger (some (.number createdAt.val)) = some (createdAt.val : ℤ) := by
  have hle : (createdAt.val : ℚ) ≤ 8_640_000_000_000_000 := by exact_mod_cast createdAt.2
  have hnonneg : (0 : ℚ) ≤ createdAt.val := Nat.cast_nonneg _
  rw [safeInteger, if_pos]
  · rw [Rat.num_natCast]
  · exact ⟨Rat.den_natCast _, by linarith, by linarith⟩

/-! ### Setting and reading -/

variable {C : Crypto} {cookieKey iv : List UInt8} {tokens : SessionTokens} {now : ℤ}

/-- The cookies are set if the payload is not too long. -/
theorem setSessionCookies_isSome_iff (hC : C.Lawful) (hiv : iv.length = 12) :
    (setSessionCookies C cookieKey iv now createdAt tokens).isSome ↔
      escapedBytes tokens.refreshToken + digits createdAt ≤ 2_773 := by
  rw [setSessionCookies, Option.isSome_map, sealJson_eq hC hiv, length_utf8_refreshText]
  split
  · simp only [Option.isSome_some, true_iff]
    omega
  · simp only [Option.isSome_none, Bool.false_eq_true, false_iff]
    omega

theorem setSessionCookies_eq_none (hC : C.Lawful) (hiv : iv.length = 12)
    (hlong : 2_773 < escapedBytes tokens.refreshToken + digits createdAt) :
    setSessionCookies C cookieKey iv now createdAt tokens = none := by
  rw [← Option.not_isSome_iff_eq_none, setSessionCookies_isSome_iff hC hiv]
  omega

/-- What is read while the cookie lives. -/
theorem readRefreshToken_of_set (hC : C.Lawful) (hiv : iv.length = 12) (hne : tokens.refreshToken ≠ [])
    (hle : (utf8 tokens.refreshToken).length ≤ refreshTokenMaxBytes)
    (hparse : C.parse (utf8 (refreshText tokens.refreshToken createdAt)) =
      some (refreshPayload tokens.refreshToken createdAt))
    {cookies : SessionCookies} (hset : setSessionCookies C cookieKey iv now createdAt tokens = some cookies)
    {read read' : Millis} (hread : createdAt.val ≤ read.val + 5_000)
    (hread' : read'.val ≤ createdAt.val + refreshCookieMaxSeconds * 1_000) :
    readRefreshToken C cookieKey cookies.refreshToken.value read read' = some tokens.refreshToken := by
  obtain ⟨sealed, hsealed, rfl⟩ := Option.map_eq_some_iff.1 hset
  have htext : utf8 (refreshText tokens.refreshToken createdAt) ≠ [] := fun hnil => by
    have hlength := length_utf8_refreshText tokens.refreshToken createdAt
    rw [hnil, List.length_nil] at hlength
    omega
  rw [readRefreshToken, openJson_sealed hC hiv htext hsealed, hparse]
  simp only [Option.bind_eq_bind, Option.bind_some, get?_version, get?_refreshToken, get?_createdAt,
    safeInteger_createdAt]
  rw [if_neg, validateTokenString_of_accepted hne hle]
  rw [not_or, not_or]
  refine ⟨not_not.2 rfl, ?_, ?_⟩
  · omega
  · unfold refreshCookieMaxSeconds at hread' ⊢
    omega

/-- **A refresh token that was accepted survives its cookie if and only if its escaped bytes and the digits of the time
    are at most 2773.** -/
theorem refresh_token_survives_iff {T : Tokens} {response : JsValue} {requested : ℤ}
    {expectedNonce priorRefreshToken : Option JsString} (hC : C.Lawful) (hiv : iv.length = 12)
    (htokens : tokenRequest T response requested expectedNonce priorRefreshToken = some tokens)
    (hparse : C.parse (utf8 (refreshText tokens.refreshToken createdAt)) =
      some (refreshPayload tokens.refreshToken createdAt)) :
    (∃ cookies, setSessionCookies C cookieKey iv now createdAt tokens = some cookies ∧
      ∀ read read' : Millis, createdAt.val ≤ read.val + 5_000 →
        read'.val ≤ createdAt.val + refreshCookieMaxSeconds * 1_000 →
          readRefreshToken C cookieKey cookies.refreshToken.value read read' = some tokens.refreshToken) ↔
      escapedBytes tokens.refreshToken + digits createdAt ≤ 2_773 := by
  obtain ⟨hne, hle⟩ := tokenRequest_refreshToken htokens
  have hisSome : (setSessionCookies C cookieKey iv now createdAt tokens).isSome ↔ _ :=
    setSessionCookies_isSome_iff hC hiv
  rw [← hisSome, Option.isSome_iff_exists]
  constructor
  · rintro ⟨cookies, hset, -⟩
    exact ⟨cookies, hset⟩
  · rintro ⟨cookies, hset⟩
    exact ⟨cookies, hset, fun read read' hread hread' =>
      readRefreshToken_of_set hC hiv hne hle hparse hset hread hread'⟩

end

/-! ## Runs -/

/-- A cipher that changes nothing, for one payload. -/
def plainCrypto (refreshToken : JsString) (createdAt : ℕ) : Crypto where
  encrypt _ _ _ plaintext := (plaintext, List.replicate 16 0)
  decrypt _ _ _ _ encrypted := some encrypted
  parse bytes := if bytes = utf8 (refreshText refreshToken createdAt) then some (refreshPayload refreshToken createdAt)
    else none

theorem plainCrypto_lawful (refreshToken : JsString) (createdAt : ℕ) : (plainCrypto refreshToken createdAt).Lawful :=
  ⟨fun _ _ _ _ => rfl, fun _ _ _ _ => List.length_replicate, fun _ _ _ _ => rfl⟩

/-- A response to a refresh. -/
def response (refreshToken : JsString) : JsValue :=
  .object [(units "token_type", .string (units "Bearer")),
    (units "access_token", .string (units "header.payload.signature")), (units "refresh_token", .string refreshToken)]

/-- Access tokens of an hour. -/
def hourTokens : Tokens where
  inspectAccessJwt _ := some 1_785_003_600
  verifyIdToken _ _ _ := true

def sessionOf (refreshToken : JsString) : SessionTokens :=
  ⟨units "header.payload.signature", refreshToken, 1_785_003_600⟩

theorem tokenRequest_response {refreshToken : JsString} (hne : refreshToken ≠ [])
    (hle : (utf8 refreshToken).length ≤ refreshTokenMaxBytes) :
    tokenRequest hourTokens (response refreshToken) 1_785_000_000 none none = some (sessionOf refreshToken) := by
  have hget : (response refreshToken).get? "refresh_token" = some (.string refreshToken) := by
    have htype : (units "refresh_token" == units "token_type") = false := by decide +kernel
    have haccess : (units "refresh_token" == units "access_token") = false := by decide +kernel
    simp [response, JsValue.get?, List.lookup_cons, htype, haccess]
  have haccess : validateTokenString ((response refreshToken).get? "access_token") accessTokenMaxBytes =
      some (units "header.payload.signature") := by
    have htype : (units "access_token" == units "token_type") = false := by decide +kernel
    have hget : (response refreshToken).get? "access_token" = some (.string (units "header.payload.signature")) := by
      simp [response, JsValue.get?, List.lookup_cons, htype]
    rw [hget]
    exact validateTokenString_of_accepted (by decide +kernel) (by decide +kernel)
  have hid : (response refreshToken).get? "id_token" = none := by
    have htype : (units "id_token" == units "token_type") = false := by decide +kernel
    have haccess : (units "id_token" == units "access_token") = false := by decide +kernel
    have hrefresh : (units "id_token" == units "refresh_token") = false := by decide +kernel
    simp [response, JsValue.get?, List.lookup_cons, htype, haccess, hrefresh]
  have hexpires : (response refreshToken).get? "expires_in" = none := by
    have htype : (units "expires_in" == units "token_type") = false := by decide +kernel
    have haccess : (units "expires_in" == units "access_token") = false := by decide +kernel
    have hrefresh : (units "expires_in" == units "refresh_token") = false := by decide +kernel
    simp [response, JsValue.get?, List.lookup_cons, htype, haccess, hrefresh]
  have htype : (response refreshToken).get? "token_type" = some (.string (units "Bearer")) := by
    simp [response, JsValue.get?]
  have hlower : toLowerCase (units "Bearer") = units "bearer" := by decide +kernel
  simp only [tokenRequest, htype, hlower, haccess, hget, validateTokenString_of_accepted hne hle, idTokenOk, hid,
    expiresIn, hexpires, hourTokens]
  rfl

/-- A short token, read an hour later. -/
theorem refresh_token_survives_short :
    ∃ cookies, setSessionCookies (plainCrypto (units "r1") 1_785_000_000_000) [] (List.replicate 12 0) 1_785_000_000
        ⟨1_785_000_000_000, by decide⟩ (sessionOf (units "r1")) = some cookies ∧
      readRefreshToken (plainCrypto (units "r1") 1_785_000_000_000) [] cookies.refreshToken.value
        ⟨1_785_003_600_000, by decide⟩ ⟨1_785_003_600_000, by decide⟩ = some (units "r1") := by
  have htokens : tokenRequest hourTokens (response (units "r1")) 1_785_000_000 none none =
    some (sessionOf (units "r1")) :=
    tokenRequest_response (by decide +kernel) (by decide +kernel)
  have hsurvives := @refresh_token_survives_iff ⟨1_785_000_000_000, by decide⟩
    (plainCrypto (units "r1") 1_785_000_000_000)
    [] (List.replicate 12 0) (sessionOf (units "r1")) 1_785_000_000 _ _ _ _ _ (plainCrypto_lawful _ _)
    List.length_replicate htokens (if_pos rfl)
  obtain ⟨cookies, hset, hread⟩ := hsurvives.2 (by decide +kernel)
  exact ⟨cookies, hset, hread _ _ (by decide) (by decide)⟩

/-- A token of 3000 letters, which is as long as a token may be: no cookie is set. -/
theorem long_token_not_sealed :
    tokenRequest hourTokens (response (List.replicate 3_000 0x61)) 1_785_000_000 none none =
        some (sessionOf (List.replicate 3_000 0x61)) ∧
      setSessionCookies (plainCrypto (List.replicate 3_000 0x61) 1_785_000_000_000) []
      (List.replicate 12 0) 1_785_000_000
        ⟨1_785_000_000_000, by decide⟩ (sessionOf (List.replicate 3_000 0x61)) = none := by
  have hbytes : (utf8 (List.replicate 3_000 0x61)).length = 3_000 := by
    rw [← List.append_nil (List.replicate 3_000 0x61), length_utf8_append, List.length_replicate]
    · rfl
    · intro u hu
      rw [List.eq_of_mem_replicate hu]
      decide
  have hescaped : escapedBytes (List.replicate 3_000 0x61) = 3_000 := escapedBytes_replicate rfl _
  refine ⟨tokenRequest_response (fun hnil => ?_) hbytes.le, ?_⟩
  · exact absurd ((List.replicate_eq_nil_iff _).1 hnil) (by decide)
  · refine setSessionCookies_eq_none (plainCrypto_lawful _ _) List.length_replicate ?_
    rw [sessionOf, hescaped]
    omega

end RoutePilot.Web.Oidc
