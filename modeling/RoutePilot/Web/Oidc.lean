/-
  Sessions of the web server (`oidc.ts`): the tokens that are accepted, the cookies that
  keep them, and the refresh token that is read back.

  AES-256-GCM, `JSON.parse` of bytes, and what is found of an access or identity token are
  left open.  A cookie is a sequence of characters, a time a number of milliseconds.
-/
import RoutePilot.Lib.Base64
import RoutePilot.Web.JsText

namespace RoutePilot.Web.Oidc

open Lib

/-- A time that `Date.now()` returns, up to the last one that there is. -/
abbrev Millis := { n : ℕ // n ≤ 8_640_000_000_000_000 }

/-! ## Sealed values -/

/-- What the server takes from `node:crypto` and `JSON.parse`. -/
structure Crypto where
  /-- the ciphertext and the tag -/
  encrypt : (key iv aad plaintext : List UInt8) → List UInt8 × List UInt8
  /-- `none` if the tag is not that of the rest -/
  decrypt : (key iv aad tag encrypted : List UInt8) → Option (List UInt8)
  /-- `JSON.parse(bytes.toString("utf8"))`; `none` if it throws -/
  parse : List UInt8 → Option JsValue

/-- `bytes.toString("base64url")` -/
def base64url (bytes : List UInt8) : List Char := Base64.text (bytes.map UInt8.toNat)

/-- `strictBase64url`. -/
def strictBase64url (value : List Char) (maxBytes : ℕ) : Option (List UInt8) :=
  if value = [] ∨ ¬ value.all (· ∈ Base64.alphabet) ∨ (maxBytes * 4 + 2) / 3 + 4 < value.length then none
  else
    (Base64.decode (value ++ ['=', '=', '='])).bind fun decoded =>
      let decoded := decoded.map UInt8.ofNat
      if decoded = [] ∨ maxBytes < decoded.length ∨ base64url decoded ≠ value then none else some decoded

/-- `routepilot:${purpose}:v1` -/
def aad (purpose : String) : List UInt8 := utf8 (units ("routepilot:" ++ purpose ++ ":v1"))

section
variable (C : Crypto) (cookieKey : List UInt8)

/-- `sealJson`, of the text of a value; `iv` is what `randomBytes` returns. -/
def sealJson (iv : List UInt8) (text : JsString) (purpose : String) : Option (List Char) :=
  let (encrypted, tag) := C.encrypt cookieKey iv (aad purpose) (utf8 text)
  let sealed := ['.'].intercalate ["v1".toList, base64url iv, base64url encrypted, base64url tag]
  if 3_800 < sealed.length then none else some sealed

/-- `openJson`. -/
def openJson (sealed : List Char) (purpose : String) : Option JsValue :=
  if sealed = [] ∨ 3_800 < sealed.length then none
  else
    match sealed.splitOn '.' with
    | [version, first, second, third] =>
      if version ≠ "v1".toList then none
      else do
        let iv ← strictBase64url first 12
        let encrypted ← strictBase64url second 3_500
        let tag ← strictBase64url third 16
        if iv.length ≠ 12 ∨ tag.length ≠ 16 then none
        else
          let plaintext ← C.decrypt cookieKey iv (aad purpose) tag encrypted
          if 3_200 < plaintext.length then none else C.parse plaintext
    | _ => none

end

/-! ## Tokens -/

def accessTokenMaxBytes : ℕ := 3_400
def refreshTokenMaxBytes : ℕ := 3_000
def idTokenMaxBytes : ℕ := 16 * 1024

/-- `ACCESS_COOKIE_MAX_SECONDS` -/
def accessCookieMaxSeconds : ℤ := 60 * 60

/-- `REFRESH_COOKIE_MAX_SECONDS` -/
def refreshCookieMaxSeconds : ℕ := 14 * 24 * 60 * 60

/-- `validateTokenString`. -/
def validateTokenString (value : Option JsValue) (maxBytes : ℕ) : Option JsString :=
  match value with
  | some (.string token) => if token = [] ∨ maxBytes < (utf8 token).length then none else some token
  | _ => none

/-- `equalText`. -/
def equalText (left right : JsString) : Bool := utf8 left = utf8 right

/-- `s.toLowerCase()`, on ASCII letters. -/
def toLowerCase (s : JsString) : JsString := s.map fun u => if 0x41 ≤ u ∧ u ≤ 0x5A then u + 0x20 else u

structure SessionTokens where
  accessToken : JsString
  refreshToken : JsString
  /-- in seconds -/
  accessExpiresAt : ℤ

/-- What is found of other tokens. -/
structure Tokens where
  /-- the expiry of an access token, in seconds; `none` if `inspectAccessJwt` throws -/
  inspectAccessJwt : JsString → Option ℤ
  /-- `verifyIdToken` does not throw -/
  verifyIdToken : (idToken accessToken : JsString) → (expectedNonce : Option JsString) → Bool

/-- The lifetime that a response gives, in seconds: `none` if it is not usable, `some none` if there is none. -/
def expiresIn (response : JsValue) : Option (Option ℤ) :=
  match response.get? "expires_in" with
  | none => some none
  | some (.number q) => if q.den = 1 ∧ 1 ≤ q ∧ q ≤ 24 * 60 * 60 then some (some q.num) else none
  | some _ => none

/-- The identity token of a response is one that may be used, or there is none and none is needed. -/
def idTokenOk (T : Tokens) (response : JsValue) (accessToken : JsString) (expectedNonce : Option JsString) : Bool :=
  match response.get? "id_token" with
  | none => expectedNonce.isNone
  | some idToken => (validateTokenString (some idToken) idTokenMaxBytes).any fun idToken =>
      T.verifyIdToken idToken accessToken expectedNonce

/-- `tokenRequest`, from the response on; `now` in seconds. -/
def tokenRequest (T : Tokens) (response : JsValue) (now : ℤ) (expectedNonce priorRefreshToken : Option JsString) :
    Option SessionTokens :=
  match response.get? "token_type" with
  | some (.string tokenType) =>
    if toLowerCase tokenType ≠ units "bearer" then none
    else do
      let accessToken ← validateTokenString (response.get? "access_token") accessTokenMaxBytes
      let refreshToken ← validateTokenString (response.get? "refresh_token") refreshTokenMaxBytes
      if priorRefreshToken.any fun prior => equalText prior refreshToken then none
      else
        let expiresAt ← T.inspectAccessJwt accessToken
        if ¬ idTokenOk T response accessToken expectedNonce then none
        else
          let lifetime ← expiresIn response
          let accessExpiresAt := (lifetime.map fun seconds => min expiresAt (now + seconds)).getD expiresAt
          if accessExpiresAt ≤ now + 5 then none else some { accessToken, refreshToken, accessExpiresAt }
  | _ => none

/-! ## Cookies -/

/-- A cookie and its age in seconds. -/
structure Cookie where
  value : List Char
  maxAge : ℤ

structure SessionCookies where
  accessToken : JsString × ℤ
  refreshToken : Cookie

/-- `JSON.stringify` of a `RefreshCookiePayload`. -/
def refreshText (refreshToken : JsString) (createdAt : ℕ) : JsString :=
  units "\x7b\"version\":1,\"refreshToken\":" ++ (quote refreshToken ++
    (units (",\"createdAt\":" ++ toString createdAt ++ "\x7d")))

/-- The payload of a refresh cookie. -/
def refreshPayload (refreshToken : JsString) (createdAt : ℕ) : JsValue :=
  .object [(units "version", .number 1), (units "refreshToken", .string refreshToken),
    (units "createdAt", .number createdAt)]

/-- `sessionCookieMaxAge`. -/
def sessionCookieMaxAge (tokens : SessionTokens) (now : ℤ) : ℤ :=
  max 1 (min (tokens.accessExpiresAt - now) accessCookieMaxSeconds)

section
variable (C : Crypto) (cookieKey : List UInt8)

/-- `setSessionCookies`; `now` in seconds. -/
def setSessionCookies (iv : List UInt8) (now : ℤ) (createdAt : Millis) (tokens : SessionTokens) :
    Option SessionCookies :=
  (sealJson C cookieKey iv (refreshText tokens.refreshToken createdAt) "refresh").map fun sealed =>
    { accessToken := (tokens.accessToken, sessionCookieMaxAge tokens now)
      refreshToken := { value := sealed, maxAge := refreshCookieMaxSeconds } }

/-- `Number.isSafeInteger(value)`, with the integer. -/
def safeInteger (value : Option JsValue) : Option ℤ :=
  match value with
  | some (.number q) => if q.den = 1 ∧ -(2 ^ 53 - 1) ≤ q ∧ q ≤ 2 ^ 53 - 1 then some q.num else none
  | _ => none

/-- `readRefreshToken`, with the two times that it reads. -/
def readRefreshToken (sealed : List Char) (now now' : Millis) : Option JsString := do
  let payload ← openJson C cookieKey sealed "refresh"
  match payload.get? "version", safeInteger (payload.get? "createdAt") with
  | some (.number version), some createdAt =>
    if version ≠ 1 ∨ now.val + 5_000 < createdAt ∨ refreshCookieMaxSeconds * 1_000 < now'.val - createdAt then none
    else validateTokenString (payload.get? "refreshToken") refreshTokenMaxBytes
  | _, _ => none

end

end RoutePilot.Web.Oidc
