import Iperf.Library.ScanFormat
import Iperf.Model.Net
import Mathlib.Data.Nat.Digits.Lemmas

/-! The authentication token: `encode_auth_setting` prints the credentials with a format and
encrypts them, `decode_auth_setting` decrypts them and scans them with the same format.
-/

namespace Iperf

open ScanFormat

/-- `auth_text_format`. -/
def authTextFormat : List Token :=
  literal (bytesOf "user: ") ++ .word :: (literal (bytesOf "\npwd:  ")
    ++ .word :: (literal (bytesOf "\nts:   ") ++ [.number]))

/-- `strlen(auth_text_format)`, with `%s` twice and `%lld`. -/
def authTextFormatLength : Nat := 28

/-- RSA with a pair of keys and one choice of the padding, and base64. -/
structure AuthCrypto where
  keySize : Nat
  encrypt : List UInt8 → List UInt8
  decrypt : List UInt8 → List UInt8
  base64Encode : List UInt8 → List UInt8
  base64Decode : List UInt8 → List UInt8

namespace AuthCrypto

variable (crypto : AuthCrypto)

/-- `encrypt_rsa_message`: up to twice the key size of the string is read into a buffer. -/
def encryptRsaMessage (plaintext : List UInt8) : List UInt8 :=
  crypto.encrypt ((cString plaintext).take (crypto.keySize * 2))

/-- `decrypt_rsa_message`. -/
def decryptRsaMessage (encryptedtext : List UInt8) : List UInt8 :=
  crypto.decrypt (encryptedtext.take (crypto.keySize * 2))

/-- Decryption inverts encryption and base64 decoding inverts encoding, for a text that fits the
key.
-/
structure Inverts (text : List UInt8) : Prop where
  fits : text.length ≤ crypto.keySize
  encryptedLength : (crypto.encrypt text).length = crypto.keySize
  decrypts : crypto.decrypt (crypto.encrypt text) = text
  decodes : crypto.base64Decode (crypto.base64Encode (crypto.encrypt text)) = crypto.encrypt text

end AuthCrypto

/-- What `snprintf` leaves in the text that is encrypted, in a buffer of the estimated size. -/
def authText (username password : List UInt8) (utcSeconds : Int64) : List UInt8 :=
  let textLen := authTextFormatLength + username.length + password.length + 32
  (print authTextFormat [.text username, .text password, .number utcSeconds.toInt]).take
    (textLen - 1)

/-- `encode_auth_setting` at a time. -/
def encodeAuthSetting (crypto : AuthCrypto) (username password : List UInt8) (utcSeconds : Int64)
    : List UInt8 :=
  crypto.base64Encode (crypto.encryptRsaMessage (authText username password utcSeconds))

/-- `decode_auth_setting`: user name, password and time; `none` when it returns `-1`. -/
def decodeAuthSetting (crypto : AuthCrypto) (authtoken : List UInt8)
    : Option (List UInt8 × List UInt8 × Int64) :=
  let plaintext := crypto.decryptRsaMessage (crypto.base64Decode authtoken)
  if plaintext = [] then none
  else
    match scan authTextFormat (cString plaintext) with
    | [.text username, .text password, .number utcSeconds] =>
        some (username, password, Int64.ofIntClamp utcSeconds)
    | _ => none

theorem decimal_length (n : Int64) : (decimal n.toInt).length ≤ 20 := by
  have low := n.le_toInt
  have high := n.toInt_lt
  have places : (digits n.toInt.natAbs).length ≤ 19 := by
    unfold digits
    split_ifs
    · simp
    · rw [List.length_map, List.length_reverse, Nat.digits_length_le_iff (by norm_num)]
      omega
  unfold decimal
  split_ifs
  · rw [List.length_cons]
    omega
  · omega

theorem zero_notMem_decimal (n : Int) : (0 : UInt8) ∉ decimal n := by
  have digitsOnly : (0 : UInt8) ∉ digits n.natAbs := by
    intro member
    have digit := isDigit_of_mem member
    cases digit
  unfold decimal
  split_ifs
  · simp [digitsOnly]
  · exact digitsOnly

theorem print_authTextFormat (username password : List UInt8) (ts : Int)
    : print authTextFormat [.text username, .text password, .number ts]
      = bytesOf "user: " ++ (username ++ (bytesOf "\npwd:  " ++ (password
        ++ (bytesOf "\nts:   " ++ decimal ts)))) := by
  simp only [authTextFormat, print_literal, print, List.append_nil]

/-- The estimate is large enough. -/
theorem authText_eq (username password : List UInt8) (ts : Int64)
    : authText username password ts
      = print authTextFormat [.text username, .text password, .number ts.toInt] := by
  have places := decimal_length ts
  have user : (bytesOf "user: ").length = 6 := rfl
  have pwd : (bytesOf "\npwd:  ").length = 7 := rfl
  have time : (bytesOf "\nts:   ").length = 7 := rfl
  refine List.take_of_length_le ?_
  rw [print_authTextFormat]
  simp only [List.length_append, user, pwd, time, authTextFormatLength]
  omega

/-- Credentials without NUL make a C string. -/
theorem cString_authText {username password : List UInt8} (ts : Int64)
    (usernameString : 0 ∉ username) (passwordString : 0 ∉ password)
    : cString (authText username password ts) = authText username password ts := by
  have user : (0 : UInt8) ∉ bytesOf "user: " := by decide
  have pwd : (0 : UInt8) ∉ bytesOf "\npwd:  " := by decide
  have time : (0 : UInt8) ∉ bytesOf "\nts:   " := by decide
  have string : (0 : UInt8) ∉ authText username password ts := by
    rw [authText_eq, print_authTextFormat]
    simp only [List.mem_append, not_or]
    exact ⟨user, usernameString, pwd, passwordString, time, zero_notMem_decimal _⟩
  refine List.takeWhile_eq_self_iff.mpr fun c member => ?_
  simp only [ne_eq, decide_eq_true_eq]
  rintro rfl
  exact string member

/-- The decoder scans what was printed. -/
theorem decodeAuthSetting_encode {crypto : AuthCrypto} {username password : List UInt8} {ts : Int64}
    (usernameString : 0 ∉ username) (passwordString : 0 ∉ password)
    (inverts : crypto.Inverts (authText username password ts))
    : decodeAuthSetting crypto (encodeAuthSetting crypto username password ts)
      = match scan authTextFormat (authText username password ts) with
        | [.text username, .text password, .number utcSeconds] =>
            some (username, password, Int64.ofIntClamp utcSeconds)
        | _ => none := by
  have string := cString_authText ts usernameString passwordString
  have nonempty : authText username password ts ≠ [] := by
    rw [authText_eq, print_authTextFormat]
    simp [bytesOf]
  have encrypted : crypto.encryptRsaMessage (authText username password ts)
      = crypto.encrypt (authText username password ts) := by
    rw [AuthCrypto.encryptRsaMessage, string, List.take_of_length_le]
    have fits := inverts.fits
    omega
  have decrypted : crypto.decryptRsaMessage (crypto.encrypt (authText username password ts))
      = authText username password ts := by
    rw [AuthCrypto.decryptRsaMessage, List.take_of_length_le, inverts.decrypts]
    rw [inverts.encryptedLength]
    omega
  simp only [decodeAuthSetting, encodeAuthSetting, encrypted, inverts.decodes, decrypted,
    if_neg nonempty, string]

/-- The format with two words is separated. -/
theorem separated_authTextFormat {username password : List UInt8} (usernameWord : IsWord username)
    (passwordWord : IsWord password) (ts : Int)
    : Separated authTextFormat [.text username, .text password, .number ts] := by
  refine .literal _ (.word usernameWord rfl ?_)
  refine .literal (bytesOf "\npwd:  ") (.word passwordWord rfl ?_)
  exact .literal (bytesOf "\nts:   ") (.lastNumber ts)

/-- A token gives back its credentials exactly when neither contains white space: `%s` prints all
of them and reads words.
-/
theorem decodeAuthSetting_encode_iff {crypto : AuthCrypto} {username password : List UInt8}
    {ts : Int64} (usernamePresent : username ≠ []) (usernameString : 0 ∉ username)
    (passwordPresent : password ≠ []) (passwordString : 0 ∉ password)
    (inverts : crypto.Inverts (authText username password ts))
    : decodeAuthSetting crypto (encodeAuthSetting crypto username password ts)
        = some (username, password, ts)
      ↔ (∀ c ∈ username, isSpace c = false) ∧ ∀ c ∈ password, isSpace c = false := by
  rw [decodeAuthSetting_encode usernameString passwordString inverts]
  constructor
  · intro same
    split at same
    · next name word seconds scanned =>
        obtain ⟨rfl, rest⟩ := Prod.mk.inj (Option.some.inj same)
        obtain ⟨rfl, -⟩ := Prod.mk.inj rest
        have nameRead : .text name ∈ scan authTextFormat (authText name word ts) := by
          simp [scanned]
        have wordRead : .text word ∈ scan authTextFormat (authText name word ts) := by
          simp [scanned]
        exact ⟨noSpace_of_mem_scan nameRead, noSpace_of_mem_scan wordRead⟩
    · cases same
  · rintro ⟨usernameWord, passwordWord⟩
    have separated := separated_authTextFormat ⟨usernamePresent, usernameWord⟩
      ⟨passwordPresent, passwordWord⟩ ts.toInt
    rw [authText_eq, (scan_print separated).1]
    simp

/-- What a key of 512 bits, with the padding of PKCS #1, makes of the text of the user `ann` with
the password `pw` at time `7`.
-/
def sampleEncrypted : List UInt8 :=
  [154, 226, 152, 70, 214, 192, 215, 195, 31, 52, 43, 163, 3, 253, 174, 240, 18, 251, 77, 2, 239,
    169, 28, 228, 205, 147, 153, 103, 166, 11, 141, 225, 103, 107, 237, 203, 112, 18, 129, 138, 198,
    215, 131, 35, 97, 73, 252, 166, 57, 110, 92, 31, 90, 64, 209, 107, 98, 150, 154, 222, 143, 185,
    131, 228]

def sampleBase64 : List UInt8 :=
  bytesOf ("muKYRtbA18MfNCujA/2u8BL7TQLvqRzkzZOZZ6YLjeFna+3LcBKBisbXgyNhSfymOW5cH1pA0Wtilprej7mD5"
    ++ "A==")

/-- The answers for the text of `ann` with a password; the ciphertext is that of `pw`. -/
def sampleCrypto (password : String) : AuthCrypto where
  keySize := 64
  encrypt _ := sampleEncrypted
  decrypt _ := authText (bytesOf "ann") (bytesOf password) 7
  base64Encode _ := sampleBase64
  base64Decode _ := sampleEncrypted

theorem decodeAuthSetting_encode_sample
    : bytesOf "ann" ≠ [] ∧ 0 ∉ bytesOf "ann" ∧ bytesOf "pw" ≠ [] ∧ 0 ∉ bytesOf "pw"
      ∧ (sampleCrypto "pw").Inverts (authText (bytesOf "ann") (bytesOf "pw") 7)
      ∧ decodeAuthSetting (sampleCrypto "pw")
          (encodeAuthSetting (sampleCrypto "pw") (bytesOf "ann") (bytesOf "pw") 7)
        = some (bytesOf "ann", bytesOf "pw", 7) := by
  have inverts : (sampleCrypto "pw").Inverts (authText (bytesOf "ann") (bytesOf "pw") 7) :=
    ⟨by rw [authText_eq]; decide, rfl, rfl, rfl⟩
  refine ⟨by decide, by decide, by decide, by decide, inverts, ?_⟩
  have ann : bytesOf "ann" = [97, 110, 110] := by decide
  have pw : bytesOf "pw" = [112, 119] := by decide
  have words : (∀ c ∈ bytesOf "ann", isSpace c = false)
      ∧ ∀ c ∈ bytesOf "pw", isSpace c = false := by
    simp [ann, pw, isSpace]
  exact (decodeAuthSetting_encode_iff (by decide) (by decide) (by decide) (by decide) inverts).mpr
    words

/-- A password with a space does not come back. -/
theorem decodeAuthSetting_loses_space
    : bytesOf "ann" ≠ [] ∧ 0 ∉ bytesOf "ann" ∧ bytesOf "a b" ≠ [] ∧ 0 ∉ bytesOf "a b"
      ∧ (sampleCrypto "a b").Inverts (authText (bytesOf "ann") (bytesOf "a b") 7)
      ∧ decodeAuthSetting (sampleCrypto "a b")
          (encodeAuthSetting (sampleCrypto "a b") (bytesOf "ann") (bytesOf "a b") 7)
        = none := by
  have inverts : (sampleCrypto "a b").Inverts (authText (bytesOf "ann") (bytesOf "a b") 7) :=
    ⟨by rw [authText_eq]; decide, rfl, rfl, rfl⟩
  refine ⟨by decide, by decide, by decide, by decide, inverts, ?_⟩
  rw [decodeAuthSetting_encode (by decide) (by decide) inverts, authText_eq]
  rfl

end Iperf
