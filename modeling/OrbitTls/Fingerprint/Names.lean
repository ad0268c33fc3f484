import OrbitTls.Text.Hex
import Mathlib.Data.List.Nodup

/-! # Names and digests of package `fingerprint`

`GetCipherSuiteName` and `GetExtensionName` read a table and otherwise write a
placeholder naming the code; `GenerateJA3Hash` and `GeneratePeetPrintHash` write
a digest in hexadecimal.  The digests are those of `crypto/md5` and
`crypto/sha256`, library functions, so they are parameters of the model. -/

set_option autoImplicit false

namespace OrbitTls.Fingerprint

/-- The library digests the package calls: `md5.Sum` and `sha256.Sum256` of a string's bytes. -/
structure Digests where
  md5 : List Char → List UInt8
  sha256 : List Char → List UInt8

def generateJA3Hash (digests : Digests) (ja3 : List Char) : List Char :=
  hexEncodeToString (digests.md5 ja3)

def generatePeetPrintHash (digests : Digests) (peetPrint : List Char) : List Char :=
  hexEncodeToString (digests.sha256 peetPrint)

/-- The shape of the name lookups: the table's name for `id`, else the placeholder for it. -/
def nameOr (names : List (UInt16 × List Char)) (unknown : UInt16 → List Char) (id : UInt16) :
    List Char :=
  (names.lookup id).getD (unknown id)

def cipherSuiteNames : List (UInt16 × List Char) :=
  [(0x1301, "TLS_AES_128_GCM_SHA256".toList), (0x1302, "TLS_AES_256_GCM_SHA384".toList),
    (0x1303, "TLS_CHACHA20_POLY1305_SHA256".toList), (0x1304, "TLS_AES_128_CCM_SHA256".toList),
    (0x1305, "TLS_AES_128_CCM_8_SHA256".toList), (0x0035, "TLS_RSA_WITH_AES_256_CBC_SHA".toList),
    (0x002f, "TLS_RSA_WITH_AES_128_CBC_SHA".toList),
    (0x000a, "TLS_RSA_WITH_3DES_EDE_CBC_SHA".toList),
    (0xc027, "TLS_ECDHE_RSA_WITH_AES_128_CBC_SHA256".toList),
    (0xc028, "TLS_ECDHE_RSA_WITH_AES_256_CBC_SHA384".toList),
    (0xc013, "TLS_ECDHE_RSA_WITH_AES_128_CBC_SHA".toList),
    (0xc014, "TLS_ECDHE_RSA_WITH_AES_256_CBC_SHA".toList),
    (0xc02f, "TLS_ECDHE_RSA_WITH_AES_128_GCM_SHA256".toList),
    (0xc030, "TLS_ECDHE_RSA_WITH_AES_256_GCM_SHA384".toList),
    (0xcca8, "TLS_ECDHE_RSA_WITH_CHACHA20_POLY1305_SHA256".toList),
    (0xcca9, "TLS_ECDHE_ECDSA_WITH_CHACHA20_POLY1305_SHA256".toList),
    (0xc02b, "TLS_ECDHE_ECDSA_WITH_AES_128_GCM_SHA256".toList),
    (0xc02c, "TLS_ECDHE_ECDSA_WITH_AES_256_GCM_SHA384".toList),
    (0xc023, "TLS_ECDHE_ECDSA_WITH_AES_128_CBC_SHA256".toList),
    (0xc024, "TLS_ECDHE_ECDSA_WITH_AES_256_CBC_SHA384".toList),
    (0xc009, "TLS_ECDHE_ECDSA_WITH_AES_128_CBC_SHA".toList),
    (0xc00a, "TLS_ECDHE_ECDSA_WITH_AES_256_CBC_SHA".toList)]

def extensionNames : List (UInt16 × List Char) :=
  [(0, "server_name".toList), (1, "max_fragment_length".toList), (5, "status_request".toList),
    (10, "supported_groups".toList), (11, "ec_point_formats".toList),
    (13, "signature_algorithms".toList), (16, "application_layer_protocol_negotiation".toList),
    (18, "signed_certificate_timestamp".toList), (21, "padding".toList),
    (23, "session_ticket".toList), (27, "compressed_certificate".toList),
    (35, "session_ticket_tls".toList), (43, "supported_versions".toList),
    (45, "psk_key_exchange_modes".toList), (51, "key_share".toList),
    (17513, "application_settings".toList), (65281, "renegotiation_info".toList)]

def getCipherSuiteName (id : UInt16) : List Char :=
  nameOr cipherSuiteNames (fun id => "UNKNOWN_CIPHER_0x".toList ++ formatHex4Upper id.toNat) id

def getExtensionName (id : UInt16) : List Char :=
  nameOr extensionNames (fun id => "UNKNOWN_EXTENSION_".toList ++ formatDecimal id.toNat) id

end OrbitTls.Fingerprint
