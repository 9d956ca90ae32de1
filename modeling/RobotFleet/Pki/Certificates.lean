/-
# Pki.Certificates -- CSR signing and peer-certificate checks

The functions of `pki/src/csr.rs` and `pki/src/mtls.rs` that the services call:
`signCsr`, `extractSerial` and `verifySignedBy`.  The libraries below them
(`rcgen`, `x509-parser`, `rustls-pemfile`) are the parameter `Crypto`, one field
per call the source makes; randomness a call draws is an argument.

The only thing assumed about them is `Crypto.SigningLaws`: a certificate signed
from a request keeps the request's own subject and public key, and reading it
back gives what was signed.  From that, `signCsr_cn`: the common name of the
certificate is the one inside the CSR, whatever else the caller was told.
-/
import RobotFleet.Theory.Calls

namespace RobotFleet.Pki

open RobotFleet.Theory.Calls (mapError_ok ok_of_bind)

set_option autoImplicit false

/-- `pki/src/error.rs`. -/
inductive Error where
  | tls (message : String)
  | pem (message : String)
  | noPeerCert
  | certVerification (message : String)
  | serialMismatch (cert request : String)
  | io (message : String)
  deriving DecidableEq, Repr

def Error.toString : Error → String
  | .tls m => "TLS error: " ++ m
  | .pem m => "PEM parse error: " ++ m
  | .noPeerCert => "no peer certificate in TLS state"
  | .certVerification m => "device cert verification failed: " ++ m
  | .serialMismatch cert request => "serial mismatch: cert=" ++ cert ++ " request=" ++ request
  | .io m => "IO error: " ++ m

/-- The third-party calls, with the errors already rendered as the source
renders them (`e.to_string()`). -/
structure Crypto where
  KeyPair : Type
  CaParams : Type
  CaCert : Type
  CsrParams : Type
  Certificate : Type
  CertificateDer : Type
  X509 : Type
  PublicKey : Type
  /-- `KeyPair::from_pem` -/
  keyPairFromPem : String → Except String KeyPair
  /-- `CertificateParams::from_ca_cert_pem` -/
  caParamsFromPem : String → Except String CaParams
  /-- `CertificateParams::self_signed` -/
  selfSigned : CaParams → KeyPair → Except String CaCert
  /-- `CertificateSigningRequestParams::from_pem` -/
  csrFromPem : String → Except String CsrParams
  csrCommonNames : CsrParams → List (Except String String)
  csrPublicKey : CsrParams → PublicKey
  /-- `CertificateSigningRequestParams::signed_by`, given the validity window
  written into the params and the randomness of the signature -/
  signedBy : CsrParams → Int → Int → CaCert → KeyPair → Nat → Except String Certificate
  /-- `Certificate::pem` -/
  certPem : Certificate → String
  /-- `rustls_pemfile::certs` -/
  pemCerts : String → Except String (List CertificateDer)
  /-- `X509Certificate::from_der` -/
  x509FromDer : CertificateDer → Except String X509
  /-- `subject().iter_common_name()`, each read with `as_str` -/
  commonNames : X509 → List (Except String String)
  publicKey : X509 → PublicKey
  /-- `X509Certificate::verify_signature` -/
  verifySignature : X509 → PublicKey → Except String Unit

variable (C : Crypto)

/-! ## The source's functions -/

/-- `csr.rs`, `sign_csr`. -/
def signCsr (csrPem caCertPem caKeyPem : String) (validityDays : Nat) (now : Int)
    (entropy : Nat) : Except Error String := do
  let caKey ← (C.keyPairFromPem caKeyPem).mapError .pem
  let caParams ← (C.caParamsFromPem caCertPem).mapError .pem
  let caCert ← (C.selfSigned caParams caKey).mapError .pem
  let csrParams ← (C.csrFromPem csrPem).mapError .pem
  let notBefore := now
  let notAfter := now + validityDays * 86400
  let cert ← (C.signedBy csrParams notBefore notAfter caCert caKey entropy).mapError .pem
  return C.certPem cert

/-- `mtls.rs`, `certs_from_pem`. -/
def certsFromPem (pem : String) : Except Error (List C.CertificateDer) :=
  (C.pemCerts pem).mapError .pem

/-- `mtls.rs`, `extract_serial`: the first common name of the first certificate. -/
def extractSerial (peerCerts : List C.CertificateDer) : Except Error String :=
  match peerCerts.head? with
  | none => .error .noPeerCert
  | some cert => do
    let x509 ← (C.x509FromDer cert).mapError .pem
    match (C.commonNames x509).head? with
    | none => .error (.pem "no CN in subject")
    | some cn => cn.mapError .pem

/-- `mtls.rs`, `verify_signed_by`. -/
def verifySignedBy (peerCerts : List C.CertificateDer) (caPem : String) : Except Error Unit :=
  match peerCerts.head? with
  | none => .error .noPeerCert
  | some leaf => do
    let caCerts ← certsFromPem C caPem
    match caCerts.head? with
    | none => .error (.pem "no certificate in CA PEM")
    | some caDer => do
      let caX509 ← (C.x509FromDer caDer).mapError .certVerification
      let leafX509 ← (C.x509FromDer leaf).mapError .certVerification
      (C.verifySignature leafX509 (C.publicKey caX509)).mapError .certVerification

/-! ## Names in requests and certificates -/

/-- The subject common name a certificate PEM carries, as `extractSerial` reads it. -/
def certCn (certPem : String) : Option String :=
  match certsFromPem C certPem with
  | .ok ders => (extractSerial C ders).toOption
  | .error _ => none

/-- The subject common name inside a CSR. -/
def csrCn (csrPem : String) : Option String :=
  match C.csrFromPem csrPem with
  | .ok csr => (C.csrCommonNames csr).head?.bind Except.toOption
  | .error _ => none

/-- What signing does to a request: the certificate is a single PEM block that
parses, with the request's own subject and public key. -/
structure Crypto.SigningLaws : Prop where
  signed_parses : ∀ {csr notBefore notAfter caCert key entropy cert},
    C.signedBy csr notBefore notAfter caCert key entropy = .ok cert →
      ∃ der x509, C.pemCerts (C.certPem cert) = .ok [der] ∧ C.x509FromDer der = .ok x509 ∧
        C.commonNames x509 = C.csrCommonNames csr ∧ C.publicKey x509 = C.csrPublicKey csr

variable {C}

/-- A successful signing, taken apart. -/
theorem signCsr_eq_ok {csrPem caCertPem caKeyPem : String} {validityDays : Nat} {now : Int}
    {entropy : Nat} {certPem : String}
    (signed : signCsr C csrPem caCertPem caKeyPem validityDays now entropy = .ok certPem) :
    ∃ caKey caCert csr cert, C.csrFromPem csrPem = .ok csr ∧
      C.signedBy csr now (now + validityDays * 86400) caCert caKey entropy = .ok cert ∧
      C.certPem cert = certPem := by
  unfold signCsr at signed
  obtain ⟨caKey, -, signed⟩ := ok_of_bind signed
  obtain ⟨caParams, -, signed⟩ := ok_of_bind signed
  obtain ⟨caCert, -, signed⟩ := ok_of_bind signed
  obtain ⟨csr, parsed, signed⟩ := ok_of_bind signed
  obtain ⟨cert, issued, signed⟩ := ok_of_bind signed
  rw [mapError_ok] at parsed issued
  exact ⟨caKey, caCert, csr, cert, parsed, issued, Except.ok.inj signed⟩

theorem certCn_of_pem {certPem : String} {ders : List C.CertificateDer}
    (block : C.pemCerts certPem = .ok ders) : certCn C certPem = (extractSerial C ders).toOption := by
  have read : certsFromPem C certPem = .ok ders := mapError_ok.2 block
  simp only [certCn, read]

/-- **The certificate names whoever the CSR names.** -/
theorem signCsr_cn (laws : C.SigningLaws) {csrPem caCertPem caKeyPem : String}
    {validityDays : Nat} {now : Int} {entropy : Nat} {certPem : String}
    (signed : signCsr C csrPem caCertPem caKeyPem validityDays now entropy = .ok certPem) :
    certCn C certPem = csrCn C csrPem := by
  obtain ⟨caKey, caCert, csr, cert, parsed, issued, rfl⟩ := signCsr_eq_ok signed
  obtain ⟨der, x509, block, read, names, -⟩ := laws.signed_parses issued
  have parses : (C.x509FromDer der).mapError Error.pem = .ok x509 := mapError_ok.2 read
  rw [certCn_of_pem block]
  simp only [extractSerial, List.head?_cons, parses, names, csrCn, parsed, bind, Except.bind]
  cases first : (C.csrCommonNames csr).head? with
  | none => rfl
  | some cn => cases cn <;> rfl

/-- `peerCerts` starts with the certificate that `certPem` encodes. -/
def PresentsCert (C : Crypto) (certPem : String) (peerCerts : List C.CertificateDer) : Prop :=
  ∃ der rest others, C.pemCerts certPem = .ok (der :: rest) ∧ peerCerts = der :: others

/-- Presenting a certificate is presenting its common name. -/
theorem PresentsCert.extractSerial_eq {certPem : String} {peerCerts : List C.CertificateDer}
    (presents : PresentsCert C certPem peerCerts) {serial : String}
    (named : extractSerial C peerCerts = .ok serial) : certCn C certPem = some serial := by
  obtain ⟨der, rest, others, block, rfl⟩ := presents
  have same : extractSerial C (der :: rest) = extractSerial C (der :: others) := rfl
  rw [certCn_of_pem block, same, named]
  rfl

/-! ## A symbolic library, for runs that are computed

A certificate is the text `issuer|name`; a CSR is the name it asks for, which
also stands for its key; a CA key is the CA's name. -/

namespace Toy

def split (der : String) : Except String (String × String) :=
  match der.toList.dropWhile (· ≠ '|') with
  | [] => .error "not a certificate"
  | _ :: name => .ok (String.ofList (der.toList.takeWhile (· ≠ '|')), String.ofList name)

def crypto : Crypto where
  KeyPair := String
  CaParams := String
  CaCert := String
  CsrParams := String
  Certificate := String
  CertificateDer := String
  X509 := String × String
  PublicKey := String
  keyPairFromPem := .ok
  caParamsFromPem := .ok
  selfSigned params _ := .ok params
  csrFromPem pem := if pem.isEmpty then .error "missing CSR" else .ok pem
  csrCommonNames csr := [.ok csr]
  csrPublicKey csr := csr
  signedBy csr _ _ _ key _ :=
    if '|' ∈ key.toList then .error "bad key" else .ok (key ++ "|" ++ csr)
  certPem := id
  pemCerts pem := .ok [pem]
  x509FromDer := split
  commonNames x509 := [.ok x509.2]
  publicKey x509 := x509.2
  verifySignature x509 key := if x509.1 = key then .ok () else .error "signature mismatch"

theorem split_append {issuer name : String} (plain : '|' ∉ issuer.toList) :
    split (issuer ++ "|" ++ name) = .ok (issuer, name) := by
  have keep : ∀ c ∈ issuer.toList, decide (c ≠ '|') = true := by
    intro c member
    have : c ≠ '|' := fun same => plain (same ▸ member)
    simpa using this
  have text : (issuer ++ "|" ++ name).toList = issuer.toList ++ '|' :: name.toList := by
    simp [String.toList_append]
  unfold split
  rw [text, List.dropWhile_append_of_pos keep, List.takeWhile_append_of_pos keep]
  simp

theorem laws : crypto.SigningLaws where
  signed_parses := by
    intro csr notBefore notAfter caCert key entropy cert signed
    simp only [crypto] at signed
    split at signed
    · cases signed
    · rename_i plain
      cases signed
      exact ⟨_, _, rfl, split_append plain, rfl, rfl⟩

end Toy

end RobotFleet.Pki
