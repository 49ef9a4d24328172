import Spire.Runtime

/-! The disk `UpstreamAuthority` plugin: it signs the server's CA with a key
and a self-signed certificate read from two files. `Configure` decodes the
HCL configuration, loads the files and installs the CA under the lock;
`MintX509CAAndSubscribe` reloads the CA from the configured files, falls back
to the CA it holds when the reload fails, and signs the CSR.

The plugin's state is its three pointer fields, `nil` being `none`. What the
plugin calls outside the repository is an argument: `Disk` is what the two
files hold at the moment of one call, and may change from call to call, and
`Library` is the HCL decoder, the trust domain parser and the X.509 code.
A panic is an outcome, with the state as the panic leaves it. -/
namespace Spire.DiskUpstream

/-- `spiffeid.TrustDomain`. -/
structure TrustDomain where
  /-- The trust domain name. -/
  name : String
  deriving DecidableEq, Repr

/-- The zero `spiffeid.TrustDomain`. -/
def TrustDomain.zero : TrustDomain := ⟨""⟩

/-- `Configuration`. -/
structure Configuration where
  /-- `trustDomain spiffeid.TrustDomain`, unexported: `hcl.Decode` leaves it zero. -/
  trustDomain : TrustDomain
  /-- `CertFilePath string` -/
  certFilePath : String
  /-- `KeyFilePath string` -/
  keyFilePath : String
  deriving DecidableEq, Repr

/-- What `hcl.Decode` fills in a `Configuration`: `cert_file_path` and `key_file_path`. -/
structure HclFields where
  /-- `cert_file_path` -/
  certFilePath : String
  /-- `key_file_path` -/
  keyFilePath : String
  deriving DecidableEq, Repr

/-- The gRPC status codes the plugin uses. -/
inductive Code where
  | invalidArgument
  | internal
  deriving DecidableEq, Repr

/-- A Go `error` the plugin returns. -/
inductive Error where
  /-- `status.Error` or `status.Errorf` -/
  | status (code : Code) (message : String)
  /-- an error from a callee, returned as it is -/
  | plain (message : String)
  /-- `fmt.Errorf` with `%w`: the format's text before `%w`, and the wrapped error -/
  | wrapped (context : String) (inner : Error)
  deriving DecidableEq, Repr

/-- An `x509svid.UpstreamCA`: the key pair it signs with and its trust domain. -/
structure UpstreamCA (Key Cert : Type) where
  /-- the CA certificate of `x509util.NewMemoryKeypair(caCert, key)` -/
  cert : Cert
  /-- the key of `x509util.NewMemoryKeypair(caCert, key)` -/
  key : Key
  /-- the trust domain given to `x509svid.NewUpstreamCA` -/
  trustDomain : TrustDomain
  deriving DecidableEq, Repr

/-- `caCerts`. -/
structure CaCerts (Cert : Type) where
  /-- `certChain []*x509.Certificate` -/
  certChain : List Cert
  /-- `trustBundle []*x509.Certificate` -/
  trustBundle : List Cert
  deriving DecidableEq, Repr

/-- `Plugin`, its three pointer fields. -/
structure Plugin (Key Cert : Type) where
  /-- `certs *caCerts` -/
  certs : Option (CaCerts Cert)
  /-- `upstreamCA *x509svid.UpstreamCA` -/
  upstreamCA : Option (UpstreamCA Key Cert)
  /-- `config *Configuration` -/
  config : Option Configuration
  deriving DecidableEq, Repr

/-- The two files as `pemutil` reads them at one moment. -/
structure Disk (Key Cert : Type) where
  /-- `pemutil.LoadPrivateKey` -/
  loadPrivateKey : String → Except String Key
  /-- `pemutil.LoadCertificates` -/
  loadCertificates : String → Except String (List Cert)
  /-- "pemutil guarantees at least 1 cert" -/
  certificates_nonempty : ∀ path certs, loadCertificates path = .ok certs → certs ≠ []

/-- The code outside the repository that the plugin calls. -/
structure Library (Key Cert Csr : Type) where
  /-- `hcl.Decode` into a new `Configuration` -/
  hclDecode : String → Except String HclFields
  /-- `spiffeid.TrustDomainFromString`, which `RequireTrustDomainFromString` panics on -/
  trustDomainFromString : String → Except String TrustDomain
  /-- `x509util.CertificateMatchesPrivateKey` -/
  certificateMatchesPrivateKey : Cert → Key → Except String Bool
  /-- whether `caCert.Verify` succeeds with these intermediates and roots -/
  verify : Cert → List Cert → List Cert → Bool
  /-- `UpstreamCA.SignCSR`, with the TTL in nanoseconds -/
  signCSR : UpstreamCA Key Cert → Csr → Int → Except String Cert
  /-- `x509certificate.ToPluginFromCertificates` -/
  toPluginFromCertificates : List Cert → Except String (List Cert)

/-- `configv1.ConfigureRequest`, the fields `Configure` reads. -/
structure ConfigureRequest where
  /-- `HclConfiguration` -/
  hclConfiguration : String
  /-- `CoreConfiguration.TrustDomain`; `none` when `CoreConfiguration` is `nil` -/
  coreTrustDomain : Option String
  deriving DecidableEq, Repr

/-- `upstreamauthorityv1.MintX509CARequest`. -/
structure MintX509CARequest (Csr : Type) where
  /-- `Csr` -/
  csr : Csr
  /-- `PreferredTtl`, an `int32` count of seconds -/
  preferredTtl : Int

/-- `upstreamauthorityv1.MintX509CAResponse`. -/
structure MintX509CAResponse (Cert : Type) where
  /-- `X509CaChain` -/
  x509CaChain : List Cert
  /-- `UpstreamX509Roots` -/
  upstreamX509Roots : List Cert
  deriving DecidableEq, Repr

variable {Key Cert Csr : Type} (lib : Library Key Cert Csr)

/-- `loadUpstreamCAAndCerts(config)`, reading the files from `disk`. -/
def loadUpstreamCAAndCerts (disk : Disk Key Cert) (config : Configuration) :
    Except Error (UpstreamCA Key Cert × CaCerts Cert) :=
  match disk.loadPrivateKey config.keyFilePath with
  | .error err => .error (.status .invalidArgument ("unable to load upstream CA key: " ++ err))
  | .ok key =>
    match loaded : disk.loadCertificates config.certFilePath with
    | .error err => .error (.status .invalidArgument ("unable to load upstream CA cert: " ++ err))
    | .ok certs =>
      let caCert := certs.head (disk.certificates_nonempty _ _ loaded)
      if certs.length ≠ 1 then
        .error (.status .invalidArgument "with no bundle_file_path configured only self-signed CAs are supported")
      else
        let trustBundle := certs
        match lib.certificateMatchesPrivateKey caCert key with
        | .error err => .error (.plain err)
        | .ok false =>
          .error (.status .invalidArgument "unable to load upstream CA: certificate and private key do not match")
        | .ok true =>
          if lib.verify caCert [] trustBundle = false then
            .error (.status .invalidArgument
              "unable to load upstream CA: certificate cannot be validated with the provided bundle or is not self-signed")
          else .ok (⟨caCert, key, config.trustDomain⟩, ⟨[], trustBundle⟩)

namespace Plugin

/-- `new(Plugin)` -/
def new : Plugin Key Cert := ⟨none, none, none⟩

/-- `Configure(req)`, reading the files from `disk`. -/
def configure (p : Plugin Key Cert) (disk : Disk Key Cert) (req : ConfigureRequest) : Outcome Error Unit × Plugin Key Cert :=
  match lib.hclDecode req.hclConfiguration with
  | .error err => (.error (.status .invalidArgument ("failed to decode configuration: " ++ err)), p)
  | .ok fields =>
    let newConfig : Configuration := ⟨.zero, fields.certFilePath, fields.keyFilePath⟩
    match loadUpstreamCAAndCerts lib disk newConfig with
    | .error err => (.error err, p)
    | .ok (upstreamCA, certs) =>
      let p := { p with config := some newConfig }
      match req.coreTrustDomain with
      | none => (.panicked nilDereference, p)
      | some name =>
        match lib.trustDomainFromString name with
        | .error err => (.panicked err, p)
        | .ok trustDomain =>
          (.ok (), { p with config := some { newConfig with trustDomain }, certs := some certs, upstreamCA := some upstreamCA })

/-- `reloadCA()`, reading the files from `disk`. -/
def reloadCA (p : Plugin Key Cert) (disk : Disk Key Cert) :
    Outcome Error (UpstreamCA Key Cert × Option (CaCerts Cert)) × Plugin Key Cert :=
  match p.config with
  | none => (.panicked nilDereference, p)
  | some config =>
    match loadUpstreamCAAndCerts lib disk config with
    | .ok (upstreamCA, upstreamCerts) =>
      (.ok (upstreamCA, some upstreamCerts), { p with upstreamCA := some upstreamCA, certs := some upstreamCerts })
    | .error err =>
      match p.upstreamCA with
      | some upstreamCA => (.ok (upstreamCA, p.certs), p)
      | none => (.error (.wrapped "no cached CA and failed to load CA: " err), p)

/-- What `MintX509CAAndSubscribe` sends, once `reloadCA` has given it a CA and its certificates. -/
def signAndRespond (upstreamCA : UpstreamCA Key Cert) (upstreamCerts : Option (CaCerts Cert))
    (request : MintX509CARequest Csr) : Outcome Error (MintX509CAResponse Cert) :=
  match lib.signCSR upstreamCA request.csr (1000000000 * request.preferredTtl) with
  | .error err => .error (.status .internal ("unable to sign CSR: " ++ err))
  | .ok cert =>
    match upstreamCerts with
    | none => .panicked nilDereference
    | some upstreamCerts =>
      match lib.toPluginFromCertificates (cert :: upstreamCerts.certChain) with
      | .error err => .error (.status .internal ("unable to form response X.509 CA chain: " ++ err))
      | .ok x509CAChain =>
        match lib.toPluginFromCertificates upstreamCerts.trustBundle with
        | .error err => .error (.status .internal ("unable to form response upstream X.509 roots: " ++ err))
        | .ok upstreamX509Roots => .ok ⟨x509CAChain, upstreamX509Roots⟩

/-- `MintX509CAAndSubscribe(request)`, reading the files from `disk`. -/
def mintX509CAAndSubscribe (p : Plugin Key Cert) (disk : Disk Key Cert) (request : MintX509CARequest Csr) :
    Outcome Error (MintX509CAResponse Cert) × Plugin Key Cert :=
  match p.reloadCA lib disk with
  | (.ok (upstreamCA, upstreamCerts), p) => (signAndRespond lib upstreamCA upstreamCerts request, p)
  | (.error err, p) => (.error err, p)
  | (.panicked reason, p) => (.panicked reason, p)

end Plugin

/-- One call on the plugin, with the files as they are when it runs. -/
inductive Call (Key Cert Csr : Type) where
  | configure (disk : Disk Key Cert) (req : ConfigureRequest)
  | mint (disk : Disk Key Cert) (request : MintX509CARequest Csr)

/-- The files as they are when the call runs. -/
def Call.disk : Call Key Cert Csr → Disk Key Cert
  | .configure disk _ => disk
  | .mint disk _ => disk

/-- Whether one call panicked, and the state it leaves. -/
def Plugin.apply (p : Plugin Key Cert) : Call Key Cert Csr → Bool × Plugin Key Cert
  | .configure disk req =>
    let (outcome, p) := p.configure lib disk req
    (outcome matches .panicked _, p)
  | .mint disk request =>
    let (outcome, p) := p.mintX509CAAndSubscribe lib disk request
    (outcome matches .panicked _, p)

/-- A sequence of calls in which none panicked, and the state it leaves;
`none` when one panicked, which ends the plugin's process. -/
def Plugin.run (p : Plugin Key Cert) : List (Call Key Cert Csr) → Option (Plugin Key Cert)
  | [] => some p
  | call :: rest =>
    match p.apply lib call with
    | (true, _) => none
    | (false, p) => p.run rest

end Spire.DiskUpstream
