import Spire.UpstreamAuthority.Disk

/-! What the disk plugin's CA is bound to, and what a failed `Configure` leaves.

`loadUpstreamCAAndCerts` builds its CA for the trust domain of the
configuration it is given (`loadUpstreamCAAndCerts_trustDomain`). `Configure`
gives it the freshly decoded configuration, whose trust domain is still the
zero one: it sets `p.config.trustDomain` only after the load, through the same
pointer. So every CA that `Configure` installs is bound to the empty trust
domain (`configure_installs_zero_trust_domain`), and when a later reload fails,
`MintX509CAAndSubscribe` signs with it
(`failed_reload_signs_with_zero_trust_domain`). Along any calls that do not
panic, the plugin is as the last call that loaded a CA left it, and its CA and
certificates come from that call's load of the configured files, as they were
when it ran, for the configured trust domain or for the zero one
(`run_ca_from_configured_files`).

`Configure` leaves the plugin untouched on each of its error returns
(`configure_error_leaves_state`), but it replaces `p.config` before it reads
`req.CoreConfiguration.TrustDomain`, and a `nil` `CoreConfiguration` or an
invalid name panics there, with the new configuration beside the old CA and
certificates (`configure_panic_replaces_config_only`). -/
namespace Spire.DiskUpstream

variable {Key Cert Csr : Type} {lib : Library Key Cert Csr} {disk : Disk Key Cert} {config : Configuration}
  {ca : UpstreamCA Key Cert} {certs : CaCerts Cert} {p : Plugin Key Cert}

/-! ## Example files, library and requests -/

/-- Files readable at every path: a key, and one certificate made for it. -/
def readableDisk : Disk String String where
  loadPrivateKey path := .ok ("key in " ++ path)
  loadCertificates path := .ok ["certificate in " ++ path]
  certificates_nonempty _ _ loaded := by cases loaded; simp

/-- Files unreadable at every path. -/
def unreadableDisk : Disk String String where
  loadPrivateKey path := .error ("open " ++ path ++ ": permission denied")
  loadCertificates path := .error ("open " ++ path ++ ": permission denied")
  certificates_nonempty _ _ loaded := by cases loaded

/-- The HCL text that names `ca.pem` and `ca.key`. -/
def caHcl : String := "cert_file_path = \"ca.pem\"\nkey_file_path = \"ca.key\""

/-- The HCL text that names `new.pem` and `new.key`. -/
def newHcl : String := "cert_file_path = \"new.pem\"\nkey_file_path = \"new.key\""

/-- A library that decodes the two texts above, rejects the empty trust domain
name, accepts every key and certificate, and issues a certificate named by the
signing CA's trust domain ID. -/
def exampleLibrary : Library String String String where
  hclDecode text :=
    if text = caHcl then .ok ⟨"ca.pem", "ca.key"⟩
    else if text = newHcl then .ok ⟨"new.pem", "new.key"⟩
    else .error "At 1:1: illegal char"
  trustDomainFromString name := if name = "" then .error "trust domain is missing" else .ok ⟨name⟩
  certificateMatchesPrivateKey _ _ := .ok true
  verify _ _ _ := true
  signCSR ca _ _ := .ok ("spiffe://" ++ ca.trustDomain.name)
  toPluginFromCertificates certs := .ok certs

/-- `Configure` with `ca.pem`, `ca.key` and the trust domain `example.org`. -/
def configureExample : ConfigureRequest := ⟨caHcl, some "example.org"⟩

/-- The plugin after `configureExample` on readable files. -/
def configuredExample : Plugin String String := (Plugin.new.configure exampleLibrary readableDisk configureExample).2

/-- A CSR with a preferred TTL of one hour. -/
def exampleMint : MintX509CARequest String := ⟨"csr", 3600⟩

/-! ## `Configure` and `reloadCA`, case by case -/

theorem loadUpstreamCAAndCerts_trustDomain (loaded : loadUpstreamCAAndCerts lib disk config = .ok (ca, certs)) :
    ca.trustDomain = config.trustDomain := by
  unfold loadUpstreamCAAndCerts at loaded
  dsimp only at loaded
  repeat' split at loaded
  all_goals cases loaded
  rfl

/-- What `Configure` can do: fail and change nothing, or decode and load, then
panic after replacing `p.config`, or install the loaded CA and certificates. -/
theorem configure_cases (p : Plugin Key Cert) (disk : Disk Key Cert) (req : ConfigureRequest) :
    (∃ err, p.configure lib disk req = (.error err, p)) ∨
      ∃ fields ca certs, lib.hclDecode req.hclConfiguration = .ok fields ∧
        loadUpstreamCAAndCerts lib disk ⟨.zero, fields.certFilePath, fields.keyFilePath⟩ = .ok (ca, certs) ∧
        ((∃ reason, p.configure lib disk req =
            (.panicked reason, { p with config := some ⟨.zero, fields.certFilePath, fields.keyFilePath⟩ })) ∨
          ∃ trustDomain, p.configure lib disk req =
            (.ok (), { p with
              config := some ⟨trustDomain, fields.certFilePath, fields.keyFilePath⟩
              certs := some certs
              upstreamCA := some ca })) := by
  cases decoded : lib.hclDecode req.hclConfiguration with
  | error err =>
    exact .inl ⟨.status .invalidArgument ("failed to decode configuration: " ++ err), by simp [Plugin.configure, decoded]⟩
  | ok fields =>
    cases loaded : loadUpstreamCAAndCerts lib disk ⟨.zero, fields.certFilePath, fields.keyFilePath⟩ with
    | error err => exact .inl ⟨err, by simp [Plugin.configure, decoded, loaded]⟩
    | ok pair =>
      obtain ⟨ca, certs⟩ := pair
      refine .inr ⟨fields, ca, certs, rfl, loaded, ?_⟩
      cases core : req.coreTrustDomain with
      | none => exact .inl ⟨nilDereference, by simp [Plugin.configure, decoded, loaded, core]⟩
      | some name =>
        cases parsed : lib.trustDomainFromString name with
        | error err => exact .inl ⟨err, by simp [Plugin.configure, decoded, loaded, core, parsed]⟩
        | ok trustDomain => exact .inr ⟨trustDomain, by simp [Plugin.configure, decoded, loaded, core, parsed]⟩

/-- **A `Configure` that returns an error changes nothing.** -/
theorem configure_error_leaves_state {req : ConfigureRequest} {err : Error}
    (failed : (p.configure lib disk req).1 = .error err) : (p.configure lib disk req).2 = p := by
  rcases configure_cases p disk req with ⟨_, same⟩ | ⟨_, _, _, _, _, ⟨_, same⟩ | ⟨_, same⟩⟩ <;>
    rw [same] at failed ⊢
  all_goals cases failed

/-- **A panicking `Configure` replaces only the configuration.** It has
decoded new file paths, and leaves them with the zero trust domain beside the
CA and certificates it found. -/
theorem configure_panic_replaces_config_only {req : ConfigureRequest} {reason : String}
    (panicked : (p.configure lib disk req).1 = .panicked reason) :
    ∃ fields, lib.hclDecode req.hclConfiguration = .ok fields ∧
      (p.configure lib disk req).2 = { p with config := some ⟨.zero, fields.certFilePath, fields.keyFilePath⟩ } := by
  rcases configure_cases p disk req with ⟨_, same⟩ | ⟨fields, _, _, decoded, _, ⟨_, same⟩ | ⟨_, same⟩⟩ <;>
    rw [same] at panicked ⊢
  · cases panicked
  · exact ⟨fields, decoded, rfl⟩
  · cases panicked

/-- **`Configure` installs a CA for the empty trust domain.** -/
theorem configure_installs_zero_trust_domain {req : ConfigureRequest}
    (configured : (p.configure lib disk req).1 = .ok ()) :
    ∃ ca, (p.configure lib disk req).2.upstreamCA = some ca ∧ ca.trustDomain = .zero := by
  rcases configure_cases p disk req with ⟨_, same⟩ | ⟨_, ca, _, _, loaded, ⟨_, same⟩ | ⟨_, same⟩⟩ <;>
    rw [same] at configured ⊢
  · cases configured
  · cases configured
  · exact ⟨ca, rfl, loadUpstreamCAAndCerts_trustDomain loaded⟩

/-- What `reloadCA` can do: panic without a configuration, install a freshly
loaded CA, or keep the state when the load fails. -/
theorem reloadCA_cases (p : Plugin Key Cert) (disk : Disk Key Cert) :
    (p.reloadCA lib disk).2 = p ∨
      ∃ config ca certs, p.config = some config ∧ loadUpstreamCAAndCerts lib disk config = .ok (ca, certs) ∧
        (p.reloadCA lib disk).2 = { p with upstreamCA := some ca, certs := some certs } := by
  unfold Plugin.reloadCA
  split
  · exact .inl rfl
  · rename_i config configured
    split
    · exact .inr ⟨config, _, _, configured, ‹_›, rfl⟩
    · split <;> exact .inl rfl

theorem mintX509CAAndSubscribe_state (p : Plugin Key Cert) (disk : Disk Key Cert) (request : MintX509CARequest Csr) :
    (p.mintX509CAAndSubscribe lib disk request).2 = (p.reloadCA lib disk).2 := by
  unfold Plugin.mintX509CAAndSubscribe
  split <;> simp_all

/-! ## Runs without a panic -/

/-- The CA and certificates the plugin holds come from one load of the
configured files as `disk` held them, for the configured trust domain or for
the zero one. -/
def CaFromDisk (lib : Library Key Cert Csr) (disk : Disk Key Cert) (p : Plugin Key Cert) : Prop :=
  ∃ ca config certs, p.upstreamCA = some ca ∧ p.config = some config ∧ p.certs = some certs ∧
    (ca.trustDomain = config.trustDomain ∨ ca.trustDomain = .zero) ∧
    loadUpstreamCAAndCerts lib disk { config with trustDomain := ca.trustDomain } = .ok (ca, certs)

/-- A call that does not panic leaves the plugin as it was, or loads a CA and
its certificates from the files as the call found them. -/
theorem apply_unchanged_or_loads {call : Call Key Cert Csr} {p' : Plugin Key Cert}
    (applied : p.apply lib call = (false, p')) : p' = p ∨ CaFromDisk lib call.disk p' := by
  cases call with
  | configure disk req =>
    simp only [Plugin.apply, Prod.mk.injEq] at applied
    obtain ⟨calm, rfl⟩ := applied
    rcases configure_cases p disk req with ⟨_, same⟩ | ⟨fields, ca, certs, _, loaded, ⟨_, same⟩ | ⟨trustDomain, same⟩⟩ <;>
      rw [same] at calm ⊢
    · exact .inl rfl
    · cases calm
    · have zero := loadUpstreamCAAndCerts_trustDomain loaded
      exact .inr ⟨ca, _, certs, rfl, rfl, rfl, .inr zero, by rw [zero]; exact loaded⟩
  | mint disk request =>
    simp only [Plugin.apply, Prod.mk.injEq] at applied
    obtain ⟨-, rfl⟩ := applied
    rw [mintX509CAAndSubscribe_state]
    rcases reloadCA_cases p disk with same | ⟨config, ca, certs, configured, loaded, same⟩ <;> rw [same]
    · exact .inl rfl
    · have bound := loadUpstreamCAAndCerts_trustDomain loaded
      exact .inr ⟨ca, config, certs, rfl, configured, rfl, .inl bound, by rw [bound]; exact loaded⟩

theorem Plugin.run_append (q : Plugin Key Cert) (calls more : List (Call Key Cert Csr)) :
    q.run lib (calls ++ more) = (q.run lib calls).bind (·.run lib more) := by
  induction calls generalizing q with
  | nil => rfl
  | cons call rest ih =>
    simp only [List.cons_append, Plugin.run]
    split
    · rfl
    · exact ih _

/-- After `calls`, the plugin holds no CA, or is as the last call that loaded
one left it, with the CA that call loaded from its files. -/
def LastLoad (lib : Library Key Cert Csr) (calls : List (Call Key Cert Csr)) (p : Plugin Key Cert) : Prop :=
  p.upstreamCA = none ∨ ∃ pre call post, calls = pre ++ call :: post ∧
    Plugin.new.run lib (pre ++ [call]) = some p ∧ CaFromDisk lib call.disk p

theorem LastLoad.step {calls : List (Call Key Cert Csr)} {call : Call Key Cert Csr} {p' : Plugin Key Cert}
    (held : LastLoad lib calls p) (ran : Plugin.new.run lib calls = some p) (applied : p.apply lib call = (false, p')) :
    LastLoad lib (calls ++ [call]) p' := by
  rcases apply_unchanged_or_loads applied with rfl | loaded
  · rcases held with none | ⟨pre, last, post, split, lastRan, fromDisk⟩
    · exact .inl none
    · exact .inr ⟨pre, last, post ++ [call], by simp [split], lastRan, fromDisk⟩
  · refine .inr ⟨calls, call, [], rfl, ?_, loaded⟩
    simp [Plugin.run_append, ran, Plugin.run, applied]

theorem LastLoad.run {pre calls : List (Call Key Cert Csr)} {p₀ : Plugin Key Cert} (held : LastLoad lib pre p₀)
    (ran₀ : Plugin.new.run lib pre = some p₀) (ran : p₀.run lib calls = some p) : LastLoad lib (pre ++ calls) p := by
  induction calls generalizing pre p₀ with
  | nil =>
    cases ran
    simpa using held
  | cons call rest ih =>
    simp only [Plugin.run] at ran
    split at ran
    · cases ran
    · rename_i p₁ applied
      have next := ih (held.step ran₀ applied) (by simp [Plugin.run_append, ran₀, Plugin.run, applied]) ran
      simpa using next

/-- **Without a panic, the CA comes from the last load of the configured
files.** After any calls from `new(Plugin)` none of which panicked, the plugin
holds no CA, or it is as the last call that loaded a CA left it: that call's
load of the configured key and certificate files, as they were when it ran,
gave the CA and certificates the plugin holds, and the CA is bound to the
configured trust domain or to the zero one. -/
theorem run_ca_from_configured_files {calls : List (Call Key Cert Csr)} (ran : Plugin.new.run lib calls = some p) :
    p.upstreamCA = none ∨ ∃ pre call post, calls = pre ++ call :: post ∧
      Plugin.new.run lib (pre ++ [call]) = some p ∧ CaFromDisk lib call.disk p := by
  have last : LastLoad lib ([] ++ calls) p := LastLoad.run (.inl rfl) rfl ran
  rwa [List.nil_append] at last

/-- `configureExample`, a mint on readable files, which reloads the CA for
`example.org`, then a mint on unreadable files, which keeps it. -/
def exampleCalls : List (Call String String String) :=
  [.configure readableDisk configureExample, .mint readableDisk exampleMint, .mint unreadableDisk exampleMint]

/-- The plugin after `exampleCalls`: as the first mint left it. -/
def reloadedExample : Plugin String String :=
  (configuredExample.mintX509CAAndSubscribe exampleLibrary readableDisk exampleMint).2

theorem example_calls_keep_reloaded_ca :
    Plugin.new.run exampleLibrary exampleCalls = some reloadedExample ∧
      (reloadedExample.upstreamCA = none ∨ ∃ pre call post, exampleCalls = pre ++ call :: post ∧
        Plugin.new.run exampleLibrary (pre ++ [call]) = some reloadedExample ∧
        CaFromDisk exampleLibrary call.disk reloadedExample) :=
  have ran : Plugin.new.run exampleLibrary exampleCalls = some reloadedExample := rfl
  ⟨ran, run_ca_from_configured_files ran⟩

/-! ## The failing inputs -/

/-- After `configureExample` the plugin is configured for `example.org`, but
its CA is bound to the empty trust domain. A mint whose reload succeeds signs
for `example.org`; one whose reload fails falls back to that CA and signs for
the empty trust domain. -/
theorem failed_reload_signs_with_zero_trust_domain :
    (Plugin.new.configure exampleLibrary readableDisk configureExample).1 = .ok () ∧
      configuredExample.config.map Configuration.trustDomain = some ⟨"example.org"⟩ ∧
      configuredExample.upstreamCA.map UpstreamCA.trustDomain = some .zero ∧
      (configuredExample.mintX509CAAndSubscribe exampleLibrary readableDisk exampleMint).1 =
        .ok ⟨["spiffe://example.org"], ["certificate in ca.pem"]⟩ ∧
      (configuredExample.mintX509CAAndSubscribe exampleLibrary unreadableDisk exampleMint).1 =
        .ok ⟨["spiffe://"], ["certificate in ca.pem"]⟩ :=
  ⟨rfl, rfl, rfl, rfl, rfl⟩

/-- `Configure` of the configured plugin with `new.pem`, `new.key` and no
`CoreConfiguration` panics, after replacing the configuration: the plugin then
holds the new paths with the zero trust domain, beside the CA and certificates
loaded from `ca.pem` and `ca.key`. -/
theorem configure_without_core_configuration_half_applies :
    (configuredExample.configure exampleLibrary readableDisk ⟨newHcl, none⟩).1 = .panicked nilDereference ∧
      (configuredExample.configure exampleLibrary readableDisk ⟨newHcl, none⟩).2 =
        ⟨configuredExample.certs, configuredExample.upstreamCA, some ⟨.zero, "new.pem", "new.key"⟩⟩ ∧
      configuredExample.config = some ⟨⟨"example.org"⟩, "ca.pem", "ca.key"⟩ ∧
      configuredExample.upstreamCA = some ⟨"certificate in ca.pem", "key in ca.key", .zero⟩ :=
  ⟨rfl, rfl, rfl, rfl⟩

end Spire.DiskUpstream
