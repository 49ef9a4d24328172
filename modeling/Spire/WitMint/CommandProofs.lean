import Spire.WitMint.Command

/-! What `mintCommand.Run` sends, prints and writes, for every answer of the
server, of the file system and of standard output.

`run_sent_iff`: the command sends a request exactly when the ID is set and
parses, the TTL converts and a key is made; the request carries the ID's trust
domain and path, the public key and `ttlToSeconds` of `-ttl`. `run_of_minted`:
once the server returns a token that is not empty, its lifetime never fails the
command, whose result is then that of the file's write and of standard
output's. `run_files_changed`: the
command changes no file but the `-write` file, and that one only after the
server returned a token. -/
namespace Spire.WitMint

open Spire.Template (Printed)

variable {ID Signer Der Time : Type} {lib : Library ID Signer Der Time} {c : MintCommand}

/-! ## The request -/

theorem request_eq_ok_iff {r : MintWITSVIDRequest Der} :
    c.request lib = .ok r ↔
      c.spiffeID ≠ "" ∧ ∃ spiffeID signer, lib.fromString c.spiffeID = .ok spiffeID ∧
        ttlToSeconds c.ttl = some r.ttl ∧ lib.generateSigner = .ok signer ∧
        lib.marshalPKIXPublicKey signer = .ok r.publicKey ∧
        r.trustDomain = lib.trustDomainName spiffeID ∧ r.path = lib.path spiffeID := by
  unfold MintCommand.request
  by_cases named : c.spiffeID = ""
  · simp [named]
  rcases parsed : lib.fromString c.spiffeID with err | spiffeID
  · simp [named]
  rcases converted : ttlToSeconds c.ttl with _ | ttl
  · simp [named]
  rcases generated : lib.generateSigner with err | signer
  · simp [named]
  rcases marshalled : lib.marshalPKIXPublicKey signer with err | der
  · simp [named, marshalled]
  rcases r with ⟨trustDomain, path, publicKey, ttl'⟩
  simp only [named, if_false, marshalled, Except.ok.injEq, MintWITSVIDRequest.mk.injEq, Option.some.injEq, ne_eq,
    not_false_eq_true, true_and]
  constructor
  · rintro ⟨rfl, rfl, rfl, rfl⟩
    exact ⟨spiffeID, signer, rfl, rfl, rfl, marshalled, rfl, rfl⟩
  · rintro ⟨_, _, rfl, rfl, rfl, published, rfl, rfl⟩
    rw [marshalled, Except.ok.injEq] at published
    exact ⟨rfl, rfl, published, rfl⟩

/-! ## The token check -/

/-- The lifetime of a token that is not empty never fails the check. -/
theorem validateToken_of_ne_empty {token : String} (nonempty : token ≠ "") :
    ∃ warnings, c.validateToken lib token = (warnings, .ok ()) := by
  unfold MintCommand.validateToken
  rw [if_neg nonempty]
  split
  exacts [⟨_, rfl⟩, ⟨_, rfl⟩]

theorem ne_empty_of_validateToken {token : String} {warnings : List String}
    (validated : c.validateToken lib token = (warnings, .ok ())) : token ≠ "" := fun empty => by
  simp [MintCommand.validateToken, empty] at validated

/-! ## A run -/

variable {mint : MintWITSVIDRequest Der → Except String (Option String)}
  {writable : String → Except WriteFailure Unit} {stdout : Except String Unit} {files : String → Option String}

theorem run_of_request_error {err : String} (stopped : c.request lib = .error err) :
    c.run lib mint writable stdout files = ⟨⟨[], []⟩, none, files, .error err⟩ := by
  rw [MintCommand.run, stopped]

theorem run_sent_of_request_ok {r : MintWITSVIDRequest Der} (requested : c.request lib = .ok r) :
    (c.run lib mint writable stdout files).sent = some r := by
  simp only [MintCommand.run, requested]
  repeat' split
  all_goals rfl

theorem run_sent_eq_some_iff {r : MintWITSVIDRequest Der} :
    (c.run lib mint writable stdout files).sent = some r ↔ c.request lib = .ok r := by
  rcases requested : c.request lib with err | request
  · simp [run_of_request_error requested]
  · simp [run_sent_of_request_ok requested]

/-- **A request is sent only with a checked ID and TTL.** `Run` sends the
server a request exactly when `-spiffeID` is set and parses, `-ttl` converts
with `ttlToSeconds` and a key pair is made and marshalled. The request carries
the ID's trust domain name and path, the public key, and the converted TTL. -/
theorem run_sent_iff {r : MintWITSVIDRequest Der} :
    (c.run lib mint writable stdout files).sent = some r ↔
      c.spiffeID ≠ "" ∧ ∃ spiffeID signer, lib.fromString c.spiffeID = .ok spiffeID ∧
        ttlToSeconds c.ttl = some r.ttl ∧ lib.generateSigner = .ok signer ∧
        lib.marshalPKIXPublicKey signer = .ok r.publicKey ∧
        r.trustDomain = lib.trustDomainName spiffeID ∧ r.path = lib.path spiffeID := by
  rw [run_sent_eq_some_iff, request_eq_ok_iff]

/-- **A token's lifetime never fails the command.** Once the server has
answered `Run`'s request with a token that is not empty, `Run` succeeds exactly
when it has no file to write or the file system takes the write, and standard
output takes what it prints, whatever the token's expiry claim says: an
unreadable or capped lifetime is only a warning on standard error. Without
`-write` it prints the response, under the default output the token's line,
and leaves every file as it was; with `-write`, a write the file system takes
leaves the token in the joined path, even when the line after it fails. -/
theorem run_of_minted {r : MintWITSVIDRequest Der} {token : String}
    (sent : (c.run lib mint writable stdout files).sent = some r) (answered : mint r = .ok (some token))
    (nonempty : token ≠ "") :
    ((c.run lib mint writable stdout files).result = .ok () ↔
        (c.write = "" ∨ writable (lib.joinPath c.write) = .ok ()) ∧ stdout = .ok ()) ∧
      (c.write = "" → (c.run lib mint writable stdout files).printed.stdout = c.printResponse lib token ∧
        (c.run lib mint writable stdout files).files = files) ∧
      (c.write ≠ "" → writable (lib.joinPath c.write) = .ok () →
        (c.run lib mint writable stdout files).files = Function.update files (lib.joinPath c.write) (some token)) := by
  obtain ⟨warnings, validated⟩ : ∃ warnings, c.validateToken lib token = (warnings, .ok ()) :=
    validateToken_of_ne_empty nonempty
  simp only [MintCommand.run, run_sent_eq_some_iff.1 sent, answered, validated]
  by_cases write : c.write = ""
  · simp [write]
  · rcases written : writable (lib.joinPath c.write) with failure | ⟨⟩ <;> simp [write, written]

theorem run_files_cases :
    (c.run lib mint writable stdout files).files = files ∨
      c.write ≠ "" ∧ ∃ r token left, c.request lib = .ok r ∧ mint r = .ok (some token) ∧ token ≠ "" ∧
        (c.run lib mint writable stdout files).files = Function.update files (lib.joinPath c.write) left := by
  rcases requested : c.request lib with err | r
  · exact .inl (by rw [run_of_request_error requested])
  rcases answered : mint r with err | _ | token
  · exact .inl (by simp only [MintCommand.run, requested, answered])
  · exact .inl (by simp only [MintCommand.run, requested, answered])
  rcases validated : c.validateToken lib token with ⟨warnings, err | ⟨⟩⟩
  · exact .inl (by simp only [MintCommand.run, requested, answered, validated])
  by_cases write : c.write = ""
  · exact .inl (by simp only [MintCommand.run, requested, answered, validated, write, if_true])
  have nonempty := ne_empty_of_validateToken validated
  rcases written : writable (lib.joinPath c.write) with failure | ⟨⟩
  · refine .inr ⟨write, r, token, failure.left, rfl, answered, nonempty, ?_⟩
    simp only [MintCommand.run, requested, answered, validated, write, if_false, written]
  · refine .inr ⟨write, r, token, some token, rfl, answered, nonempty, ?_⟩
    simp only [MintCommand.run, requested, answered, validated, write, if_false, written]

/-- **Only the `-write` file changes, and only after a token.** A file that
`Run` leaves changed is the `-write` file, under a set `-write` flag, after
`Run` sent its request and got back a token that is not empty: no check or call
that fails before leaves a file behind. -/
theorem run_files_changed {path : String} (changed : (c.run lib mint writable stdout files).files path ≠ files path) :
    c.write ≠ "" ∧ path = lib.joinPath c.write ∧
      ∃ r token, (c.run lib mint writable stdout files).sent = some r ∧ mint r = .ok (some token) ∧ token ≠ "" := by
  rcases run_files_cases with same | ⟨write, r, token, left, requested, answered, nonempty, updated⟩
  · exact absurd (congrFun same path) changed
  · refine ⟨write, ?_, r, token, run_sent_of_request_ok requested, answered, nonempty⟩
    by_contra elsewhere
    rw [updated, Function.update_noteq elsewhere] at changed
    exact changed rfl

/-! ## A run -/

/-- A library whose ID parses, whose key is made, and whose tokens all expire
a minute from now. -/
def stubLibrary : Library String Unit String Duration where
  fromString := .ok
  trustDomainName _ := "example.org"
  path _ := "/workload"
  ttlError _ := "value out of range"
  generateSigner := .ok ()
  marshalPKIXPublicKey _ := .ok "public-key"
  expiryClaim _ := .ok (some ⟨60000000000, by decide, by decide⟩)
  timeUntil := id
  formatRFC3339 _ := "2026-01-01T00:01:00Z"
  quote s := "\"" ++ s ++ "\""
  joinPath := id
  responseJSON token := [token ++ "\n"]

/-- `-spiffeID spiffe://example.org/workload -ttl 1h -write token.jwt` -/
def sampleCommand : MintCommand :=
  ⟨"spiffe://example.org/workload", ⟨3600000000000, by decide, by decide⟩, "token.jwt", .pretty⟩

/-- A server that mints every request. -/
def sampleMint (_ : MintWITSVIDRequest String) : Except String (Option String) := .ok (some "header.claims.signature")

/-- The request `sampleCommand` sends: the TTL of an hour in seconds. -/
def sampleRequest : MintWITSVIDRequest String := ⟨"example.org", "/workload", "public-key", 3600⟩

theorem sample_token_written :
    (sampleCommand.run stubLibrary sampleMint (fun _ => .ok ()) (.ok ()) (fun _ => none)).result = .ok () ∧
      (sampleCommand.run stubLibrary sampleMint (fun _ => .ok ()) (.ok ()) (fun _ => none)).files "token.jwt" =
        some "header.claims.signature" := by
  obtain ⟨succeeds, -, written⟩ := @run_of_minted String Unit String Duration stubLibrary sampleCommand sampleMint
    (fun _ => .ok ()) (.ok ()) (fun _ => none) sampleRequest "header.claims.signature" rfl rfl (by decide)
  exact ⟨succeeds.2 ⟨.inr rfl, rfl⟩, (congrFun (written (by decide) rfl) _).trans (Function.update_same _ _ _)⟩

end Spire.WitMint
