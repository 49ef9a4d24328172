import Spire.WitMint.Ttl
import Spire.Template.Cli

/-! `spire-server wit mint`: `mintCommand.Run`, `validateToken`,
`getWITSVIDEndOfLife` and `prettyPrintMint`.

`Run` checks the `-spiffeID` flag, parses it, converts `-ttl` with
`ttlToSeconds`, makes a key pair and asks the server to mint a WIT-SVID for the
public key. It then checks the token it got and prints the response with the
printer the `-output` flag chose, or writes the token to the `-write` file and
prints where. Key generation, the parsing of the ID and of the token, the
clock, the path joining, the JSON printer and the printing of values are
outside `src/` and are the `Library` argument; the server's answer, the file
system's answer and standard output's answer are arguments of `run`: each path
through `Run` writes to standard output at most once, and returns that write's
error. The state is what each file holds: `WritePrivateFile` truncates its file
before it writes, so a failed write leaves the file with whatever the attempt
left. -/
namespace Spire.WitMint

open Spire.Template (OutputFormat Printed)

/-- `mintCommand`'s flags. -/
structure MintCommand where
  spiffeID : String
  ttl : Duration
  write : String
  /-- `printer`, by the `-output` flag -/
  output : OutputFormat

/-- `svidv1.MintWITSVIDRequest`. -/
structure MintWITSVIDRequest (Der : Type) where
  trustDomain : String
  path : String
  publicKey : Der
  ttl : Int

/-- The code outside `src/` that the command calls. -/
structure Library (ID Signer Der Time : Type) where
  /-- `spiffeid.FromString` -/
  fromString : String → Except String ID
  /-- `id.TrustDomain().Name()` -/
  trustDomainName : ID → String
  /-- `id.Path()` -/
  path : ID → String
  /-- the error `ttlToSeconds` returns, from `util.CheckedCast` -/
  ttlError : Duration → String
  /-- `keymanager.ECP256.GenerateSigner()` -/
  generateSigner : Except String Signer
  /-- `x509.MarshalPKIXPublicKey(signer.Public())` -/
  marshalPKIXPublicKey : Signer → Except String Der
  /-- `jwt.ParseSigned` and `UnsafeClaimsWithoutVerification`: their error, or
  the `Expiry` claim, `nil` when absent -/
  expiryClaim : String → Except String (Option Time)
  /-- `time.Until` -/
  timeUntil : Time → Duration
  /-- `eol.UTC().Format(time.RFC3339)` -/
  formatRFC3339 : Time → String
  /-- `%q` -/
  quote : String → String
  /-- `env.JoinPath` -/
  joinPath : String → String
  /-- the lines the JSON printer writes for a `MintWITSVIDResponse` whose
  WIT-SVID carries the token -/
  responseJSON : String → List String

variable {ID Signer Der Time : Type} (lib : Library ID Signer Der Time)

/-- `getWITSVIDEndOfLife(token)`. -/
def getWITSVIDEndOfLife (token : String) : Except String Time := do
  match ← lib.expiryClaim token with
  | none => throw "no expiry claim"
  | some expiry => pure expiry

/-- The warning `validateToken` prints when the token expires before `-ttl` has passed. -/
def cappedWarning (eol : Time) : String :=
  "WIT-SVID lifetime was capped shorter than specified ttl; expires " ++ lib.quote (lib.formatRFC3339 eol) ++ "\n"

/-- `c.validateToken(token, env)`: the lines it prints on standard error, and its result. -/
def MintCommand.validateToken (c : MintCommand) (token : String) : List String × Except String Unit :=
  if token = "" then ([], .error "server response missing token")
  else
    match getWITSVIDEndOfLife lib token with
    | .error err => (["Unable to determine WIT-SVID lifetime: " ++ err ++ "\n"], .ok ())
    | .ok eol => (if (lib.timeUntil eol).ns < c.ttl.ns then [cappedWarning lib eol] else [], .ok ())

/-- What a run of `mintCommand.Run` did: what it printed, the request it sent
the server, the files it left, and its result. -/
structure MintRun (Der : Type) where
  printed : Printed
  sent : Option (MintWITSVIDRequest Der)
  files : String → Option String
  result : Outcome String Unit

/-- A failed `diskutil.WritePrivateFile` call: its error, and what the file
holds after it. -/
structure WriteFailure where
  err : String
  left : Option String

/-- The steps of `c.Run` before it calls the server: the request it sends, or
the error that stops it. -/
def MintCommand.request (c : MintCommand) : Except String (MintWITSVIDRequest Der) :=
  if c.spiffeID = "" then .error "spiffeID must be specified"
  else
    match lib.fromString c.spiffeID with
    | .error err => .error err
    | .ok spiffeID =>
      match ttlToSeconds c.ttl with
      | none => .error ("invalid value for TTL: " ++ lib.ttlError c.ttl)
      | some ttl =>
        match lib.generateSigner with
        | .error err => .error ("could not generate public/private key pair: " ++ err)
        | .ok signer =>
          match lib.marshalPKIXPublicKey signer with
          | .error err => .error ("could not marshal public/private key pair: " ++ err)
          | .ok publicKeyDer => .ok ⟨lib.trustDomainName spiffeID, lib.path spiffeID, publicKeyDer, ttl⟩

/-- What `c.printer.PrintProto(resp)` writes for a response whose WIT-SVID
carries `token`: the line of `prettyPrintMint` under the default
`-output pretty`, or the response as JSON. -/
def MintCommand.printResponse (c : MintCommand) (token : String) : List String :=
  match c.output with
  | .pretty => [token ++ "\n"]
  | .json => lib.responseJSON token

/-- `c.Run(ctx, env, serverClient)`, given the server's answer to
`MintWITSVID` (the response's `Svid`, `nil` as `none`), the file system's
answer to a write of each path, and standard output's answer to the write of
`PrintProto` or of `env.Printf`. -/
def MintCommand.run (mint : MintWITSVIDRequest Der → Except String (Option String))
    (writable : String → Except WriteFailure Unit) (stdout : Except String Unit) (files : String → Option String)
    (c : MintCommand) : MintRun Der :=
  match c.request lib with
  | .error err => ⟨⟨[], []⟩, none, files, .error err⟩
  | .ok request =>
    match mint request with
    | .error err => ⟨⟨[], []⟩, some request, files, .error ("unable to mint SVID: " ++ err)⟩
    | .ok none => ⟨⟨[], []⟩, some request, files, .panicked nilDereference⟩
    | .ok (some token) =>
      match c.validateToken lib token with
      | (warnings, .error err) => ⟨⟨[], warnings⟩, some request, files, .error err⟩
      | (warnings, .ok ()) =>
        if c.write = "" then ⟨⟨c.printResponse lib token, warnings⟩, some request, files, .ofExcept stdout⟩
        else
          let tokenPath := lib.joinPath c.write
          match writable tokenPath with
          | .error failure =>
            ⟨⟨[], warnings⟩, some request, Function.update files tokenPath failure.left,
              .error ("unable to write token: " ++ failure.err)⟩
          | .ok () =>
            ⟨⟨["WIT-SVID written to " ++ tokenPath ++ "\n"], warnings⟩, some request,
              Function.update files tokenPath (some token), .ofExcept stdout⟩

end Spire.WitMint
