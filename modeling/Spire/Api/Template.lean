import Spire.Template.Cli

/-! The server API's conversions of a SPIFFE ID template between its API form,
`types.SPIFFEIDTemplate`, and the form the datastore keeps,
`common.SPIFFEIDTemplate`.

`ProtoToSPIFFEIDTemplate` checks a template received from a client and builds
the stored form: the parent ID must belong to the server's trust domain, each
federated trust domain must parse and is kept as its ID string
(`spiffe://name`), and the selectors must be there and parse.
`SPIFFEIDTemplateToProto` builds the API form back, parsing the stored parent
ID and federated trust domains again and giving each trust domain by its name.

The calls these make outside `src/`, into go-spiffe and the rest of the `api`
package, are the `Library` argument, over go-spiffe's trust domain and ID
types. `Library.Lawful` states what the conversions rely on of them: what they
print, they parse back. -/
namespace Spire.Api

open Spire.Template (SPIFFEID Selector SPIFFEIDTemplate)

/-- `common.Selector` -/
structure Common.Selector where
  type : String
  value : String
  deriving DecidableEq, Repr

/-- `common.SPIFFEIDTemplate` -/
structure Common.SPIFFEIDTemplate where
  templateId : String
  /-- `ParentId`, an ID string -/
  parentId : String
  spiffeIdTemplate : String
  /-- `FederatesWith`, trust domain ID strings -/
  federatesWith : List String
  selectors : List Common.Selector
  revisionNumber : Int
  x509SvidTtl : Int
  jwtSvidTtl : Int
  createdAt : Int
  deriving DecidableEq, Repr

/-- The code outside `src/` that the conversions call, over go-spiffe's
`spiffeid.TrustDomain` and `spiffeid.ID`. -/
structure Library (TrustDomain ID : Type) where
  /-- `TrustDomainMemberIDFromProto(ctx, td, protoID)`; `none` is a `nil` ID. -/
  trustDomainMemberIDFromProto : TrustDomain → Option SPIFFEID → Except String ID
  /-- `id.String()` -/
  idString : ID → String
  /-- `spiffeid.FromString(s)` -/
  fromString : String → Except String ID
  /-- `ProtoFromID(id)` -/
  protoFromID : ID → SPIFFEID
  /-- `spiffeid.TrustDomainFromString(s)` -/
  trustDomainFromString : String → Except String TrustDomain
  /-- `td.IDString()` -/
  trustDomainIDString : TrustDomain → String
  /-- `td.Name()` -/
  trustDomainName : TrustDomain → String
  /-- `SelectorsFromProto(selectors)` -/
  selectorsFromProto : List Selector → Except String (List Common.Selector)
  /-- `ProtoFromSelectors(selectors)` -/
  protoFromSelectors : List Common.Selector → List Selector

variable {TrustDomain ID : Type} (lib : Library TrustDomain ID)

/-- The `for` loops of both conversions over federated trust domains: each
string parsed as a trust domain and printed with `print`, up to the first that
does not parse. -/
def convertTrustDomains (print : TrustDomain → String) (trustDomains : List String) : Except String (List String) :=
  trustDomains.mapM fun s =>
    ((lib.trustDomainFromString s).map print).mapError ("invalid federated trust domain: " ++ ·)

/-- The loop of `ProtoToSPIFFEIDTemplate` over `tmpl.FederatesWith`: each trust
domain as its ID string. -/
def federatesWithFromProto (names : List String) : Except String (List String) :=
  convertTrustDomains lib lib.trustDomainIDString names

/-- `ProtoToSPIFFEIDTemplate(ctx, td, tmpl)`; `none` is a `nil` template. -/
def protoToSPIFFEIDTemplate (td : TrustDomain) : Option SPIFFEIDTemplate → Except String Common.SPIFFEIDTemplate
  | none => .error "missing template"
  | some tmpl => do
    let parentID ← (lib.trustDomainMemberIDFromProto td tmpl.parentId).mapError ("invalid parent ID: " ++ ·)
    let federatesWith ← federatesWithFromProto lib tmpl.federatesWith
    if tmpl.selectors.length = 0 then throw "selector list is empty"
    let selectors ← lib.selectorsFromProto tmpl.selectors
    pure
      { templateId := tmpl.id, parentId := lib.idString parentID, spiffeIdTemplate := tmpl.spiffeIdTemplate,
        federatesWith, selectors, revisionNumber := tmpl.revisionNumber, x509SvidTtl := tmpl.x509SvidTtl,
        jwtSvidTtl := tmpl.jwtSvidTtl, createdAt := 0 }

/-- The loop of `SPIFFEIDTemplateToProto` over `t.FederatesWith`: each trust
domain by its name. -/
def federatesWithToProto (trustDomainIDs : List String) : Except String (List String) :=
  convertTrustDomains lib lib.trustDomainName trustDomainIDs

/-- `SPIFFEIDTemplateToProto(t)`; `none` is a `nil` template. -/
def spiffeIDTemplateToProto : Option Common.SPIFFEIDTemplate → Except String SPIFFEIDTemplate
  | none => .error "missing template"
  | some t => do
    let parentID ← (lib.fromString t.parentId).mapError ("invalid parent ID: " ++ ·)
    let federatesWith ← federatesWithToProto lib t.federatesWith
    pure
      { id := t.templateId, spiffeIdTemplate := t.spiffeIdTemplate, parentId := some (lib.protoFromID parentID),
        selectors := lib.protoFromSelectors t.selectors, x509SvidTtl := t.x509SvidTtl, jwtSvidTtl := t.jwtSvidTtl,
        federatesWith, revisionNumber := t.revisionNumber, createdAt := t.createdAt }

/-- What the conversions rely on of go-spiffe and the `api` package: an ID or
a trust domain printed parses back to itself, a member ID's proto is again a
member ID, and selectors convert one by one, and back. -/
structure Library.Lawful : Prop where
  fromString_idString : ∀ id, lib.fromString (lib.idString id) = .ok id
  memberID_protoFromID : ∀ td parent id,
    lib.trustDomainMemberIDFromProto td parent = .ok id →
      lib.trustDomainMemberIDFromProto td (some (lib.protoFromID id)) = .ok id
  trustDomainFromString_idString : ∀ d, lib.trustDomainFromString (lib.trustDomainIDString d) = .ok d
  trustDomainFromString_name : ∀ d, lib.trustDomainFromString (lib.trustDomainName d) = .ok d
  selectorsFromProto_length : ∀ selectors converted,
    lib.selectorsFromProto selectors = .ok converted → converted.length = selectors.length
  protoFromSelectors_length : ∀ selectors, (lib.protoFromSelectors selectors).length = selectors.length
  selectorsFromProto_protoFromSelectors : ∀ selectors converted,
    lib.selectorsFromProto selectors = .ok converted →
      lib.selectorsFromProto (lib.protoFromSelectors converted) = .ok converted

end Spire.Api
