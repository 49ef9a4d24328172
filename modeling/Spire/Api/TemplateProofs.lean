import Spire.Api.Template
import Spire.Except

/-! What the datastore keeps of a template, and what the API gives back of it.

A template that `protoToSPIFFEIDTemplate` accepts is stored with its parent ID
and federated trust domains as ID strings, and without its creation time.
Given back through `spiffeIDTemplateToProto`, it returns with the same ID,
SPIFFE ID template, revision and TTLs, its parent ID and selectors as the
library converts them, its trust domains by name, and a creation time of 0
(`spiffeIDTemplateToProto_of_stored`). What comes back is accepted again and
stored as it was (`stored_template_round_trip`): a stored template is a fixed
point of the round trip through the API. -/
namespace Spire.Api

open Spire.Template (SPIFFEID Selector SPIFFEIDTemplate)

variable {TrustDomain ID : Type} (lib : Library TrustDomain ID)

/-- The trust domains each string parses to. -/
abbrev ParsedTrustDomains (names : List String) (domains : List TrustDomain) : Prop :=
  List.Forall₂ (fun s d => lib.trustDomainFromString s = .ok d) names domains

theorem convertTrustDomains_eq_ok_iff {print : TrustDomain → String} {names out : List String} :
    convertTrustDomains lib print names = .ok out ↔
      ∃ domains, ParsedTrustDomains lib names domains ∧ out = domains.map print := by
  rw [convertTrustDomains, mapM_eq_ok_iff]
  simp only [mapError_eq_ok, map_eq_ok]
  induction names generalizing out with
  | nil => simp [eq_comm]
  | cons name rest ih =>
    simp only [List.forall₂_cons_left_iff, ih]
    constructor
    · rintro ⟨x, xs, ⟨d, parsed, rfl⟩, ⟨ds, others, rfl⟩, rfl⟩
      exact ⟨d :: ds, ⟨d, ds, parsed, others, rfl⟩, rfl⟩
    · rintro ⟨_, ⟨d, ds, parsed, others, rfl⟩, rfl⟩
      exact ⟨print d, ds.map print, ⟨d, parsed, rfl⟩, ⟨ds, others, rfl⟩, rfl⟩

/-- Trust domains printed in a form that parses back parse to themselves. -/
theorem parsedTrustDomains_map {print : TrustDomain → String}
    (parsesBack : ∀ d, lib.trustDomainFromString (print d) = .ok d) (domains : List TrustDomain) :
    ParsedTrustDomains lib (domains.map print) domains := by
  rw [ParsedTrustDomains, List.forall₂_map_left_iff, List.forall₂_same]
  exact fun d _ => parsesBack d

/-- What `protoToSPIFFEIDTemplate` checks and what it stores. -/
theorem protoToSPIFFEIDTemplate_eq_ok_iff {td : TrustDomain} {tmpl : SPIFFEIDTemplate}
    {t : Common.SPIFFEIDTemplate} :
    protoToSPIFFEIDTemplate lib td (some tmpl) = .ok t ↔
      ∃ parent domains selectors, lib.trustDomainMemberIDFromProto td tmpl.parentId = .ok parent ∧
        ParsedTrustDomains lib tmpl.federatesWith domains ∧ tmpl.selectors ≠ [] ∧
        lib.selectorsFromProto tmpl.selectors = .ok selectors ∧
        t =
          { templateId := tmpl.id, parentId := lib.idString parent, spiffeIdTemplate := tmpl.spiffeIdTemplate,
            federatesWith := domains.map lib.trustDomainIDString, selectors, revisionNumber := tmpl.revisionNumber,
            x509SvidTtl := tmpl.x509SvidTtl, jwtSvidTtl := tmpl.jwtSvidTtl, createdAt := 0 } := by
  constructor
  · intro stored
    obtain ⟨parent, member, stored⟩ := bind_eq_ok stored
    obtain ⟨out, converted, stored⟩ := bind_eq_ok stored
    obtain ⟨domains, parsed, rfl⟩ := (convertTrustDomains_eq_ok_iff lib).1 converted
    dsimp only at stored
    split at stored
    next => cases stored
    next nonempty =>
      obtain ⟨_, -, stored⟩ := bind_eq_ok stored
      obtain ⟨selectors, selected, built⟩ := bind_eq_ok stored
      cases built
      exact ⟨parent, domains, selectors, mapError_eq_ok.1 member, parsed, mt List.length_eq_zero.2 nonempty,
        selected, rfl⟩
  · rintro ⟨parent, domains, selectors, member, parsed, nonempty, selected, rfl⟩
    have converted : federatesWithFromProto lib tmpl.federatesWith = .ok (domains.map lib.trustDomainIDString) :=
      (convertTrustDomains_eq_ok_iff lib).2 ⟨domains, parsed, rfl⟩
    have checked : tmpl.selectors.length ≠ 0 := fun empty => nonempty (List.length_eq_zero.1 empty)
    simp only [protoToSPIFFEIDTemplate, member, converted, checked, selected]
    rfl

/-- What `spiffeIDTemplateToProto` builds of a template whose parent ID and
trust domains parse. -/
theorem spiffeIDTemplateToProto_of_parsed {t : Common.SPIFFEIDTemplate} {parent : ID} {domains : List TrustDomain}
    (parentParsed : lib.fromString t.parentId = .ok parent) (parsed : ParsedTrustDomains lib t.federatesWith domains) :
    spiffeIDTemplateToProto lib (some t) =
      .ok
        { id := t.templateId, spiffeIdTemplate := t.spiffeIdTemplate, parentId := some (lib.protoFromID parent),
          selectors := lib.protoFromSelectors t.selectors, x509SvidTtl := t.x509SvidTtl, jwtSvidTtl := t.jwtSvidTtl,
          federatesWith := domains.map lib.trustDomainName, revisionNumber := t.revisionNumber,
          createdAt := t.createdAt } := by
  have converted : federatesWithToProto lib t.federatesWith = .ok (domains.map lib.trustDomainName) :=
    (convertTrustDomains_eq_ok_iff lib).2 ⟨domains, parsed, rfl⟩
  simp only [spiffeIDTemplateToProto, parentParsed, converted]
  rfl

section Lawful

variable {lib} {td : TrustDomain} {tmpl : SPIFFEIDTemplate} {t : Common.SPIFFEIDTemplate}

/-- **What the API gives back of a template it stores.** A template that
`protoToSPIFFEIDTemplate` accepts comes back from `spiffeIDTemplateToProto`
with its ID, SPIFFE ID template, revision and TTLs. Its parent ID is the proto
of the member ID it named, its selectors are the protos of their conversion,
its trust domains are given by name, and its creation time is 0, whatever the
client sent. -/
theorem spiffeIDTemplateToProto_of_stored (lawful : lib.Lawful)
    (stored : protoToSPIFFEIDTemplate lib td (some tmpl) = .ok t) :
    ∃ parent domains selectors, lib.trustDomainMemberIDFromProto td tmpl.parentId = .ok parent ∧
      ParsedTrustDomains lib tmpl.federatesWith domains ∧ lib.selectorsFromProto tmpl.selectors = .ok selectors ∧
      spiffeIDTemplateToProto lib (some t) =
        .ok
          { tmpl with
            parentId := some (lib.protoFromID parent), federatesWith := domains.map lib.trustDomainName,
            selectors := lib.protoFromSelectors selectors, createdAt := 0 } := by
  obtain ⟨parent, domains, selectors, member, parsed, -, selected, rfl⟩ :=
    (protoToSPIFFEIDTemplate_eq_ok_iff lib).1 stored
  refine ⟨parent, domains, selectors, member, parsed, selected, ?_⟩
  exact spiffeIDTemplateToProto_of_parsed lib (lawful.fromString_idString parent)
    (parsedTrustDomains_map lib lawful.trustDomainFromString_idString domains)

/-- **A stored template survives the round trip through the API.** What
`spiffeIDTemplateToProto` gives back of a template `protoToSPIFFEIDTemplate`
stored is accepted again, in the same trust domain, and stored exactly as it
was. -/
theorem stored_template_round_trip (lawful : lib.Lawful)
    (stored : protoToSPIFFEIDTemplate lib td (some tmpl) = .ok t) :
    ∃ tmpl', spiffeIDTemplateToProto lib (some t) = .ok tmpl' ∧ protoToSPIFFEIDTemplate lib td (some tmpl') = .ok t := by
  obtain ⟨parent, domains, selectors, member, parsed, nonempty, selected, rfl⟩ :=
    (protoToSPIFFEIDTemplate_eq_ok_iff lib).1 stored
  refine ⟨_, spiffeIDTemplateToProto_of_parsed lib (lawful.fromString_idString parent)
    (parsedTrustDomains_map lib lawful.trustDomainFromString_idString domains), ?_⟩
  have sent : lib.protoFromSelectors selectors ≠ [] := by
    rw [← List.length_pos, lawful.protoFromSelectors_length, lawful.selectorsFromProto_length _ _ selected,
      List.length_pos]
    exact nonempty
  exact (protoToSPIFFEIDTemplate_eq_ok_iff lib).2
    ⟨parent, domains, selectors, lawful.memberID_protoFromID td _ parent member,
      parsedTrustDomains_map lib lawful.trustDomainFromString_name domains, sent,
      lawful.selectorsFromProto_protoFromSelectors _ _ selected, rfl⟩

end Lawful

/-- A library for concrete runs, for the one trust domain `example.org`: an ID
is its path, a trust domain its name, and selectors convert field by field. -/
def stubLibrary : Library String String where
  trustDomainMemberIDFromProto td
    | some id => if td = "example.org" ∧ id.trustDomain = td then .ok id.path else .error "not a member"
    | none => .error "request must specify SPIFFE ID"
  idString path := path
  fromString path := .ok path
  protoFromID path := ⟨"example.org", path⟩
  trustDomainFromString name := .ok name
  trustDomainIDString name := name
  trustDomainName name := name
  selectorsFromProto selectors := .ok (selectors.map fun s => ⟨s.type, s.value⟩)
  protoFromSelectors selectors := selectors.map fun s => ⟨s.type, s.value⟩

theorem stubLibrary_lawful : stubLibrary.Lawful where
  fromString_idString _ := rfl
  memberID_protoFromID td parent id member := by
    cases parent with
    | none => cases member
    | some p =>
      simp only [stubLibrary] at member ⊢
      split_ifs at member with inDomain
      cases member
      simp [inDomain.1]
  trustDomainFromString_idString _ := rfl
  trustDomainFromString_name _ := rfl
  selectorsFromProto_length _ _ converted := by
    cases converted
    simp
  protoFromSelectors_length _ := by simp [stubLibrary]
  selectorsFromProto_protoFromSelectors _ _ converted := by
    cases converted
    simp [stubLibrary, Function.comp_def]

/-- A template a client sends: a workload under `/node`, federated with
`example.net`. -/
def sampleTemplate : SPIFFEIDTemplate :=
  { id := "t1", parentId := some ⟨"example.org", "/node"⟩, spiffeIdTemplate := "/workload", revisionNumber := 2,
    x509SvidTtl := 3600, jwtSvidTtl := 300, selectors := [⟨"unix", "uid:1000"⟩], federatesWith := ["example.net"],
    createdAt := 1700000000 }

/-- What the datastore keeps of `sampleTemplate`. -/
def sampleStored : Common.SPIFFEIDTemplate :=
  { templateId := "t1", parentId := "/node", spiffeIdTemplate := "/workload", federatesWith := ["example.net"],
    selectors := [⟨"unix", "uid:1000"⟩], revisionNumber := 2, x509SvidTtl := 3600, jwtSvidTtl := 300,
    createdAt := 0 }

/-- `sampleTemplate` comes back without its creation time. -/
theorem sample_returned :
    protoToSPIFFEIDTemplate stubLibrary "example.org" (some sampleTemplate) = .ok sampleStored ∧
      ∃ parent domains selectors, stubLibrary.trustDomainMemberIDFromProto "example.org" sampleTemplate.parentId =
          .ok parent ∧ ParsedTrustDomains stubLibrary sampleTemplate.federatesWith domains ∧
        stubLibrary.selectorsFromProto sampleTemplate.selectors = .ok selectors ∧
        spiffeIDTemplateToProto stubLibrary (some sampleStored) =
          .ok
            { sampleTemplate with
              parentId := some (stubLibrary.protoFromID parent), federatesWith := domains.map stubLibrary.trustDomainName,
              selectors := stubLibrary.protoFromSelectors selectors, createdAt := 0 } :=
  have stored : protoToSPIFFEIDTemplate stubLibrary "example.org" (some sampleTemplate) = .ok sampleStored := rfl
  ⟨stored, spiffeIDTemplateToProto_of_stored stubLibrary_lawful stored⟩

/-- `sampleStored` survives the round trip through the API. -/
theorem sample_round_trip :
    protoToSPIFFEIDTemplate stubLibrary "example.org" (some sampleTemplate) = .ok sampleStored ∧
      ∃ tmpl', spiffeIDTemplateToProto stubLibrary (some sampleStored) = .ok tmpl' ∧
        protoToSPIFFEIDTemplate stubLibrary "example.org" (some tmpl') = .ok sampleStored :=
  have stored : protoToSPIFFEIDTemplate stubLibrary "example.org" (some sampleTemplate) = .ok sampleStored := rfl
  ⟨stored, stored_template_round_trip stubLibrary_lawful stored⟩

end Spire.Api
