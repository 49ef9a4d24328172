import Mathlib.Algebra.Group.Int
import Spire.Runtime

/-! The `show` and `create` commands of the SPIFFE ID template CLI, and the
helpers of `util.go` they share.

`showCommand.Run` checks its flags and lists every template with
`fetchEntries`. That function asks the server for page after page, each
request carrying the page token of the answer before it, and collects the
templates until an answer's next-page token is empty. The Go loop has no bound.
The model gives it `fuel`, the number of calls it may still make, and `none`
means the loop has not ended within them. The server's answers are an argument:
the answer to each call, indexed by the call's place in the listing, so the
server may change between calls.

`createCommand.Run` checks its flags, builds one template from them
(`parseConfig`), sends it with `createTemplates`, which fills in the request's
template for every result that failed, and prints the response with the
printer the `-output` flag chose: `prettyPrintCreate` by default, or the
response as JSON. The calls these make outside `src/` are the `Library`
argument: `spiffeid.FromString`, `serverutil.ParseSelector`, the error
`util.CheckedCast[int32]` returns, the text and the panic of
`util.MustCast[codes.Code]`, Go's `%q` quoting and the JSON printer.

A Go runtime panic is an outcome (`Spire.Outcome`): a `nil` status
dereferenced in `createTemplates` or `prettyPrintCreate`, the index out of
range in `createTemplates`, the `nil` template dereferenced in
`printTemplate`, and `MustCast` on a negative status code. -/
namespace Spire.Template

/-- `listEntriesRequestPageSize` -/
def listEntriesRequestPageSize : Int := 500

/-- `types.SPIFFEID` -/
structure SPIFFEID where
  trustDomain : String
  path : String
  deriving DecidableEq, Repr

/-- `types.Selector` -/
structure Selector where
  type : String
  value : String
  deriving DecidableEq, Repr

/-- `types.SPIFFEIDTemplate`, with the fields the commands and the server API read or write. -/
structure SPIFFEIDTemplate where
  id : String
  /-- `ParentId`; `none` is a `nil` pointer. -/
  parentId : Option SPIFFEID
  spiffeIdTemplate : String
  revisionNumber : Int
  /-- `X509SvidTtl`, an `int32` -/
  x509SvidTtl : Int
  /-- `JwtSvidTtl`, an `int32` -/
  jwtSvidTtl : Int
  selectors : List Selector
  federatesWith : List String
  /-- `CreatedAt`, in seconds since the epoch -/
  createdAt : Int
  deriving DecidableEq, Repr

/-- `types.Status` -/
structure Status where
  /-- `Code`, an `int32`; `codes.OK` is 0. -/
  code : Int
  message : String
  deriving DecidableEq, Repr

/-- `entryv1.BatchCreateSPIFFEIDTemplateResponse_Result` -/
structure CreateResult where
  /-- `Status`; `none` is a `nil` pointer. -/
  status : Option Status
  /-- `Template`; `none` is a `nil` pointer. -/
  template : Option SPIFFEIDTemplate
  deriving DecidableEq, Repr

/-! ## `util.go` -/

/-- `printableID(id)` -/
def printableID (id : String) : String := if id = "" then "(none)" else id

/-- `protoToIDString(id)` -/
def protoToIDString : Option SPIFFEID → String
  | none => ""
  | some id => "spiffe://" ++ id.trustDomain ++ id.path

/-- `printTemplate(t, printf)`: the text of each `printf` call, in order. -/
def printTemplate (t : SPIFFEIDTemplate) : List String :=
  ["ID         \t\t: " ++ printableID t.id ++ "\n",
    "SPIFFE ID Template \t: " ++ t.spiffeIdTemplate ++ "\n",
    "Parent ID          \t: " ++ protoToIDString t.parentId ++ "\n",
    "Revision           \t: " ++ toString t.revisionNumber ++ "\n",
    if t.x509SvidTtl = 0 then "X509-SVID TTL    \t: default\n"
    else "X509-SVID TTL    \t: " ++ toString t.x509SvidTtl ++ "\n",
    if t.jwtSvidTtl = 0 then "JWT-SVID TTL     \t: default\n"
    else "JWT-SVID TTL     \t: " ++ toString t.jwtSvidTtl ++ "\n"] ++
  t.selectors.map (fun s => "Selector         \t: " ++ s.type ++ ":" ++ s.value ++ "\n") ++
  t.federatesWith.map (fun id => "FederatesWith    \t: " ++ id ++ "\n") ++
  ["\n"]

/-- `printTemplate` on a template pointer: `t.Id` panics on a `nil` one before
anything is printed. -/
def printTemplatePtr : Option SPIFFEIDTemplate → Except String (List String)
  | none => .error nilDereference
  | some t => .ok (printTemplate t)

/-- The code outside `src/` that the commands call. -/
structure Library where
  /-- `spiffeid.FromString(id)`, as the trust domain's name and the path -/
  fromString : String → Except String SPIFFEID
  /-- `serverutil.ParseSelector(s)` -/
  parseSelector : String → Except String Selector
  /-- the error `util.CheckedCast[int32](v)` returns when an `int32` cannot hold `v` -/
  castError : Int → String
  /-- `codes.Code(c).String()` -/
  codeString : Int → String
  /-- the panic of `util.MustCast[codes.Code](c)` for a code a `uint32` cannot hold -/
  mustCastPanic : Int → String
  /-- Go's `%q` -/
  quote : String → String
  /-- the lines the JSON printer writes for a `BatchCreateSPIFFEIDTemplateResponse` -/
  responseJSON : List CreateResult → List String

variable (lib : Library)

/-- `idStringToProto(id)` -/
def idStringToProto (id : String) : Except String SPIFFEID :=
  match lib.fromString id with
  | .error err => .error err
  | .ok idType => .ok ⟨idType.trustDomain, idType.path⟩

/-- `util.CheckedCast[int32](v)` -/
def checkedCastInt32 (v : Int) : Except String Int :=
  if -2 ^ 31 ≤ v ∧ v < 2 ^ 31 then .ok v else .error (lib.castError v)

/-! ## `show` -/

/-- `entryv1.ListSPIFFEIDTemplatesRequest` -/
structure ListRequest where
  pageSize : Int
  pageToken : String
  deriving DecidableEq, Repr

/-- `entryv1.ListSPIFFEIDTemplatesResponse` -/
structure ListResponse where
  templates : List SPIFFEIDTemplate
  nextPageToken : String
  deriving DecidableEq, Repr

/-- The server's answer to each `ListSPIFFEIDTemplates` call of a listing, by
the call's place in it (from 0) and the request. -/
abbrev ListCalls := Nat → ListRequest → Except String ListResponse

/-- The `for` loop of `fetchEntries` from its `call`-th iteration on, with the
page token to send and the templates collected so far. It may make `fuel` more
calls; `none` is a loop that has not ended within them. -/
def fetchEntriesLoop (list : ListCalls) : Nat → Nat → String → List SPIFFEIDTemplate →
    Option (Except String ListResponse)
  | 0, _, _, _ => none
  | fuel + 1, call, pageToken, templates =>
    match list call ⟨listEntriesRequestPageSize, pageToken⟩ with
    | .error err => some (.error ("error fetching entries: " ++ err))
    | .ok resp =>
      if resp.nextPageToken = "" then some (.ok ⟨templates ++ resp.templates, ""⟩)
      else fetchEntriesLoop list fuel (call + 1) resp.nextPageToken (templates ++ resp.templates)

/-- `fetchEntries(ctx, client)`, within `fuel` calls. -/
def fetchEntries (list : ListCalls) (fuel : Nat) : Option (Except String ListResponse) :=
  fetchEntriesLoop list fuel 0 "" []

/-- `showCommand`'s flags that it reads: only `validate` reads any. -/
structure ShowCommand where
  selectors : List String
  templateID : String
  parentID : String

/-- `showCommand.validate()` -/
def ShowCommand.validate (c : ShowCommand) : Option String :=
  if c.templateID ≠ "" then
    if c.parentID ≠ "" ∨ c.selectors.length > 0 then some "the -templateID flag can't be combined with others"
    else none
  else none

/-- `showCommand.Run`: the response it prints, or its error, within `fuel`
calls of the listing. -/
def ShowCommand.run (c : ShowCommand) (list : ListCalls) (fuel : Nat) : Option (Except String ListResponse) :=
  match c.validate with
  | some err => some (.error err)
  | none => fetchEntries list fuel

/-- `printTemplates(templates, env)`, given `util.Pluralizer`: the lines printed. -/
def printTemplates (pluralizer : String → String → String → Nat → String) (templates : List SPIFFEIDTemplate) :
    List String :=
  (pluralizer ("Found " ++ toString templates.length ++ " ") "entry" "templates" templates.length ++ "\n") ::
    templates.flatMap printTemplate

/-! ## `create` -/

/-- The printer `cliprinter` sets from the `-output` flag. -/
inductive OutputFormat where
  | pretty
  | json
  deriving DecidableEq, Repr

/-- `createCommand`'s flags that it reads. -/
structure CreateCommand where
  path : String
  selectors : List String
  templateID : String
  parentID : String
  spiffeIDTemplate : String
  /-- `x509SVIDTTL`, an `int` -/
  x509SVIDTTL : Int
  /-- `jwtSVIDTTL`, an `int` -/
  jwtSVIDTTL : Int
  federatesWith : List String
  /-- `printer`, by the `-output` flag -/
  output : OutputFormat
  deriving DecidableEq, Repr

/-- `createCommand.validate()` -/
def CreateCommand.validate (c : CreateCommand) : Option String :=
  if c.path ≠ "" then none
  else if c.selectors.length < 1 ∧ c.spiffeIDTemplate.length = 0 then some "at least one selector is required"
  else if c.parentID = "" then some "a parent ID is required if the node flag is not set"
  else if c.spiffeIDTemplate = "" then some "a SPIFFE ID is required"
  else if c.x509SVIDTTL < 0 then some "a positive x509-SVID TTL is required"
  else if c.jwtSVIDTTL < 0 then some "a positive JWT-SVID TTL is required"
  else none

/-- `createCommand.parseConfig()` -/
def CreateCommand.parseConfig (c : CreateCommand) : Except String (List SPIFFEIDTemplate) := do
  let parentID ← idStringToProto lib c.parentID
  let x509SvidTTL ← (checkedCastInt32 lib c.x509SVIDTTL).mapError ("invalid value for X509 SVID TTL: " ++ ·)
  let jwtSvidTTL ← (checkedCastInt32 lib c.jwtSVIDTTL).mapError ("invalid value for JWT SVID TTL: " ++ ·)
  let selectors ← c.selectors.mapM lib.parseSelector
  pure
    [{ id := c.templateID, parentId := some parentID, spiffeIdTemplate := c.spiffeIDTemplate, revisionNumber := 0,
        x509SvidTtl := x509SvidTTL, jwtSvidTtl := jwtSvidTTL, selectors, federatesWith := c.federatesWith,
        createdAt := 0 }]

/-- The loop of `createTemplates` from the `i`-th result on: `r.Status.Code`
panics on a `nil` status, a failed result gets the request's `i`-th template,
and indexing past the request panics. -/
def patchResults (templates : List SPIFFEIDTemplate) : Nat → List CreateResult → Outcome String (List CreateResult)
  | _, [] => .ok []
  | i, r :: rest =>
    match r.status with
    | none => .panicked nilDereference
    | some status =>
      if status.code ≠ 0 then
        match templates[i]? with
        | none => .panicked (indexOutOfRange i templates.length)
        | some t => (patchResults templates (i + 1) rest).map ({ r with template := some t } :: ·)
      else (patchResults templates (i + 1) rest).map (r :: ·)

/-- `createTemplates(ctx, c, templates)`, given the server's answer to
`BatchCreateSPIFFEIDTemplate`. -/
def createTemplates (batchCreate : List SPIFFEIDTemplate → Except String (List CreateResult))
    (templates : List SPIFFEIDTemplate) : Outcome String (List CreateResult) :=
  match batchCreate templates with
  | .error err => .error err
  | .ok results => patchResults templates 0 results

/-- What a command prints on standard output and standard error. -/
structure Printed where
  stdout : List String
  stderr : List String
  deriving DecidableEq, Repr

/-- The first loop of `prettyPrintCreate`: the switch on `r.Status.Code` that
sorts the results into the succeeded and the failed ones, in order, or the
panic of a `nil` status. -/
def sortResults : List CreateResult → Except String (List CreateResult × List CreateResult)
  | [] => .ok ([], [])
  | r :: rest =>
    match r.status with
    | none => .error nilDereference
    | some status =>
      (sortResults rest).map fun (succeeded, failed) =>
        if status.code = 0 then (r :: succeeded, failed) else (succeeded, r :: failed)

/-- The second loop of `prettyPrintCreate`: each succeeded result's template
on standard output, up to a panic. -/
def printSucceeded : List CreateResult → List String × Option String
  | [] => ([], none)
  | r :: rest =>
    match printTemplatePtr r.template with
    | .error reason => ([], some reason)
    | .ok lines =>
      let (more, panic) := printSucceeded rest
      (lines ++ more, panic)

/-- The line `prettyPrintCreate` prints on standard error before a failed
result's template. -/
def failedHeader (status : Status) : String :=
  "Failed to create the following entry (code: " ++ lib.codeString status.code ++ ", msg: " ++
    lib.quote status.message ++ "):\n"

/-- The third loop of `prettyPrintCreate`: each failed result's header and
template on standard error, up to a panic. The header's arguments read
`r.Status` again, and `MustCast` panics while they are evaluated, before
anything is printed. -/
def printFailed : List CreateResult → List String × Option String
  | [] => ([], none)
  | r :: rest =>
    match r.status with
    | none => ([], some nilDereference)
    | some status =>
      if status.code < 0 then ([], some (lib.mustCastPanic status.code))
      else
        match printTemplatePtr r.template with
        | .error reason => ([failedHeader lib status], some reason)
        | .ok lines =>
          let (more, panic) := printFailed rest
          (failedHeader lib status :: lines ++ more, panic)

/-- `prettyPrintCreate(env, resp)`: what it prints, and its result. -/
def prettyPrintCreate (results : List CreateResult) : Printed × Outcome String Unit :=
  match sortResults results with
  | .error reason => (⟨[], []⟩, .panicked reason)
  | .ok (succeeded, failed) =>
    match printSucceeded succeeded with
    | (out, some reason) => (⟨out, []⟩, .panicked reason)
    | (out, none) =>
      match printFailed lib failed with
      | (err, some reason) => (⟨out, err⟩, .panicked reason)
      | (err, none) =>
        (⟨out, err⟩, if failed.length > 0 then .error "failed to create one or more entries" else .ok ())

/-- `createCommand.Run`, given the server's answer to
`BatchCreateSPIFFEIDTemplate` and standard output's answer to the JSON
printer's write. `c.printer.PrintProto(resp)` calls `prettyPrintCreate` under
the default `-output pretty`; under `-output json` it writes the response as
JSON and returns the write's error. -/
def CreateCommand.run (batchCreate : List SPIFFEIDTemplate → Except String (List CreateResult))
    (stdout : Except String Unit) (c : CreateCommand) : Printed × Outcome String Unit :=
  match c.validate with
  | some err => (⟨[], []⟩, .error err)
  | none =>
    match c.parseConfig lib with
    | .error err => (⟨[], []⟩, .error err)
    | .ok templates =>
      match createTemplates batchCreate templates with
      | .error err => (⟨[], []⟩, .error err)
      | .panicked reason => (⟨[], []⟩, .panicked reason)
      | .ok results =>
        match c.output with
        | .pretty => prettyPrintCreate lib results
        | .json =>
          (⟨lib.responseJSON results, []⟩, .ofExcept stdout)

end Spire.Template
