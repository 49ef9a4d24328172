import Spire.Template.Cli
import Spire.Except

/-! What `createCommand.Run` checks, sends and prints.

`validate`'s first check, "at least one selector is required", never decides
anything: a command with a SPIFFE ID template needs no selector, and one
without a template fails a later check anyway (`validate_eq_none_iff`). The
template sent carries the flags' TTLs, which an `int32` holds and which are not
negative unless a data file is named: the data file skips every check, and
`Run` never reads it (`sent_ttls_in_range`).

`createTemplates` gives every failed result the request's template at the
result's index, and panics when a result has a `nil` status or a failed result
has no request template at its index (`createTemplates_eq_ok_iff`).
`prettyPrintCreate` prints the succeeded templates on standard output and the
failed ones on standard error, and returns an error exactly when a result
failed. `Run` panics exactly when the server answers with a `nil` status or a
failed result beyond the request, or, under the default pretty output, with a
negative code or a success without a template (`create_panics_iff`).
Otherwise, since the command sends one template, the pretty report of every
failure shows that template, built from the flags (`create_prints_results`). -/
namespace Spire.Template

variable (lib : Library)

private theorem string_length_eq_zero (s : String) : s.length = 0 ↔ s = "" := by
  constructor
  · cases s with
    | mk cs =>
      intro empty
      rw [List.length_eq_zero.1 empty]
  · intro empty
    rw [empty]
    rfl

/-- `validate`'s checks, in the order the Go code makes them. -/
theorem validate_eq_none_iff_checks (c : CreateCommand) :
    c.validate = none ↔ (c.path = "" →
      ¬(c.selectors.length < 1 ∧ c.spiffeIDTemplate.length = 0) ∧ c.parentID ≠ "" ∧ c.spiffeIDTemplate ≠ "" ∧
        0 ≤ c.x509SVIDTTL ∧ 0 ≤ c.jwtSVIDTTL) := by
  rw [CreateCommand.validate, ite_eq_left_iff, not_not]
  simp only [ite_eq_iff, reduceCtorEq, and_false, false_or, and_true, Int.not_lt, ne_eq]

/-- **`validate`'s verdict.** A command passes exactly when it names a data
file, or a parent ID and a SPIFFE ID template with TTLs that are not negative:
its selectors play no part. -/
theorem validate_eq_none_iff (c : CreateCommand) :
    c.validate = none ↔
      c.path ≠ "" ∨ (c.parentID ≠ "" ∧ c.spiffeIDTemplate ≠ "" ∧ 0 ≤ c.x509SVIDTTL ∧ 0 ≤ c.jwtSVIDTTL) := by
  rw [validate_eq_none_iff_checks, string_length_eq_zero, ← imp_iff_not_or]
  exact imp_congr_right fun _ =>
    ⟨fun ⟨_, checked⟩ => checked, fun checked => ⟨fun ⟨_, empty⟩ => checked.2.1 empty, checked⟩⟩

/-! ## `createTemplates` -/

/-- Whether a result's status is set with a code other than `codes.OK`: the
results `createTemplates` patches and `prettyPrintCreate` reports as failed. -/
def CreateResult.failed (r : CreateResult) : Bool := r.status.any (·.code ≠ 0)

/-- Whether a result's status is set with the code `codes.OK`. -/
def CreateResult.succeeded (r : CreateResult) : Bool := r.status.any (·.code = 0)

@[simp]
theorem CreateResult.failed_none {template : Option SPIFFEIDTemplate} : CreateResult.failed ⟨none, template⟩ = false :=
  rfl

@[simp]
theorem CreateResult.failed_some {status : Status} {template : Option SPIFFEIDTemplate} :
    CreateResult.failed ⟨some status, template⟩ = decide (status.code ≠ 0) := rfl

@[simp]
theorem CreateResult.failed_with {r : CreateResult} {template : Option SPIFFEIDTemplate} :
    CreateResult.failed { r with template := template } = r.failed := rfl

@[simp]
theorem CreateResult.succeeded_with {r : CreateResult} {template : Option SPIFFEIDTemplate} :
    CreateResult.succeeded { r with template := template } = r.succeeded := rfl

@[simp]
theorem CreateResult.succeeded_none {template : Option SPIFFEIDTemplate} :
    CreateResult.succeeded ⟨none, template⟩ = false := rfl

@[simp]
theorem CreateResult.succeeded_some {status : Status} {template : Option SPIFFEIDTemplate} :
    CreateResult.succeeded ⟨some status, template⟩ = decide (status.code = 0) := rfl

/-- The results from the `i`-th on as `createTemplates` leaves them: each failed
one with the request's template at its index. -/
def patchedFrom (templates : List SPIFFEIDTemplate) (i : Nat) (results : List CreateResult) : List CreateResult :=
  results.mapIdx fun j r => if r.failed then { r with template := templates[i + j]? } else r

section Patch

variable {templates : List SPIFFEIDTemplate} {i : Nat} {r : CreateResult} {rest : List CreateResult}

private theorem patchedFrom_cons :
    patchedFrom templates i (r :: rest) =
      (if r.failed then { r with template := templates[i]? } else r) :: patchedFrom templates (i + 1) rest := by
  simp only [patchedFrom, List.mapIdx_cons, Nat.add_zero, Nat.add_right_comm i, Nat.add_assoc]

private theorem forall_getElem?_cons {P : Nat → CreateResult → Prop} :
    (∀ j r', (r :: rest)[j]? = some r' → P j r') ↔ P 0 r ∧ ∀ j r', rest[j]? = some r' → P (j + 1) r' := by
  constructor
  · intro all
    exact ⟨all 0 r (by simp), fun j r' found => all (j + 1) r' (by simpa using found)⟩
  · rintro ⟨first, later⟩ (_ | j) r' found
    · simp only [List.getElem?_cons_zero, Option.some.injEq] at found
      exact found ▸ first
    · exact later j r' (by simpa using found)

private theorem exists_patched_iff {C : Prop} {patched results' : List CreateResult}
    {f : List CreateResult → List CreateResult} :
    (∃ a, (C ∧ a = patched) ∧ results' = f a) ↔ C ∧ results' = f patched :=
  ⟨fun ⟨_, ⟨within, rfl⟩, is⟩ => ⟨within, is⟩, fun ⟨within, is⟩ => ⟨_, ⟨within, rfl⟩, is⟩⟩

/-- The loop of `createTemplates` returns exactly when every result has a
status and no failed one lies beyond the request's templates, and then every
failed result carries the request's template at its index. -/
theorem patchResults_eq_ok_iff {results results' : List CreateResult} :
    patchResults templates i results = .ok results' ↔
      (∀ j r, results[j]? = some r → ∃ status, r.status = some status ∧ (status.code ≠ 0 → i + j < templates.length)) ∧
        results' = patchedFrom templates i results := by
  induction results generalizing i results' with
  | nil =>
    simp only [patchResults, Outcome.ok.injEq, List.getElem?_nil, reduceCtorEq, false_implies, implies_true, true_and]
    exact eq_comm
  | cons r rest ih =>
    rw [forall_getElem?_cons, patchedFrom_cons]
    simp only [← Nat.add_assoc, Nat.add_right_comm i _ 1, Nat.add_zero]
    rcases r with ⟨_ | status, template⟩
    · simp only [patchResults, reduceCtorEq, false_iff, not_and]
      rintro ⟨⟨_, unset, -⟩, -⟩
      cases unset
    by_cases failed : status.code ≠ 0
    · simp only [patchResults, if_pos failed]
      cases found : templates[i]? with
      | none =>
        have beyond : templates.length ≤ i := List.getElem?_eq_none_iff.1 found
        simp only [reduceCtorEq, false_iff, not_and, Option.some.injEq, exists_eq_left']
        intro within
        exact absurd (within.1 failed) (by omega)
      | some t =>
        have inside : i < templates.length := (List.getElem?_eq_some_iff.1 found).1
        have flagged : CreateResult.failed ⟨some status, template⟩ = true := by simpa using failed
        simp only [flagged, if_true, Outcome.map_eq_ok, ih, exists_patched_iff, Option.some.injEq, exists_eq_left',
          inside, implies_true, true_and]
    · have kept : CreateResult.failed ⟨some status, template⟩ = false := by simpa using failed
      simp only [patchResults, failed, if_false, kept, Bool.false_eq_true, Outcome.map_eq_ok, ih, exists_patched_iff,
        Option.some.injEq, exists_eq_left', false_implies, true_and]

/-- The loop never returns an error: it returns the results, or panics. -/
theorem patchResults_ne_error {results : List CreateResult} (message : String) :
    patchResults templates i results ≠ .error message := by
  induction results generalizing i with
  | nil => simp [patchResults]
  | cons r rest ih =>
    simp only [patchResults]
    split
    · simp
    · split_ifs
      · split <;> simp [Outcome.map_eq_error, ih]
      · simp [Outcome.map_eq_error, ih]

/-- Where the loop panics: at a result with a `nil` status, or at a failed one
beyond the request's templates. -/
private theorem not_patchable_iff {results : List CreateResult} :
    (¬ ∀ j r, results[j]? = some r → ∃ status, r.status = some status ∧ (status.code ≠ 0 → i + j < templates.length)) ↔
      (∃ r ∈ results, r.status = none) ∨
        ∃ j r status, results[j]? = some r ∧ r.status = some status ∧ status.code ≠ 0 ∧ templates.length ≤ i + j := by
  constructor
  · intro stuck
    obtain ⟨j, r, found, unset⟩ : ∃ j r, results[j]? = some r ∧
        ¬ ∃ status, r.status = some status ∧ (status.code ≠ 0 → i + j < templates.length) := by
      by_contra none
      exact stuck fun j r found => by_contra fun unset => none ⟨j, r, found, unset⟩
    cases set : r.status with
    | none => exact .inl ⟨r, List.getElem?_mem found, set⟩
    | some status =>
      refine .inr ⟨j, r, status, found, set, ?_⟩
      by_contra within
      exact unset ⟨status, set, fun failed => by omega⟩
  · rintro (⟨r, mem, unset⟩ | ⟨j, r, status, found, set, failed, beyond⟩) patchable
    · obtain ⟨j, found⟩ := List.getElem?_of_mem mem
      obtain ⟨status, set, -⟩ := patchable j r found
      rw [unset] at set
      cases set
    · obtain ⟨status', set', within⟩ := patchable j r found
      rw [set, Option.some.injEq] at set'
      subst set'
      exact absurd (within failed) (by omega)

theorem patchResults_panics_of_stuck {results : List CreateResult}
    (stuck : ¬ ∀ j r, results[j]? = some r → ∃ status, r.status = some status ∧
      (status.code ≠ 0 → i + j < templates.length)) :
    ∃ reason, patchResults templates i results = .panicked reason := by
  cases patched : patchResults templates i results with
  | ok results' => exact absurd (patchResults_eq_ok_iff.1 patched).1 stuck
  | error message => exact absurd patched (patchResults_ne_error message)
  | panicked reason => exact ⟨reason, rfl⟩

theorem patchedFrom_map_status {results : List CreateResult} :
    (patchedFrom templates i results).map (·.status) = results.map (·.status) := by
  induction results generalizing i with
  | nil => rfl
  | cons r rest ih =>
    rw [patchedFrom_cons, List.map_cons, List.map_cons, ih]
    split_ifs <;> rfl

theorem patchedFrom_filter_succeeded {results : List CreateResult} :
    (patchedFrom templates i results).filter (·.succeeded) = results.filter (·.succeeded) := by
  induction results generalizing i with
  | nil => rfl
  | cons r rest ih =>
    rw [patchedFrom_cons]
    rcases r with ⟨_ | status, template⟩
    · simp [ih]
    · by_cases succeeded : status.code = 0 <;> simp [succeeded, ih]

/-- With one template, the failed results are the server's, each with that
template. -/
theorem patchedFrom_filter_failed {t : SPIFFEIDTemplate} {results : List CreateResult}
    (within : ∀ j r, results[j]? = some r → r.failed → i + j < 1) :
    (patchedFrom [t] i results).filter (·.failed) =
      (results.filter (·.failed)).map ({ · with template := some t }) := by
  induction results generalizing i with
  | nil => rfl
  | cons r rest ih =>
    rw [forall_getElem?_cons] at within
    rw [patchedFrom_cons, List.filter_cons, List.filter_cons,
      @ih (i + 1) fun j r' found failed => by have := within.2 j r' found failed; omega]
    cases failed : r.failed
    · simp [failed]
    · have first : i = 0 := by have := within.1 failed; omega
      subst first
      simp [failed]

end Patch

/-! ## Printing -/

/-- A result `prettyPrintCreate` prints without a panic: its status is set,
with a code `MustCast` takes, and it has a template. -/
def Printable (r : CreateResult) : Prop :=
  ∃ status, r.status = some status ∧ 0 ≤ status.code ∧ r.template ≠ none

@[simp]
theorem printable_none {template : Option SPIFFEIDTemplate} : ¬ Printable ⟨none, template⟩ :=
  fun ⟨_, set, _⟩ => nomatch set

@[simp]
theorem printable_some {status : Status} {template : Option SPIFFEIDTemplate} :
    Printable ⟨some status, template⟩ ↔ 0 ≤ status.code ∧ template ≠ none := by
  simp only [Printable, Option.some.injEq, exists_eq_left']

/-- The lines a result's template prints; a `nil` template prints none. -/
def templateLines (r : CreateResult) : List String := (r.template.map printTemplate).getD []

/-- The lines `prettyPrintCreate` prints on standard error for a failed result. -/
def failedLines (r : CreateResult) : List String :=
  match r.status with
  | none => []
  | some status => failedHeader lib status :: templateLines r

section Print

variable {r : CreateResult} {rest results : List CreateResult} {t : SPIFFEIDTemplate}

theorem sortResults_of_statuses (set : ∀ r ∈ results, r.status ≠ none) :
    sortResults results = .ok (results.filter (·.succeeded), results.filter (·.failed)) := by
  induction results with
  | nil => rfl
  | cons r rest ih =>
    rcases r with ⟨_ | status, template⟩
    · exact absurd rfl (set _ (.head _))
    rw [sortResults, ih fun r' mem => set r' (.tail _ mem)]
    by_cases succeeded : status.code = 0
    · simp [CreateResult.failed, CreateResult.succeeded, succeeded, Except.map]
    · simp [CreateResult.failed, CreateResult.succeeded, succeeded, Except.map]

theorem sortResults_of_nil_status (unset : ∃ r ∈ results, r.status = none) :
    sortResults results = .error nilDereference := by
  induction results with
  | nil => simp at unset
  | cons r rest ih =>
    rcases r with ⟨_ | status, template⟩
    · rfl
    obtain ⟨r', mem, unset'⟩ := unset
    have later : r' ∈ rest := by
      rcases List.mem_cons.1 mem with rfl | later
      · cases unset'
      · exact later
    rw [sortResults, ih ⟨r', later, unset'⟩]
    rfl

theorem printSucceeded_cons_of_template (found : r.template = some t) :
    printSucceeded (r :: rest) = (printTemplate t ++ (printSucceeded rest).1, (printSucceeded rest).2) := by
  rw [printSucceeded, found]
  rfl

theorem printSucceeded_of_templated (templated : ∀ r ∈ results, r.template ≠ none) :
    printSucceeded results = (results.flatMap templateLines, none) := by
  induction results with
  | nil => rfl
  | cons r rest ih =>
    obtain ⟨t, found⟩ := Option.ne_none_iff_exists'.1 (templated r (.head _))
    rw [printSucceeded_cons_of_template found, ih fun r' mem => templated r' (.tail _ mem)]
    simp [templateLines, found]

private theorem printFailed_cons_of_printable (printable : Printable r) :
    printFailed lib (r :: rest) = (failedLines lib r ++ (printFailed lib rest).1, (printFailed lib rest).2) := by
  obtain ⟨status, set, known, templated⟩ := printable
  obtain ⟨t, found⟩ := Option.ne_none_iff_exists'.1 templated
  have unknown : ¬ status.code < 0 := by omega
  simp only [printFailed, set, unknown, if_false, found, printTemplatePtr, failedLines, templateLines]
  rfl

private theorem printFailed_cons_of_unprintable (unprintable : ¬ Printable r) :
    (printFailed lib (r :: rest)).2 ≠ none := by
  rcases r with ⟨_ | status, template⟩
  · simp [printFailed]
  by_cases negative : status.code < 0
  · simp [printFailed, negative]
  cases template with
  | none => simp [printFailed, negative, printTemplatePtr]
  | some t =>
    have printable : Printable ⟨some status, some t⟩ := printable_some.2 ⟨Int.not_lt.1 negative, Option.some_ne_none t⟩
    exact absurd printable unprintable

theorem printFailed_of_printable (printable : ∀ r ∈ results, Printable r) :
    printFailed lib results = (results.flatMap (failedLines lib), none) := by
  induction results with
  | nil => rfl
  | cons r rest ih =>
    rw [printFailed_cons_of_printable lib (printable r (.head _)), ih fun r' mem => printable r' (.tail _ mem)]
    rfl

theorem printSucceeded_panics_iff : (printSucceeded results).2 ≠ none ↔ ∃ r ∈ results, r.template = none := by
  induction results with
  | nil => simp [printSucceeded]
  | cons r rest ih =>
    cases found : r.template with
    | none => simp [printSucceeded, printTemplatePtr, found]
    | some t => simp [printSucceeded_cons_of_template found, ih, found]

theorem printFailed_panics_iff : (printFailed lib results).2 ≠ none ↔ ∃ r ∈ results, ¬ Printable r := by
  induction results with
  | nil => simp [printFailed]
  | cons r rest ih =>
    by_cases printable : Printable r
    · rw [printFailed_cons_of_printable lib printable, ih]
      simp [printable]
    · exact iff_of_true (printFailed_cons_of_unprintable lib printable) ⟨r, .head _, printable⟩

/-- Once every status is set, a result `prettyPrintCreate` cannot print is a
succeeded one without a template, or a failed one with a negative code or
without a template. -/
private theorem exists_unprintable_filter_iff (set : ∀ r ∈ results, r.status ≠ none) :
    ((∃ r ∈ results.filter (·.succeeded), r.template = none) ∨ ∃ r ∈ results.filter (·.failed), ¬ Printable r) ↔
      ∃ r ∈ results, ¬ Printable r := by
  simp only [List.mem_filter]
  constructor
  · rintro (⟨r, ⟨mem, succeeded⟩, missing⟩ | ⟨r, ⟨mem, -⟩, unprintable⟩)
    · exact ⟨r, mem, fun ⟨_, _, _, templated⟩ => templated missing⟩
    · exact ⟨r, mem, unprintable⟩
  · rintro ⟨⟨_ | status, template⟩, mem, unprintable⟩
    · exact absurd rfl (set _ mem)
    by_cases succeeded : status.code = 0
    · refine .inl ⟨_, ⟨mem, by simp [CreateResult.succeeded, succeeded]⟩, ?_⟩
      by_contra templated
      exact unprintable ⟨status, rfl, by omega, templated⟩
    · exact .inr ⟨_, ⟨mem, by simp [CreateResult.failed, succeeded]⟩, unprintable⟩

/-- `prettyPrintCreate` panics exactly when a result has no status, a negative
code or no template. -/
theorem prettyPrintCreate_panics_iff :
    (∃ reason, (prettyPrintCreate lib results).2 = .panicked reason) ↔ ∃ r ∈ results, ¬ Printable r := by
  by_cases unset : ∃ r ∈ results, r.status = none
  · obtain ⟨r, mem, missing⟩ := unset
    simp only [prettyPrintCreate, sortResults_of_nil_status ⟨r, mem, missing⟩]
    exact iff_of_true ⟨_, rfl⟩ ⟨r, mem, fun ⟨_, set, _⟩ => by rw [missing] at set; cases set⟩
  have set : ∀ r ∈ results, r.status ≠ none := fun r mem missing => unset ⟨r, mem, missing⟩
  rw [← exists_unprintable_filter_iff set, ← printSucceeded_panics_iff, ← printFailed_panics_iff lib]
  simp only [prettyPrintCreate, sortResults_of_statuses set]
  cases printSucceeded (results.filter (·.succeeded)) with
  | mk out panic =>
    cases printFailed lib (results.filter (·.failed)) with
    | mk err panic' =>
      cases panic <;> cases panic' <;> simp
      split_ifs <;> simp

/-- What `prettyPrintCreate` prints. When every result has a status, a code
`MustCast` takes and a template, it prints the succeeded results' templates on
standard output and a header and the template of each failed one on standard
error, both in the order of the results, and fails exactly when a result
failed. -/
theorem prettyPrintCreate_of_printable (printable : ∀ r ∈ results, Printable r) :
    prettyPrintCreate lib results =
      (⟨(results.filter (·.succeeded)).flatMap templateLines, (results.filter (·.failed)).flatMap (failedLines lib)⟩,
        if ∀ r ∈ results, r.succeeded then .ok () else .error "failed to create one or more entries") := by
  have set : ∀ r ∈ results, r.status ≠ none := fun r mem missing => by
    obtain ⟨_, present, _⟩ := printable r mem
    rw [missing] at present
    cases present
  have succeeded : ∀ r ∈ results.filter (·.succeeded), r.template ≠ none := fun r mem => by
    obtain ⟨_, _, _, templated⟩ := printable r (List.mem_filter.1 mem).1
    exact templated
  have failed : ∀ r ∈ results.filter (·.failed), Printable r :=
    fun r mem => printable r (List.mem_filter.1 mem).1
  have verdict : (results.filter (·.failed)).length > 0 ↔ ¬ ∀ r ∈ results, r.succeeded := by
    simp only [gt_iff_lt, List.length_pos, ne_eq, List.filter_eq_nil_iff, not_forall, Bool.not_eq_true]
    refine exists_congr fun r => exists_congr fun mem => ?_
    obtain ⟨status, present, -⟩ := printable r mem
    simp [CreateResult.failed, CreateResult.succeeded, present]
  simp only [prettyPrintCreate, sortResults_of_statuses set, printSucceeded_of_templated succeeded,
    printFailed_of_printable lib failed, verdict, ite_not]

end Print

/-! ## `Run` -/

theorem checkedCastInt32_eq_ok {v a : Int} : checkedCastInt32 lib v = .ok a ↔ (-2 ^ 31 ≤ v ∧ v < 2 ^ 31) ∧ a = v := by
  unfold checkedCastInt32
  split_ifs <;> simp_all [eq_comm]

/-- `parseConfig` builds one template, with the flags' TTLs, which an `int32` holds. -/
theorem parseConfig_eq_ok {c : CreateCommand} {templates : List SPIFFEIDTemplate}
    (parsed : c.parseConfig lib = .ok templates) :
    ∃ t, templates = [t] ∧ t.x509SvidTtl = c.x509SVIDTTL ∧ t.jwtSvidTtl = c.jwtSVIDTTL ∧
      (-2 ^ 31 ≤ c.x509SVIDTTL ∧ c.x509SVIDTTL < 2 ^ 31) ∧ (-2 ^ 31 ≤ c.jwtSVIDTTL ∧ c.jwtSVIDTTL < 2 ^ 31) := by
  obtain ⟨parent, -, rest⟩ := bind_eq_ok parsed
  obtain ⟨x509, x509Cast, rest⟩ := bind_eq_ok rest
  obtain ⟨jwt, jwtCast, rest⟩ := bind_eq_ok rest
  obtain ⟨selectors, -, built⟩ := bind_eq_ok rest
  obtain ⟨x509Range, rfl⟩ := (checkedCastInt32_eq_ok lib).1 (mapError_eq_ok.1 x509Cast)
  obtain ⟨jwtRange, rfl⟩ := (checkedCastInt32_eq_ok lib).1 (mapError_eq_ok.1 jwtCast)
  cases built
  exact ⟨_, rfl, rfl, rfl, x509Range, jwtRange⟩

theorem validate_ttls_nonneg {c : CreateCommand} (checked : c.validate = none) (noPath : c.path = "") :
    0 ≤ c.x509SVIDTTL ∧ 0 ≤ c.jwtSVIDTTL := by
  obtain ⟨-, -, -, x509, jwt⟩ := (validate_eq_none_iff_checks c).1 checked noPath
  exact ⟨x509, jwt⟩

/-- **The template sent carries the flags' TTLs.** A command that passes
`validate` and `parseConfig` sends one template, whose TTLs are the flags',
which an `int32` holds; they are not negative unless the command names a data
file, which skips every check. -/
theorem sent_ttls_in_range {c : CreateCommand} {templates : List SPIFFEIDTemplate}
    (checked : c.validate = none) (parsed : c.parseConfig lib = .ok templates) :
    ∃ t, templates = [t] ∧ t.x509SvidTtl = c.x509SVIDTTL ∧ t.jwtSvidTtl = c.jwtSVIDTTL ∧
      (-2 ^ 31 ≤ t.x509SvidTtl ∧ t.x509SvidTtl < 2 ^ 31) ∧ (-2 ^ 31 ≤ t.jwtSvidTtl ∧ t.jwtSvidTtl < 2 ^ 31) ∧
      (c.path = "" → 0 ≤ t.x509SvidTtl ∧ 0 ≤ t.jwtSvidTtl) := by
  obtain ⟨t, rfl, x509, jwt, x509Range, jwtRange⟩ := parseConfig_eq_ok lib parsed
  refine ⟨t, rfl, x509, jwt, ?_⟩
  rw [x509, jwt]
  exact ⟨x509Range, jwtRange, validate_ttls_nonneg checked⟩

section Run

variable {templates : List SPIFFEIDTemplate} {i : Nat} {results : List CreateResult} {t : SPIFFEIDTemplate}

/-- Patching leaves no failed result without a template, and changes no
status: the results the pretty printer panics on are those with a negative
code, or that succeeded without a template. -/
theorem exists_unprintable_patchedFrom_iff
    (within : ∀ j r, results[j]? = some r → ∃ status, r.status = some status ∧
      (status.code ≠ 0 → i + j < templates.length)) :
    (∃ r ∈ patchedFrom templates i results, ¬ Printable r) ↔
      ∃ r ∈ results, ∃ status, r.status = some status ∧ (status.code < 0 ∨ status.code = 0 ∧ r.template = none) := by
  induction results generalizing i with
  | nil => simp [patchedFrom]
  | cons r rest ih =>
    rw [forall_getElem?_cons] at within
    simp only [patchedFrom_cons, List.mem_cons, or_and_right, exists_or, exists_eq_left]
    refine or_congr ?_ (@ih (i + 1) fun j r' found => ?_)
    · obtain ⟨status, set, inside⟩ := within.1
      rcases r with ⟨_, template⟩
      subst set
      by_cases succeeded : status.code = 0
      · simp [succeeded]
      · have found : templates[i]? = some templates[i] := List.getElem?_eq_getElem (by have := inside succeeded; omega)
        simp [succeeded, found, Int.not_le]
    · obtain ⟨status, set, inside⟩ := within.2 j r' found
      exact ⟨status, set, fun failed => by have := inside failed; omega⟩

/-- Patching leaves every result printable when the server's have statuses
with codes `MustCast` takes and templates for successes. -/
theorem patchedFrom_printable
    (within : ∀ j r, results[j]? = some r → ∃ status, r.status = some status ∧
      (status.code ≠ 0 → i + j < templates.length))
    (printable : ∀ r ∈ results, ∃ status, r.status = some status ∧ 0 ≤ status.code ∧
      (status.code = 0 → r.template ≠ none)) :
    ∀ r ∈ patchedFrom templates i results, Printable r := by
  intro r mem
  by_contra unprintable
  obtain ⟨r', mem', status, set, bad⟩ := (exists_unprintable_patchedFrom_iff within).1 ⟨r, mem, unprintable⟩
  obtain ⟨status', set', known, templated⟩ := printable r' mem'
  rw [set, Option.some.injEq] at set'
  subst set'
  rcases bad with negative | ⟨succeeded, missing⟩
  · omega
  · exact templated succeeded missing

theorem forall_patchedFrom_succeeded_iff :
    (∀ r ∈ patchedFrom templates i results, r.succeeded) ↔ ∀ r ∈ results, r.succeeded := by
  have statuses := congrArg (fun l : List (Option Status) => ∀ s ∈ l, s.any (·.code = 0) = true)
    (@patchedFrom_map_status templates i results)
  simp only [List.forall_mem_map] at statuses
  exact Eq.to_iff statuses

/-- The report of the failed results once each carries the template `t`: a
header for each failed status, in order, followed by `t`. -/
theorem flatMap_failedLines_patched :
    ((results.filter (·.failed)).map ({ · with template := some t })).flatMap (failedLines lib) =
      ((results.filterMap (·.status)).filter (·.code ≠ 0)).flatMap fun status =>
        failedHeader lib status :: printTemplate t := by
  induction results with
  | nil => rfl
  | cons r rest ih =>
    rcases r with ⟨_ | status, template⟩
    · simpa using ih
    · by_cases succeeded : status.code = 0
      · simpa [succeeded] using ih
      · simp [succeeded, failedLines, templateLines, ih]

private theorem exists_ok_and_iff {α β : Type} {a : α} {R : α → β → Prop} :
    (∃ x y, (Except.ok a : Except String α) = .ok x ∧ R x y) ↔ ∃ y, R a y :=
  ⟨fun ⟨_, y, same, related⟩ => by cases same; exact ⟨y, related⟩, fun ⟨y, related⟩ => ⟨a, y, rfl, related⟩⟩

/-- **When `Run` panics.** `createCommand.Run` panics exactly when the command
passes its checks, the server answers, and a result has a `nil` status or a
failed one lies beyond the request's templates, or, under the default pretty
output, a result has a negative code or succeeded without a template. The
JSON printer never panics. -/
theorem create_panics_iff {batchCreate : List SPIFFEIDTemplate → Except String (List CreateResult)}
    {stdout : Except String Unit} {c : CreateCommand} :
    (∃ reason, (c.run lib batchCreate stdout).2 = .panicked reason) ↔
      c.validate = none ∧ ∃ templates results, c.parseConfig lib = .ok templates ∧ batchCreate templates = .ok results ∧
        (((∃ r ∈ results, r.status = none) ∨
            ∃ j r status, results[j]? = some r ∧ r.status = some status ∧ status.code ≠ 0 ∧ templates.length ≤ j) ∨
          c.output = .pretty ∧ ∃ r ∈ results, ∃ status, r.status = some status ∧
            (status.code < 0 ∨ status.code = 0 ∧ r.template = none)) := by
  unfold CreateCommand.run createTemplates
  rcases checked : c.validate with _ | err
  swap
  · simp only [reduceCtorEq, exists_false, false_and]
  rcases parsed : c.parseConfig lib with err | templates
  · simp only [reduceCtorEq, exists_false, false_and, and_false]
  simp only [true_and, exists_ok_and_iff]
  rcases answered : batchCreate templates with err | results
  · simp only [reduceCtorEq, exists_false, false_and]
  simp only [Except.ok.injEq, exists_eq_left']
  have stuck := @not_patchable_iff templates 0 results
  simp only [Nat.zero_add] at stuck
  rw [← stuck]
  by_cases within : ∀ j r, results[j]? = some r → ∃ status, r.status = some status ∧
      (status.code ≠ 0 → 0 + j < templates.length)
  · have within' := within
    simp only [Nat.zero_add] at within'
    rw [patchResults_eq_ok_iff.2 ⟨within, rfl⟩, iff_true_intro within', not_true_eq_false, false_or]
    cases c.output with
    | json => simp
    | pretty => simp only [prettyPrintCreate_panics_iff, exists_unprintable_patchedFrom_iff within, true_and]
  · obtain ⟨reason, panicked⟩ := patchResults_panics_of_stuck within
    simp only [Nat.zero_add] at within
    simp only [panicked]
    exact iff_of_true ⟨reason, rfl⟩ (.inl within)

/-- **What `Run` prints.** When the server answers the one template a command
sends with statuses in every result, failures only in the first, no negative
code, and a template for every success, `createCommand.Run` under the default
pretty output prints the succeeded templates on standard output. On standard
error it prints each failed status's header followed by the template the
command sent, built from its flags, and it fails exactly when a result
failed. -/
theorem create_prints_results {batchCreate : List SPIFFEIDTemplate → Except String (List CreateResult)}
    {stdout : Except String Unit} {c : CreateCommand}
    (checked : c.validate = none) (parsed : c.parseConfig lib = .ok [t]) (answered : batchCreate [t] = .ok results)
    (pretty : c.output = .pretty)
    (firstOnly : ∀ (j : Nat) (r : CreateResult), results[j]? = some r → r.failed → j = 0)
    (printable : ∀ r ∈ results, ∃ status, r.status = some status ∧ 0 ≤ status.code ∧
      (status.code = 0 → r.template ≠ none)) :
    c.run lib batchCreate stdout =
      (⟨(results.filter (·.succeeded)).flatMap templateLines,
          ((results.filterMap (·.status)).filter (·.code ≠ 0)).flatMap fun status =>
            failedHeader lib status :: printTemplate t⟩,
        if ∀ r ∈ results, r.succeeded then .ok () else .error "failed to create one or more entries") := by
  have within : ∀ j r, results[j]? = some r → ∃ status, r.status = some status ∧
      (status.code ≠ 0 → 0 + j < [t].length) := by
    intro j r found
    obtain ⟨status, set, -, -⟩ := printable r (List.getElem?_mem found)
    refine ⟨status, set, fun failed => ?_⟩
    have first := firstOnly j r found (by simp [CreateResult.failed, set, failed])
    simp [first]
  have failedFirst : ∀ j r, results[j]? = some r → r.failed → 0 + j < 1 := fun j r found failed => by
    have := firstOnly j r found failed
    omega
  simp only [CreateCommand.run, checked, parsed, createTemplates, answered, patchResults_eq_ok_iff.2 ⟨within, rfl⟩,
    pretty, prettyPrintCreate_of_printable lib (patchedFrom_printable within printable), patchedFrom_filter_succeeded,
    patchedFrom_filter_failed failedFirst, forall_patchedFrom_succeeded_iff, flatMap_failedLines_patched]

end Run

/-- A library for concrete runs: every ID parses as a path of `example.org`,
every selector as a `unix` one, and codes print as numbers. -/
def stubLibrary : Library where
  fromString path := .ok ⟨"example.org", path⟩
  parseSelector s := .ok ⟨"unix", s⟩
  castError v := "value out of range: " ++ toString v
  codeString := toString
  mustCastPanic c := "cannot cast " ++ toString c
  quote := id
  responseJSON results := [toString results.length ++ " results\n"]

/-- `create -parentID /node -spiffeID /workload -x509SVIDTTL 3600 -jwtSVIDTTL 300`,
with no selector. -/
def sampleCreate : CreateCommand :=
  { path := "", selectors := [], templateID := "", parentID := "/node", spiffeIDTemplate := "/workload",
    x509SVIDTTL := 3600, jwtSVIDTTL := 300, federatesWith := [], output := .pretty }

/-- The template `sampleCreate` sends. -/
def sampleSent : SPIFFEIDTemplate :=
  { id := "", parentId := some ⟨"example.org", "/node"⟩, spiffeIdTemplate := "/workload", revisionNumber := 0,
    x509SvidTtl := 3600, jwtSvidTtl := 300, selectors := [], federatesWith := [], createdAt := 0 }

/-- A server that fails every template with `AlreadyExists` and, as the Entry
API does, leaves the failed template out of its result. -/
def alreadyExists : List SPIFFEIDTemplate → Except String (List CreateResult) :=
  fun _ => .ok [⟨some ⟨6, "already exists"⟩, none⟩]

/-- Against `alreadyExists`, `sampleCreate` reports the template it sent. -/
theorem sample_reports_sent_template :
    sampleCreate.validate = none ∧ sampleCreate.parseConfig stubLibrary = .ok [sampleSent] ∧
      sampleCreate.output = .pretty ∧
      (sampleCreate.run stubLibrary alreadyExists (.ok ())).1.stderr =
        failedHeader stubLibrary ⟨6, "already exists"⟩ :: printTemplate sampleSent := by
  have checked : sampleCreate.validate = none := by decide
  have parsed : sampleCreate.parseConfig stubLibrary = .ok [sampleSent] := rfl
  have firstOnly : ∀ (j : Nat) (r : CreateResult), [(⟨some ⟨6, "already exists"⟩, none⟩ : CreateResult)][j]? = some r →
      r.failed → j = 0 := by
    intro j r found _
    cases j with
    | zero => rfl
    | succ j => simp at found
  have printable : ∀ r ∈ [(⟨some ⟨6, "already exists"⟩, none⟩ : CreateResult)], ∃ status, r.status = some status ∧
      0 ≤ status.code ∧ (status.code = 0 → r.template ≠ none) := by
    intro r mem
    rw [List.mem_singleton] at mem
    subst mem
    exact ⟨_, rfl, by decide, by decide⟩
  refine ⟨checked, parsed, rfl, ?_⟩
  rw [create_prints_results stubLibrary checked parsed rfl rfl firstOnly printable]
  rfl

end Spire.Template
