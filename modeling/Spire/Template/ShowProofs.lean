import Spire.Template.Cli

/-! What `fetchEntries` returns, for every sequence of server answers.

`ListTrace` is the part of a listing in which every answer carries a next-page
token: the calls it makes, each sending the page size and the token of the
answer before it, and the templates the answers bring. The loop's three ways
to go follow from it:
- `fetchEntries_ok_iff`: the listing returns the templates of every page, in order, once an answer has an empty next-page token;
- `fetchEntries_error_iff`: it returns the first failing call's error, wrapped, and drops the templates collected so far;
- `fetchEntries_none_iff`: it has not ended after `fuel` calls exactly when the server answered all of them with another token.

`showCommand.Run` checks its `-templateID`, `-parentID` and `-selector` flags
and then lists every template: no request carries them (`run_of_validate`). -/
namespace Spire.Template

variable {list : ListCalls}

/-- The calls of a listing from the `call`-th on, sent with the page token
`token`, while every answer carries a next-page token: the templates they
bring, and the call and the token the listing goes on with. -/
inductive ListTrace (list : ListCalls) : Nat → String → List SPIFFEIDTemplate → Nat → String → Prop
  | done (call : Nat) (token : String) : ListTrace list call token [] call token
  | page {call : Nat} {token : String} {resp : ListResponse} {templates : List SPIFFEIDTemplate} {call' : Nat}
      {token' : String} (answered : list call ⟨listEntriesRequestPageSize, token⟩ = .ok resp)
      (more : resp.nextPageToken ≠ "") (rest : ListTrace list (call + 1) resp.nextPageToken templates call' token') :
      ListTrace list call token (resp.templates ++ templates) call' token'

theorem ListTrace.le {call call' : Nat} {token token' : String} {templates : List SPIFFEIDTemplate}
    (trace : ListTrace list call token templates call' token') : call ≤ call' := by
  induction trace <;> omega

section Step

variable {fuel call : Nat} {token : String} {acc : List SPIFFEIDTemplate}

theorem fetchEntriesLoop_error {err : String}
    (answered : list call ⟨listEntriesRequestPageSize, token⟩ = .error err) :
    fetchEntriesLoop list (fuel + 1) call token acc = some (.error ("error fetching entries: " ++ err)) := by
  simp [fetchEntriesLoop, answered]

theorem fetchEntriesLoop_last {resp : ListResponse}
    (answered : list call ⟨listEntriesRequestPageSize, token⟩ = .ok resp) (last : resp.nextPageToken = "") :
    fetchEntriesLoop list (fuel + 1) call token acc = some (.ok ⟨acc ++ resp.templates, ""⟩) := by
  simp [fetchEntriesLoop, answered, last]

theorem fetchEntriesLoop_more {resp : ListResponse}
    (answered : list call ⟨listEntriesRequestPageSize, token⟩ = .ok resp) (more : resp.nextPageToken ≠ "") :
    fetchEntriesLoop list (fuel + 1) call token acc =
      fetchEntriesLoop list fuel (call + 1) resp.nextPageToken (acc ++ resp.templates) := by
  simp [fetchEntriesLoop, answered, more]

end Step

/-- The loop runs through a trace, one call per page. -/
theorem ListTrace.loop {call call' : Nat} {token token' : String} {templates : List SPIFFEIDTemplate}
    (trace : ListTrace list call token templates call' token') (fuel : Nat) (acc : List SPIFFEIDTemplate) :
    fetchEntriesLoop list (fuel + (call' - call)) call token acc =
      fetchEntriesLoop list fuel call' token' (acc ++ templates) := by
  induction trace generalizing acc with
  | done => simp
  | @page call token resp templates call' token' answered more rest ih =>
    have calls : fuel + (call' - call) = fuel + (call' - (call + 1)) + 1 := by have := rest.le; omega
    rw [calls, fetchEntriesLoop_more answered more, ih, List.append_assoc]

/-! ## The loop's three ways to go -/

section Loop

variable {fuel call : Nat} {token : String} {acc : List SPIFFEIDTemplate}

theorem fetchEntriesLoop_ok_iff {resp : ListResponse} :
    fetchEntriesLoop list fuel call token acc = some (.ok resp) ↔
      ∃ templates call' token' last, ListTrace list call token templates call' token' ∧ call' < call + fuel ∧
        list call' ⟨listEntriesRequestPageSize, token'⟩ = .ok last ∧ last.nextPageToken = "" ∧
        resp = ⟨acc ++ templates ++ last.templates, ""⟩ := by
  constructor
  · induction fuel generalizing call token acc with
    | zero => simp [fetchEntriesLoop]
    | succ fuel ih =>
      intro looped
      cases answered : list call ⟨listEntriesRequestPageSize, token⟩ with
      | error err => simp [fetchEntriesLoop_error answered] at looped
      | ok page =>
        by_cases last : page.nextPageToken = ""
        · rw [fetchEntriesLoop_last answered last] at looped
          cases looped
          exact ⟨[], call, token, page, .done call token, by omega, answered, last, by simp⟩
        · rw [fetchEntriesLoop_more answered last] at looped
          obtain ⟨templates, call', token', final, trace, within, finalAnswer, ends, rfl⟩ := ih looped
          exact ⟨page.templates ++ templates, call', token', final, .page answered last trace, by omega, finalAnswer,
            ends, by simp⟩
  · rintro ⟨templates, call', token', last, trace, within, answered, ends, rfl⟩
    have := trace.le
    obtain ⟨rest, rfl⟩ : ∃ rest, fuel = rest + 1 + (call' - call) := ⟨fuel - 1 - (call' - call), by omega⟩
    rw [trace.loop, fetchEntriesLoop_last answered ends]

theorem fetchEntriesLoop_error_iff {message : String} :
    fetchEntriesLoop list fuel call token acc = some (.error message) ↔
      ∃ templates call' token' err, ListTrace list call token templates call' token' ∧ call' < call + fuel ∧
        list call' ⟨listEntriesRequestPageSize, token'⟩ = .error err ∧ message = "error fetching entries: " ++ err := by
  constructor
  · induction fuel generalizing call token acc with
    | zero => simp [fetchEntriesLoop]
    | succ fuel ih =>
      intro looped
      cases answered : list call ⟨listEntriesRequestPageSize, token⟩ with
      | error err =>
        rw [fetchEntriesLoop_error answered] at looped
        cases looped
        exact ⟨[], call, token, err, .done call token, by omega, answered, rfl⟩
      | ok page =>
        by_cases last : page.nextPageToken = ""
        · simp [fetchEntriesLoop_last answered last] at looped
        · rw [fetchEntriesLoop_more answered last] at looped
          obtain ⟨templates, call', token', err, trace, within, failed, rfl⟩ := ih looped
          exact ⟨page.templates ++ templates, call', token', err, .page answered last trace, by omega, failed, rfl⟩
  · rintro ⟨templates, call', token', err, trace, within, failed, rfl⟩
    have := trace.le
    obtain ⟨rest, rfl⟩ : ∃ rest, fuel = rest + 1 + (call' - call) := ⟨fuel - 1 - (call' - call), by omega⟩
    rw [trace.loop, fetchEntriesLoop_error failed]

theorem fetchEntriesLoop_none_iff :
    fetchEntriesLoop list fuel call token acc = none ↔
      ∃ templates token', ListTrace list call token templates (call + fuel) token' := by
  constructor
  · induction fuel generalizing call token acc with
    | zero => exact fun _ => ⟨[], token, .done call token⟩
    | succ fuel ih =>
      intro looped
      cases answered : list call ⟨listEntriesRequestPageSize, token⟩ with
      | error err => simp [fetchEntriesLoop_error answered] at looped
      | ok page =>
        by_cases last : page.nextPageToken = ""
        · simp [fetchEntriesLoop_last answered last] at looped
        · rw [fetchEntriesLoop_more answered last] at looped
          obtain ⟨templates, token', trace⟩ := ih looped
          have extended := ListTrace.page answered last trace
          rw [show call + 1 + fuel = call + (fuel + 1) by omega] at extended
          exact ⟨_, token', extended⟩
  · rintro ⟨templates, token', trace⟩
    have looped := trace.loop 0 acc
    rwa [Nat.add_sub_cancel_left, Nat.zero_add] at looped

end Loop

/-- **A listing returns every page.** `fetchEntries` returns a response exactly
when the server's answers, call after call, carry next-page tokens up to one
with an empty token, within `fuel` calls. The response holds the templates of
all those answers, in order, and no next-page token. -/
theorem fetchEntries_ok_iff {fuel : Nat} {resp : ListResponse} :
    fetchEntries list fuel = some (.ok resp) ↔
      ∃ templates call token last, ListTrace list 0 "" templates call token ∧ call < fuel ∧
        list call ⟨listEntriesRequestPageSize, token⟩ = .ok last ∧ last.nextPageToken = "" ∧
        resp = ⟨templates ++ last.templates, ""⟩ := by
  rw [fetchEntries, fetchEntriesLoop_ok_iff]
  simp

/-- **A listing fails with the first failing call.** `fetchEntries` returns an
error exactly when a call fails, within `fuel` calls, after answers that all
carried a next-page token. The error is that call's, wrapped as
`error fetching entries: %w`, and the templates collected before it are dropped. -/
theorem fetchEntries_error_iff {fuel : Nat} {message : String} :
    fetchEntries list fuel = some (.error message) ↔
      ∃ templates call token err, ListTrace list 0 "" templates call token ∧ call < fuel ∧
        list call ⟨listEntriesRequestPageSize, token⟩ = .error err ∧ message = "error fetching entries: " ++ err := by
  rw [fetchEntries, fetchEntriesLoop_error_iff]
  simp

/-- **A listing ends only on an empty token.** `fetchEntries` has not ended
after `fuel` calls exactly when the server answered every one of them with a
page and another next-page token: the Go loop runs for as long as the server
hands out tokens. -/
theorem fetchEntries_none_iff {fuel : Nat} :
    fetchEntries list fuel = none ↔ ∃ templates token, ListTrace list 0 "" templates fuel token := by
  rw [fetchEntries, fetchEntriesLoop_none_iff]
  simp

/-- A show command that passes `validate` returns the whole listing: its
filters are checked, never sent. -/
theorem run_of_validate {c : ShowCommand} (checked : c.validate = none) (fuel : Nat) :
    c.run list fuel = fetchEntries list fuel := by
  rw [ShowCommand.run, checked]

end Spire.Template
