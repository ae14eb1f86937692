import SmartHome.Home.FormCreate
import SmartHome.Home.HomeList

/-!
# Failures that reach the user

`FireBaseController` catches the exceptions of its calls and returns as if they had succeeded, while
`_createHome` and `HomeListScreen` have branches of their own for a failure. Composed, the form
leaves for the list although nothing was stored, and the list says that there are no homes.

## Main definitions

* `FormCreate.submission` : a tap on Create, and the completion of the call that it starts.
* `FormCreate.FailuresReported` : form and list tell a failure from a success.

## Main results

* `FormCreate.failuresReported_iff` : they do exactly when no call fails.
-/

namespace SmartHome.FormCreate

open HomeList (Body Homes queryByOwner shown)
open ThaiAddress (Assets)

/-- A tap on Create by a user, in a state with `n` outstanding calls, and the completion of the call
that it starts, if it starts one. -/
def submission (user : Option Uid) (n : ℕ) (outcome : Except String Unit) : List Event :=
  .tapCreate user :: if user.isSome then [.completed n outcome] else []

/-- The submission by a user added its record to `homes`. -/
def Stored (user : Option Uid) (before after : State) : Prop :=
  ∃ owner, user = some owner ∧ after.added = before.added ++ [record owner before]

/-- After a submission the form has left only if the record was stored, and otherwise it is still
open with an error message. The list shows that there are no homes only if the query succeeded
without documents, and shows an error if the query failed. -/
structure FailuresReported (user : Option Uid) (before after : State) (homes : Homes)
    (ownerId : String) (failure : Option String) : Prop where
  leaves : after.page ≠ .shown → Stored user before after
  stays : ¬ Stored user before after → after.page = .shown ∧ after.form.errorMessage ≠ ""
  noHomes : shown homes ownerId failure = .noHomes →
    failure = none ∧ queryByOwner homes ownerId = []
  failed : failure ≠ none → ∃ text, shown homes ownerId failure = .error text

/-- In a reachable state the name has passed its validator when Create can be tapped. -/
theorem validate_of_checked {s : State} (h : Checked s.area.value.text s.form)
    (henabled : s.form.isButtonDisabled = false) : validate s = true := by
  have hcomplete := h henabled
  simp only [incomplete, Bool.or_eq_false_iff] at hcomplete
  rw [validate, hcomplete.1.1.1.1.1]
  rfl

section Submission

variable {assets : Assets} {s u : State} {outcome : Except String Unit}

/-- Without a user the submission ends with a message. -/
theorem run_submission_none (hs : Checked s.area.value.text s.form)
    (hrun : EventRun.run (step assets) s (submission none s.calls.length outcome) = some u) :
    u = { s with form := { s.form with errorMessage := noUserMessage } } ∧
      s.page = .shown := by
  obtain ⟨t, htap, hrest⟩ := EventRun.run_cons_eq_some.mp hrun
  obtain rfl := Option.some.inj hrest
  cases stepped_of_step htap with
  | tapCreate _ hshown henabled =>
    rw [startCreate, if_pos (validate_of_checked hs henabled)]
    exact ⟨rfl, page_of_interactive hshown⟩

/-- With a user the form leaves, and the record was added if the call succeeded. -/
theorem run_submission_some (hs : Checked s.area.value.text s.form) {owner : Uid}
    (hrun : EventRun.run (step assets) s (submission (some owner) s.calls.length outcome) =
      some u) :
    u.page = .leaving ∧
      u.added = match outcome with
        | .ok () => s.added ++ [record owner s]
        | .error _ => s.added := by
  obtain ⟨t, htap, hrest⟩ := EventRun.run_cons_eq_some.mp hrun
  obtain ⟨v, hcompleted, hrest⟩ := EventRun.run_cons_eq_some.mp hrest
  obtain rfl := Option.some.inj hrest
  cases stepped_of_step htap with
  | tapCreate _ hshown henabled =>
    have hpage : s.page ≠ .disposed := by simp [page_of_interactive hshown]
    simp only [step, startCreate, if_pos (validate_of_checked hs henabled),
      Outstanding.complete_concat, Option.map_some, Option.some.injEq] at hcompleted
    subst hcompleted
    cases outcome <;> simp [completeCreate, resumeCreate, create, hpage]

end Submission

/-- **Failures that reach the user.** For every reachable state of the form in which Create can be
tapped, every user or none, every store, and every outcome of the two calls: form and list tell
failures from successes exactly when no call that is made fails. -/
theorem failuresReported_iff {assets : Assets} {ofDegrees : ℚ → ℚ → LatLng} {lat long : ℚ}
    {es : List Event} {s u : State}
    (hs : EventRun.run (step assets) (State.initial ofDegrees lat long) es = some s)
    {user : Option Uid} {outcome : Except String Unit}
    (hsubmit : EventRun.run (step assets) s (submission user s.calls.length outcome) = some u)
    (homes : Homes) (ownerId : String) (failure : Option String) :
    FailuresReported user s u homes ownerId failure ↔
      (user = none ∨ outcome = .ok ()) ∧ failure = none := by
  have hchecked := checked_of_run hs
  constructor
  · intro h
    constructor
    · cases user with
      | none => exact Or.inl rfl
      | some owner =>
        obtain ⟨hpage, hadded⟩ := run_submission_some hchecked hsubmit
        obtain ⟨owner', -, hstored⟩ := h.leaves (by simp [hpage])
        cases outcome with
        | ok _ => exact Or.inr rfl
        | error e => simp [hadded] at hstored
    · cases failure with
      | none => rfl
      | some e => exact absurd (h.noHomes (HomeList.shown_of_failed homes ownerId e)).1 (by simp)
  · rintro ⟨hsent, rfl⟩
    have hlist := HomeList.shown_eq_noHomes homes ownerId
    refine ⟨?_, ?_, fun h => ⟨rfl, hlist.mp h⟩, fun h => absurd rfl h⟩
    · intro hleft
      cases user with
      | none =>
        obtain ⟨rfl, hpage⟩ := run_submission_none hchecked hsubmit
        exact absurd hpage hleft
      | some owner =>
        obtain rfl := hsent.resolve_left (by simp)
        exact ⟨owner, rfl, (run_submission_some hchecked hsubmit).2⟩
    · intro hstored
      cases user with
      | none =>
        obtain ⟨rfl, hpage⟩ := run_submission_none hchecked hsubmit
        exact ⟨hpage, (by decide : noUserMessage ≠ "")⟩
      | some owner =>
        obtain rfl := hsent.resolve_left (by simp)
        exact absurd ⟨owner, rfl, (run_submission_some hchecked hsubmit).2⟩ hstored

/-- The call of `add` fails: the form leaves for the list and nothing is stored. The query fails:
the list shows that there are no homes. -/
theorem failures_not_reported :
    EventRun.run (step twoProvinces) (State.initial LatLng.clampAndWrap 0 0) fillForm =
      some firstFilled ∧
      EventRun.run (step twoProvinces) firstFilled
        (submission (some "u1") firstFilled.calls.length (.error "unavailable")) =
          some (submitted [record "u1" firstFilled] [] 1) ∧
      shown [("h1", Fields.ofList [("owner", .str "u1")])] "u1" (some "unavailable") = .noHomes ∧
      ¬ FailuresReported (some "u1") firstFilled (submitted [record "u1" firstFilled] [] 1) []
        "u1" none ∧
      ∀ homes, ¬ FailuresReported (some "u1") firstFilled
        (submitted [record "u1" firstFilled] [record "u1" firstFilled] 1) homes "u1"
        (some "unavailable") := by
  refine ⟨rfl, rfl, rfl, fun h => ?_, fun homes h => ?_⟩
  · obtain ⟨owner, -, hstored⟩ := h.leaves (by decide)
    cases hstored
  · exact nomatch (h.noHomes rfl).1

/-- A submission and a query without failures. -/
theorem failuresReported_stored :
    FailuresReported (some "u1") firstFilled
        (submitted [record "u1" firstFilled] [record "u1" firstFilled] 1) [] "u1" none ↔
      (some "u1" = none ∨ (Except.ok () : Except String Unit) = .ok ()) ∧
        (none : Option String) = none :=
  @failuresReported_iff twoProvinces LatLng.clampAndWrap 0 0 fillForm firstFilled _ rfl (some "u1")
    (.ok ()) rfl [] "u1" none

end SmartHome.FormCreate
