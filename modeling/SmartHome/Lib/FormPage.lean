import Mathlib.Data.List.Basic

/-!
# Pages with a form

A page with a form is on the stack of a navigator, leaves it with an exit transition, and is
disposed when the transition is over. A form that is submitted starts a handler, which waits for
calls; when the handler is done something has happened once, and the page leaves.

If no form is submitted while a call of an earlier submission is outstanding, everything that a
handler does happens once, at most.

## Main definitions

* `FormPage.Page` : the life of a page.
* `FormPage.OneAtATime` : a form is not submitted while a call is outstanding.
* `FormPage.Once` : what has happened and what may still happen, once at most.

## Main results

* `FormPage.Once.frame`, `FormPage.Once.submit`, `FormPage.Once.complete` : the steps of a form.
-/

namespace FormPage

/-- The life of a page: on the stack, leaving it with its exit transition running, disposed. -/
inductive Page where
  | shown
  | leaving
  | disposed
  deriving DecidableEq

/-- An event that submits a form happens only while no call of the form is outstanding. -/
def OneAtATime {σ ε κ : Type*} (submits : ε → Bool) (calls : σ → List κ) (s : σ) (e : ε) : Prop :=
  submits e = true → calls s = []

/-- What has happened and what may still happen, once at most; nothing has happened while the page
is shown. -/
structure Once (page : Page) (outstanding done : ℕ) : Prop where
  total : done + outstanding ≤ 1
  shown : page = .shown → done = 0

namespace Once

variable {page page' : Page} {outstanding done done' : ℕ}

theorem initial : Once .shown 0 0 := ⟨Nat.zero_le 1, fun _ => rfl⟩

/-- A step that does not bring the page back. -/
theorem frame (h : Once page outstanding done) (hpage : page' = .shown → page = .shown) :
    Once page' outstanding done :=
  ⟨h.total, fun hshown => h.shown (hpage hshown)⟩

/-- The form is submitted while its page is shown. -/
theorem submit (h : Once .shown 0 done) : Once .shown 1 done := by
  have hdone : done = 0 := h.shown rfl
  exact ⟨by omega, fun _ => hdone⟩

/-- A call is completed, and the page is not shown after it unless nothing has happened. -/
theorem complete (h : Once page (outstanding + 1) done) (hdone : done' ≤ done + 1)
    (hpage : page' = .shown → done' = 0) : Once page' outstanding done' := by
  have htotal := h.total
  exact ⟨by omega, hpage⟩

end Once

end FormPage
