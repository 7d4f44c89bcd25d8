import Mathlib.Data.List.DropRight
import Mathlib.Data.List.Induction

/-!
# Histories

Whoever is asked one thing after the other has a history, which lists the
requests with their answers.  What holds in the beginning and outlasts every
request holds after any requests.
-/

namespace QueryLint

/-- Requests with their answers, the last one at the end. -/
abbrev History (ρ α : Type) := List (ρ × α)

namespace History

variable {ρ α β σ : Type}

/-- What has happened since the last request of a kind. -/
def since (kind : ρ → Bool) (history : History ρ α) : History ρ α :=
  history.rtakeWhile fun event => !kind event.1

theorem since_concat (kind : ρ → Bool) (history : History ρ α) {request : ρ}
    (other : kind request = false) (answer : α) :
    since kind (history ++ [(request, answer)]) =
      since kind history ++ [(request, answer)] :=
  List.rtakeWhile_concat_pos _ _ _ (by simp [other])

theorem since_concat_of_kind (kind : ρ → Bool) (history : History ρ α)
    {request : ρ} (again : kind request = true) (answer : α) :
    since kind (history ++ [(request, answer)]) = [] :=
  List.rtakeWhile_concat_neg _ _ _ (by simp [again])

theorem filterMap_since_concat (kind : ρ → Bool) (pick? : ρ × α → Option β)
    (history : History ρ α) {request : ρ} (other : kind request = false)
    (answer : α) :
    (since kind (history ++ [(request, answer)])).filterMap pick? =
      (since kind history).filterMap pick? ++
        (pick? (request, answer)).toList := by
  rw [since_concat kind history other, List.filterMap_append]
  cases picks : pick? (request, answer) <;> simp [picks]

theorem filterMap_since_concat_of_kind (kind : ρ → Bool)
    (pick? : ρ × α → Option β) (history : History ρ α) {request : ρ}
    (again : kind request = true) (answer : α) :
    (since kind (history ++ [(request, answer)])).filterMap pick? = [] := by
  rw [since_concat_of_kind kind history again, List.filterMap_nil]

/-- The history of requests made one after the other, and the state after
them. -/
def serve (answer : σ → ρ → α × σ) (start : σ) (requests : List ρ) :
    History ρ α × σ :=
  requests.foldl
    (fun (history, state) request =>
      let (given, after) := answer state request
      (history ++ [(request, given)], after))
    ([], start)

theorem serve_induction {answer : σ → ρ → α × σ} {start : σ}
    {holds : σ → History ρ α → Prop} (begins : holds start [])
    (step : ∀ state history request, holds state history →
      holds (answer state request).2
        (history ++ [(request, (answer state request).1)]))
    (requests : List ρ) :
    holds (serve answer start requests).2 (serve answer start requests).1 := by
  induction requests using List.reverseRecOn with
  | nil => exact begins
  | append_singleton requests request ih =>
      rw [serve, List.foldl_concat]
      exact step _ _ request ih

end History

end QueryLint
