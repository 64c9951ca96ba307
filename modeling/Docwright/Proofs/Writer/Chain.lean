import Docwright.Writer.Session

namespace Docwright.Writer

variable {σ : Type}

/-- Where a session is: what the attempts of its next call depend on. -/
structure Place (σ : Type) where
  service : σ
  draws : Nat

def Session.place (s : Session σ) : Place σ :=
  ⟨s.service, s.draws⟩

/-- All attempts of a call that is made at a place. -/
def attempt (w : Writer σ) (call : Call) (p : Place σ) : Retry.Run Number Json σ :=
  Retry.run w.policy w.draw (w.service call) p.draws p.service

def Place.next (w : Writer σ) (p : Place σ) (x : Exchange) : Place σ :=
  ⟨(w.attempt x.call p).state, (w.attempt x.call p).draws⟩

/-- The place where the calls of some exchanges, one after the other, lead to. -/
def Place.after (w : Writer σ) (p : Place σ) (xs : List Exchange) : Place σ :=
  xs.foldl (Place.next w) p

/-- The exchange is what comes of its call at a place. -/
structure Exchange.MadeAt (w : Writer σ) (p : Place σ) (x : Exchange) : Prop where
  events : x.events = (w.attempt x.call p).events
  result : x.result = (w.attempt x.call p).result

/-- The exchanges are made one after the other, each at the place where the one before it has led. -/
inductive Chain (w : Writer σ) : Place σ → List Exchange → Place σ → Prop where
  | none (p : Place σ) : Chain w p [] p
  | cons {p q : Place σ} {x : Exchange} {xs : List Exchange} (made : x.MadeAt w p)
    (rest : Chain w (p.next w x) xs q) : Chain w p (x :: xs) q

theorem Chain.trans {w : Writer σ} {p q r : Place σ} {xs ys : List Exchange} (h : Chain w p xs q)
    (h' : Chain w q ys r) : Chain w p (xs ++ ys) r := by
  induction h with
  | none => exact h'
  | cons made _ ih => exact .cons made (ih h')

theorem Chain.madeAt {w : Writer σ} {p q : Place σ} {before after : List Exchange} {x : Exchange}
    (h : Chain w p (before ++ x :: after) q) : x.MadeAt w (p.after w before) := by
  induction before generalizing p with
  | nil =>
    cases h with
    | cons made => exact made
  | cons y before ih =>
    cases h with
    | cons _ rest => exact ih rest

theorem Chain.exists_madeAt {w : Writer σ} {p q : Place σ} {xs : List Exchange} (h : Chain w p xs q)
    {x : Exchange} (hx : x ∈ xs) : ∃ p, x.MadeAt w p := by
  obtain ⟨before, after, rfl⟩ := List.append_of_mem hx
  exact ⟨_, h.madeAt⟩

end Docwright.Writer
