/-! # Values with a log

`Logged ε α` is a value together with the events reported while it was computed, oldest first.  The
simulation is written in this monad once; `value` forgets the events, and the lemmas below let a
statement about the outcome be read off without looking at what was reported.
-/

namespace Handover

structure Logged (ε : Type) (α : Type) where
  value : α
  events : List ε
deriving DecidableEq

namespace Logged

variable {ε ε' α β σ : Type}

instance : Monad (Logged ε) where
  pure a := ⟨a, []⟩
  bind x f := ⟨(f x.value).value, x.events ++ (f x.value).events⟩

instance : LawfulMonad (Logged ε) := LawfulMonad.mk' (Logged ε)
  (fun x => by cases x; simp [Functor.map])
  (fun _ _ => by simp [bind, pure])
  (fun _ _ _ => by simp [bind])
  (fun _ _ => by simp [Functor.mapConst, Functor.map])
  (fun _ _ => by simp [SeqLeft.seqLeft, bind, pure])
  (fun _ _ => by simp [SeqRight.seqRight, bind])
  (fun _ _ => by simp [Functor.map, bind, pure])
  (fun _ _ => by simp [Seq.seq, Functor.map, bind])

/-- Reports events, and nothing else. -/
def report (events : List ε) : Logged ε Unit := ⟨(), events⟩

/-- The same computation, its events read as events of a larger kind. -/
def lift (f : ε → ε') (x : Logged ε α) : Logged ε' α := ⟨x.value, x.events.map f⟩

/-- What is done with a value may be replaced by anything that does the same with this value. -/
theorem bind_congr {x : Logged ε α} {f g : α → Logged ε β} (same : f x.value = g x.value) :
    x >>= f = x >>= g := by
  show Logged.mk _ _ = Logged.mk _ _
  rw [same]

/-! ## The value of a computation -/

@[simp] theorem value_pure (a : α) : (pure a : Logged ε α).value = a := rfl

@[simp] theorem value_bind (x : Logged ε α) (f : α → Logged ε β) :
    (x >>= f).value = (f x.value).value := rfl

@[simp] theorem value_map (f : α → β) (x : Logged ε α) : (f <$> x).value = f x.value := rfl

@[simp] theorem value_lift (f : ε → ε') (x : Logged ε α) : (x.lift f).value = x.value := rfl

/-- A fold that reports has the value of the fold that does not. -/
@[simp] theorem value_foldlM (f : σ → α → Logged ε σ) (s : σ) (xs : List α) :
    (xs.foldlM f s).value = xs.foldl (fun s x => (f s x).value) s := by
  induction xs generalizing s with
  | nil => rfl
  | cons x xs ih => simpa using ih (f s x).value

/-- Computing over a list with reports has the value of the plain map. -/
@[simp] theorem value_mapM (f : α → Logged ε β) (xs : List α) :
    (xs.mapM f).value = xs.map fun x => (f x).value := by
  induction xs with
  | nil => rfl
  | cons x xs ih => simp [List.mapM_cons, ih]

end Logged

end Handover
