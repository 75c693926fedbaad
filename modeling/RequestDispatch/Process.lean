/-!
Processes: computations that change a world and end with a result, or are abandoned. What an
abandoned process has done to its world stays done.
-/

namespace RequestDispatch

/-- A computation on a world. It gives no result if it is abandoned. -/
def Process (World α : Type) : Type := World → Option α × World

namespace Process

variable {World α β γ : Type}

def done (result : α) : Process World α := fun world => (some result, world)

def abandon : Process World α := fun world => (none, world)

/-- One process after another. After an abandoned one nothing follows. -/
def andThen (first : Process World α) (next : α → Process World β) : Process World β :=
  fun world =>
    match first world with
    | (some result, after) => next result after
    | (none, after) => (none, after)

instance : Monad (Process World) where
  pure := done
  bind := andThen

def change (step : World → α × World) : Process World α := fun world =>
  let (result, after) := step world
  (some result, after)

theorem andThen_done (process : Process World α) : process.andThen done = process := by
  funext world
  unfold andThen done
  cases process world with
  | mk result after => cases result <;> rfl

theorem done_andThen (result : α) (next : α → Process World β) :
    (done result).andThen next = next result := rfl

theorem andThen_assoc (first : Process World α) (second : α → Process World β)
    (third : β → Process World γ) :
    (first.andThen second).andThen third = first.andThen fun result =>
      (second result).andThen third := by
  funext world
  unfold andThen
  cases first world with
  | mk result after => cases result <;> rfl

instance : LawfulMonad (Process World) := LawfulMonad.mk' _ andThen_done done_andThen andThen_assoc

end Process

structure Part (World Held : Type) where
  get : World → Held
  set : Held → World → World

def Part.whole (World : Type) : Part World World := ⟨id, fun world _ => world⟩

end RequestDispatch
