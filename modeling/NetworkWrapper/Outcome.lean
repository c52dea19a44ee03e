set_option autoImplicit false

-- What a call into C++ code ends in. An exception leaves the changes made
-- before the throw behind, so its constructor keeps the state. Undefined
-- behaviour keeps the last state before it: nothing is promised after it.
inductive Outcome (World : Type) where
  | returned (world : World)
  | threw (what : String) (world : World)
  | undefined (world : World)
deriving DecidableEq, Repr

namespace Outcome

variable {World Other : Type}

def world : Outcome World → World
  | .returned world => world
  | .threw _ world => world
  | .undefined world => world

def andThen (first : Outcome World) (next : World → Outcome World) : Outcome World :=
  match first with
  | .returned world => next world
  | .threw what world => .threw what world
  | .undefined world => .undefined world

def map (lift : World → Other) : Outcome World → Outcome Other
  | .returned world => .returned (lift world)
  | .threw what world => .threw what (lift world)
  | .undefined world => .undefined (lift world)

@[simp] theorem world_returned (world : World) : (Outcome.returned world).world = world := rfl
@[simp] theorem world_threw (what : String) (world : World) : (Outcome.threw what world).world = world := rfl
@[simp] theorem world_undefined (world : World) : (Outcome.undefined world).world = world := rfl

@[simp] theorem returned_and_then (world : World) (next : World → Outcome World) :
    (Outcome.returned world).andThen next = next world := rfl

@[simp] theorem threw_and_then (what : String) (world : World) (next : World → Outcome World) :
    (Outcome.threw what world).andThen next = .threw what world := rfl

@[simp] theorem undefined_and_then (world : World) (next : World → Outcome World) :
    (Outcome.undefined world).andThen next = .undefined world := rfl

@[simp] theorem map_returned (lift : World → Other) (world : World) :
    (Outcome.returned world).map lift = .returned (lift world) := rfl

@[simp] theorem map_world (lift : World → Other) (outcome : Outcome World) :
    (outcome.map lift).world = lift outcome.world := by
  cases outcome <;> rfl

theorem and_then_world (holds : World → Prop) (first : Outcome World) (next : World → Outcome World)
    (kept : holds first.world) (onward : ∀ world, first = .returned world → holds (next world).world) :
    holds (first.andThen next).world := by
  cases first with
  | returned world => exact onward world rfl
  | threw what world => exact kept
  | undefined world => exact kept

theorem and_then_keeps (holds : World → Prop) (first : Outcome World) (next : World → Outcome World)
    (kept : holds first.world) (onward : ∀ world, holds world → holds (next world).world) :
    holds (first.andThen next).world := by
  apply and_then_world holds first next kept
  intro world done
  rw [done] at kept
  exact onward world kept

end Outcome

-- Why a process no longer runs. An exception that leaves a handler leaves the
-- thread function running io_context::run(), which ends the process.
inductive Ending where
  | running
  | escaped (what : String)
  | undefined
deriving DecidableEq, Repr

structure Process (World : Type) where
  world : World
  ending : Ending
deriving DecidableEq, Repr

-- A handler called from io_context::run().
def settle {World : Type} : Outcome World → Process World
  | .returned world => ⟨world, .running⟩
  | .threw what world => ⟨world, .escaped what⟩
  | .undefined world => ⟨world, .undefined⟩

-- A call made by the program's own code outside the handlers: an exception goes
-- to that caller and the process lives on.
def settleCall {World : Type} : Outcome World → Process World
  | .returned world => ⟨world, .running⟩
  | .threw _ world => ⟨world, .running⟩
  | .undefined world => ⟨world, .undefined⟩

@[simp] theorem settle_world {World : Type} (outcome : Outcome World) : (settle outcome).world = outcome.world := by
  cases outcome <;> rfl

@[simp] theorem settle_call_world {World : Type} (outcome : Outcome World) :
    (settleCall outcome).world = outcome.world := by
  cases outcome <;> rfl
