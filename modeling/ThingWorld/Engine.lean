import ThingWorld.Command.Context
import ThingWorld.World.Scope
namespace ThingWorld

structure Engine where
  steps : Nat
  dispatch : Context → String → Run (Option Script.Value)

-- An engine that can do nothing more.
def Engine.spent : Engine := ⟨0, fun _ _ => Run.exhausted⟩

def Run.ofExcept {α : Type} (result : Except Failure α) : Run α :=
  fun world => some (result, world)

end ThingWorld
