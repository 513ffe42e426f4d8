import ThingWorld.Proofs.Course.Calls
import ThingWorld.Proofs.Course.Raising
namespace ThingWorld

namespace World

variable {α : Type}

theorem charted_making {law : Law} (suffers : law.Suffers Deed.makes) (operation : Operation α)
    (makes : operation.makes = true) (world : World) : Charted law operation.run world := by
  cases operation with
  | create name description => exact charted_create suffers name description world
  | createFrom prototype name description => exact charted_createFrom suffers prototype name description world
  | linkRooms room thereName other backName => exact charted_linkRooms suffers room thereName other backName world
  | copy id => exact charted_copy suffers id world
  | copySet id members => exact charted_copySet suffers id members world
  | _ => cases makes

theorem raised_operation (operation : Operation α) (makes : operation.makes = true) :
    ∃ act : Act α, operation.run = Run.ofAct act ∧ ∀ {floor : ThingId} {world : World}, floor ≤ world.info.nextId →
      world.Affords (operation.takes world) →
        Raised floor (operation.takes world) world (fun a => ∀ id ∈ operation.made a, floor ≤ id) (act.run world) := by
  have one {floor copy : ThingId} (high : floor ≤ copy) : ∀ id ∈ [copy], floor ≤ id :=
    fun id member => List.mem_singleton.mp member ▸ high
  cases operation with
  | create name description =>
    refine ⟨_, rfl, fun {floor world} high left => ?_⟩
    exact raised_mono (builds_read (fun _ => builds_createFrom _ name description) world high left) fun _ => one
  | createFrom prototype name description =>
    refine ⟨_, rfl, fun {floor world} high left => ?_⟩
    exact raised_mono (builds_createFrom prototype name description world high left) fun _ => one
  | linkRooms room thereName other backName =>
    refine ⟨_, rfl, fun {floor world} high left => ?_⟩
    refine raised_mono (builds_linkRooms room thereName other backName world high left) ?_
    rintro ⟨there, back⟩ ⟨high, high'⟩ id member
    rcases List.mem_cons.mp member with rfl | member
    · exact high
    · exact one high' id member
  | copy id =>
    refine ⟨_, rfl, fun {floor world} high left => ?_⟩
    rw [run_copy]
    exact raised_mono (raised_copySet id (world.connected id) high left) fun _ => one
  | copySet id members =>
    refine ⟨_, rfl, fun {floor world} high left => ?_⟩
    exact raised_mono (raised_copySet id members high left) fun _ => one
  | _ => cases makes

theorem createFrom_takes {prototype : Option ThingId} {name description : String} {world last : World} {id : ThingId}
    (ran : (createFrom prototype name description).run world = (.ok id, last)) : id = world.info.nextId ∧
      last.things[id]? = some (describeNew name description
        ((Thing.fresh id prototype).addEdge ⟨Relation.location, world.info.limbo⟩)) := by
  rw [createFrom, Act.run_bind, Act.run_get] at ran
  obtain ⟨mid, ran, same, _⟩ := scope_gave ran
  obtain ⟨id', bare, made, ran⟩ := Act.bind_ok ran
  obtain ⟨next, found⟩ := createBare_takes made
  rw [Act.run_bind, run_edit, contains_createBare made] at ran
  cases ran
  refine ⟨next, ?_⟩
  rw [same, retouch, found]
  exact (Std.ExtTreeMap.getElem?_insert_self : (bare.things.insert id _)[id]? = _)

end World
end ThingWorld
