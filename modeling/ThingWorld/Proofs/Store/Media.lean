import ThingWorld.Proofs.Index.Rebuild
import ThingWorld.Proofs.Store.Medium
namespace ThingWorld

namespace Snapshot

-- The last byte decides where all bytes before it are the same.
theorem compare_concat {bytes : Bytes} (b b' : UInt8) : ∀ {bytes' : Bytes}, bytes.length = bytes'.length →
    compare (bytes ++ [b]) (bytes' ++ [b']) = (compare bytes bytes').then (compare b b') := by
  induction bytes with
  | nil =>
    intro bytes' long
    obtain rfl := List.length_eq_zero_iff.mp long.symm
    rw [List.nil_append, List.nil_append, List.compare_cons_cons]
    cases compare b b' <;> rfl
  | cons c rest ih =>
    intro bytes' long
    cases bytes' with
    | nil => cases long
    | cons c' rest' =>
      rw [List.cons_append, List.cons_append, List.compare_cons_cons, List.compare_cons_cons,
        ih (Nat.succ.inj long), Ordering.then_assoc]

theorem compare_ofNat {n m : Nat} (small : n < 256) (small' : m < 256) :
    compare (UInt8.ofNat n) (UInt8.ofNat m) = compare n m := by
  have low : (UInt8.ofNat n).toNat = n := UInt8.toNat_ofNat_of_lt' small
  have low' : (UInt8.ofNat m).toNat = m := UInt8.toNat_ofNat_of_lt' small'
  rcases Nat.lt_trichotomy n m with before | same | behind
  · rw [Nat.compare_eq_lt.mpr before, Std.compare_eq_lt, UInt8.lt_iff_toNat_lt, low, low']
    exact before
  · rw [same, Std.compare_self, Std.compare_self]
  · rw [Nat.compare_eq_gt.mpr behind, Std.compare_eq_gt, UInt8.lt_iff_toNat_lt, low, low']
    exact behind

theorem compare_digits (n m : Nat) :
    compare n m = (compare (n / 256) (m / 256)).then (compare (n % 256) (m % 256)) := by
  rcases Nat.lt_trichotomy (n / 256) (m / 256) with before | same | behind
  · rw [Nat.compare_eq_lt.mpr before, Nat.compare_eq_lt.mpr (by omega), Ordering.lt_then]
  · have low : n < m ↔ n % 256 < m % 256 := by omega
    have low' : m < n ↔ m % 256 < n % 256 := by omega
    rw [Nat.compare_eq_eq.mpr same, Ordering.eq_then, Nat.compare_eq_ite_lt, Nat.compare_eq_ite_lt]
    simp only [low, low']
  · rw [Nat.compare_eq_gt.mpr behind, Nat.compare_eq_gt.mpr (by omega), Ordering.gt_then]

theorem compare_reverse_word (width : Nat) : ∀ {n m : Nat}, n < 256 ^ width → m < 256 ^ width →
    compare (writeWord width n).reverse (writeWord width m).reverse = compare n m := by
  induction width with
  | zero =>
    intro n m small small'
    have zero : n = 0 := by simpa using small
    have zero' : m = 0 := by simpa using small'
    rw [zero, zero']
    rfl
  | succ width ih =>
    intro n m small small'
    rw [Nat.pow_succ, Nat.mul_comm] at small small'
    have high := Nat.div_lt_of_lt_mul small
    have high' := Nat.div_lt_of_lt_mul small'
    have low (k : Nat) : k % 256 < 256 := Nat.mod_lt k (by decide)
    rw [writeWord, writeWord, List.reverse_cons, List.reverse_cons, compare_concat _ _ (by simp [writeWord_length]),
      ih high high', compare_ofNat (low n) (low m), ← compare_digits]

end Snapshot

theorem KeyTree.compare_thingKey {id other : ThingId} : compare (thingKey id) (thingKey other) = .lt ↔ id < other := by
  rw [thingKey, thingKey, Snapshot.writeUInt64, Snapshot.writeUInt64,
    Snapshot.compare_reverse_word 8 id.toNat_lt other.toNat_lt, Nat.compare_eq_lt, UInt64.lt_iff_toNat_lt]

-- Keys of another length belong to no id, so that only the others are to be compared.
theorem KeyTree.ascending_ids (tree : KeyTree) : tree.ids.Pairwise (· < ·) := by
  rw [ids, List.pairwise_filterMap]
  refine Std.ExtTreeMap.ordered_keys.imp ?_
  intro key key' before id named other named'
  rwa [← thingKey_keyId named, ← thingKey_keyId named', compare_thingKey] at before

theorem Medium.lists_ids (medium : Medium) : Index.Lists medium.ids fun id => ∃ blob, medium.get? id = some blob := by
  refine ⟨?_, medium.mem_ids⟩
  cases medium with
  | table contents => exact Index.ascending_keys contents.things
  | tree contents => exact contents.ascending_ids

theorem Index.lists_unique {listed listed' : List ThingId} {stands : ThingId → Prop} (lists : Index.Lists listed stands)
    (lists' : Index.Lists listed' stands) : listed = listed' := by
  have distinct {ids : List ThingId} (ascending : ids.Pairwise (· < ·)) : ids.Nodup :=
    ascending.imp fun before => UInt64.ne_of_lt before
  refine List.Perm.eq_of_pairwise (fun id other _ _ before behind => ?_) lists.ascending lists'.ascending ?_
  · exact absurd behind (UInt64.lt_asymm before)
  · rw [List.perm_ext_iff_of_nodup (distinct lists.ascending) (distinct lists'.ascending)]
    exact fun id => (lists.members id).trans (lists'.members id).symm

-- What a medium is asked: what lies there, or to take one of its calls.
inductive StoreRequest where
  | get (id : ThingId)
  | ids
  | info
  | take (call : StoreCall)

inductive StoreAnswer where
  | blob (found : Option Bytes)
  | ids (listed : List ThingId)
  | done

-- What was last put under an id, if nothing took it away since. The latest call stands first.
def lying (id : ThingId) : List StoreCall → Option Bytes
  | [] => none
  | .put other blob :: before => if other = id then some blob else lying id before
  | .delete other :: before => if other = id then none else lying id before
  | .deleteAll :: _ => none
  | _ :: before => lying id before

-- And the world record.
def noted : List StoreCall → Option Bytes
  | [] => none
  | .putInfo blob :: _ => some blob
  | .deleteAll :: _ => none
  | _ :: before => noted before

-- The answer that is due to a request after these calls.
inductive Due (calls : List StoreCall) : StoreRequest → StoreAnswer → Prop where
  | get (id : ThingId) : Due calls (.get id) (.blob (lying id calls))
  | ids {listed : List ThingId} (lists : Index.Lists listed fun id => ∃ blob, lying id calls = some blob) :
      Due calls .ids (.ids listed)
  | info : Due calls .info (.blob (noted calls))
  | take (call : StoreCall) : Due calls (.take call) .done

theorem due_unique {calls : List StoreCall} {request : StoreRequest} {answer answer' : StoreAnswer}
    (due : Due calls request answer) (due' : Due calls request answer') : answer = answer' := by
  cases due with
  | ids lists =>
    cases due' with
    | ids lists' => rw [Index.lists_unique lists lists']
  | _ =>
    cases due'
    rfl

def StoreRequest.calls : StoreRequest → List StoreCall
  | take call => [call]
  | _ => []

-- Each answer was due where it was given.
inductive Told : List StoreCall → List StoreRequest → List StoreAnswer → Prop where
  | nil (calls : List StoreCall) : Told calls [] []
  | cons {calls : List StoreCall} {request : StoreRequest} {answer : StoreAnswer} {requests : List StoreRequest}
      {answers : List StoreAnswer} (due : Due calls request answer)
      (rest : Told (request.calls ++ calls) requests answers) : Told calls (request :: requests) (answer :: answers)

theorem told_unique {calls : List StoreCall} {requests : List StoreRequest} {answers answers' : List StoreAnswer}
    (told : Told calls requests answers) (told' : Told calls requests answers') : answers = answers' := by
  induction told generalizing answers' with
  | nil calls =>
    cases told'
    rfl
  | cons due rest ih =>
    cases told' with
    | cons due' rest' => rw [due_unique due due', ih rest']

namespace Medium

def serve (medium : Medium) : StoreRequest → StoreAnswer × Medium
  | .get id => (.blob (medium.get? id), medium)
  | .ids => (.ids medium.ids, medium)
  | .info => (.blob medium.info, medium)
  | .take call => (.done, medium.apply call)

def answers (medium : Medium) : List StoreRequest → List StoreAnswer
  | [] => []
  | request :: rest => (medium.serve request).1 :: (medium.serve request).2.answers rest

-- What lies there is what these calls have left there.
structure Took (medium : Medium) (calls : List StoreCall) : Prop where
  things : ∀ id, medium.get? id = lying id calls
  info : medium.info = noted calls

variable {medium : Medium} {calls : List StoreCall}

theorem took_call (took : medium.Took calls) (call : StoreCall) : (medium.apply call).Took (call :: calls) := by
  cases call with
  | put id blob =>
    refine ⟨fun other => ?_, (medium.info_put id blob).trans took.info⟩
    rw [get_put, took.things]
    rfl
  | delete id =>
    refine ⟨fun other => ?_, (medium.info_delete id).trans took.info⟩
    rw [get_delete, took.things]
    rfl
  | deleteAll => exact ⟨medium.get_deleteAll, medium.info_deleteAll⟩
  | putInfo blob =>
    exact ⟨fun other => (medium.get_putInfo other blob).trans (took.things other), medium.info_putInfo blob⟩
  | flush =>
    rw [medium.apply_flush]
    exact ⟨took.things, took.info⟩

theorem took_serve (took : medium.Took calls) (request : StoreRequest) :
    Due calls request (medium.serve request).1 ∧ (medium.serve request).2.Took (request.calls ++ calls) := by
  cases request with
  | get id =>
    refine ⟨?_, took⟩
    rw [serve, took.things]
    exact .get id
  | ids =>
    refine ⟨.ids ⟨medium.lists_ids.ascending, fun id => ?_⟩, took⟩
    rw [← took.things]
    exact medium.lists_ids.members id
  | info =>
    refine ⟨?_, took⟩
    rw [serve, took.info]
    exact .info
  | take call => exact ⟨.take call, took_call took call⟩

theorem told_answers (requests : List StoreRequest) : ∀ {medium : Medium} {calls : List StoreCall},
    medium.Took calls → Told calls requests (medium.answers requests) := by
  induction requests with
  | nil => exact fun _ => .nil _
  | cons request rest ih =>
    intro medium calls took
    obtain ⟨due, took'⟩ := took_serve took request
    exact .cons due (ih took')

theorem took_table : (table .empty).Took [] :=
  ⟨fun _ => Std.ExtTreeMap.getElem?_empty, rfl⟩

theorem took_tree : (tree .empty).Took [] :=
  ⟨fun _ => Std.ExtTreeMap.getElem?_empty, Std.ExtTreeMap.getElem?_empty⟩

-- Whatever an empty medium is asked, the table and the tree answer the same, and what is due after the calls before.
theorem media_are_interchangeable (requests : List StoreRequest) :
    (table .empty).answers requests = (tree .empty).answers requests ∧
      Told [] requests ((table .empty).answers requests) :=
  ⟨told_unique (told_answers requests took_table) (told_answers requests took_tree), told_answers requests took_table⟩

end Medium
end ThingWorld
