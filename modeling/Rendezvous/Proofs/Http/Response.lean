import Rendezvous.Http
import Rendezvous.Proofs.Json.Printing

/-!
# Responses can be told apart

The response to a call determines how the call ended: no two payloads and no two statuses have the
same response, and only a payload has the status 200.
-/

namespace Rendezvous.Http

theorem toList_loop (bytes : ByteArray) (index : Nat) (read : List UInt8) :
    ByteArray.toList.loop bytes index read = read.reverse ++ bytes.data.toList.drop index := by
  fun_induction ByteArray.toList.loop bytes index read with
  | case1 index read more ih =>
      have byte : bytes.get! index = bytes.data.toList.get ⟨index, more⟩ :=
        getElem!_pos bytes.data index more
      rw [ih, List.drop_eq_getElem_cons more, List.reverse_cons, byte]
      simp
  | case2 index read done =>
      have short : bytes.data.toList.length ≤ index := Nat.le_of_not_lt done
      rw [List.drop_eq_nil_of_le short, List.append_nil]

theorem bytesOf_eq (text : String) : bytesOf text = text.toByteArray.data.toList := by
  rw [bytesOf, ByteArray.toList, toList_loop]
  rfl

theorem bytesOf_injective : Function.Injective bytesOf := by
  intro text other same
  rw [bytesOf_eq, bytesOf_eq] at same
  exact String.toByteArray_inj.mp (ByteArray.ext (Array.toList_inj.mp same))

namespace Response

theorem ofPayload_injective : Function.Injective ofPayload := by
  intro payload other same
  have message := EventMessage.toJson_injective
    (bytesOf_injective (congrArg Response.body same))
  exact congrArg EventMessage.payload message

/-- Two statuses share an HTTP status, but not the body. -/
theorem dataLoss_ne_internal : ofStatus .dataLoss ≠ ofStatus .internal := by
  decide +kernel

theorem ofStatus_injective : Function.Injective ofStatus := by
  intro status other same
  have number := congrArg Response.status same
  cases status <;> cases other <;> simp [ofStatus, CallStatus.httpStatus] at number
  case dataLoss.internal => exact absurd same dataLoss_ne_internal
  case internal.dataLoss => exact absurd same.symm dataLoss_ne_internal
  all_goals rfl

theorem status_ofStatus_ne (status : CallStatus) : (ofStatus status).status ≠ 200 := by
  cases status <;> simp [ofStatus, CallStatus.httpStatus]

theorem ofPayload_ne_ofStatus (payload : String) (status : CallStatus) :
    ofPayload payload ≠ ofStatus status :=
  fun same => status_ofStatus_ne status (congrArg Response.status same).symm

theorem ofOutcome_injective : Function.Injective ofOutcome := by
  intro outcome other same
  cases outcome <;> cases other
  · exact congrArg Outcome.completed (ofPayload_injective same)
  · exact absurd same (ofPayload_ne_ofStatus _ _)
  · exact absurd same.symm (ofPayload_ne_ofStatus _ _)
  · exact congrArg Outcome.failed (ofStatus_injective same)

end Response

end Rendezvous.Http
