import DebugBridge.Message.Response
import DebugBridge.Proofs.Message.Request

/-!
# Responses of the bridge

Every response that the bridge makes is marked as one and carries the number and the command that it was made
for.
-/

namespace DebugBridge.Response

/-- What marks a response and ties it to its request. -/
theorem get?_toJson (r : Response) :
    r.toJson.get? "type" = some (.str "response") ∧ r.toJson.get? "request_seq" = some (.int r.seq) ∧
      r.toJson.get? "command" = some (.str r.command) := by
  obtain ⟨seq, success, command, text, body⟩ := r
  simp only [toJson, Json.get?_ofMembers]
  cases text <;> cases body <;> simp [List.lookup]

/-- A success is told as one, with what it holds. -/
theorem fields_succeed (r : Request) (body : Json) :
    (succeed r (some body)).toJson.getBool? "success" = some true ∧
      (succeed r (some body)).toJson.get? "body" = some body := by
  simp [succeed, toJson, Json.getBool?, Json.get?_ofMembers, List.lookup, Json.asBool?]

/-- A failure is told as one. -/
theorem success_fail (r : Request) (text : String) :
    (fail r text).toJson.getBool? "success" = some false := by
  simp [fail, toJson, Json.getBool?, Json.get?_ofMembers, List.lookup, Json.asBool?]

theorem success_failFor (message : Json) (text : String) :
    (failFor message text).toJson.getBool? "success" = some false := by
  simp [failFor, toJson, Json.getBool?, Json.get?_ofMembers, List.lookup, Json.asBool?]

/-- The number of a message is within a signed word. -/
theorem range_seqOf {message : Json} (wellFormed : message.WellFormed) :
    -2 ^ 63 ≤ seqOf message ∧ seqOf message < 2 ^ 63 := by
  rw [seqOf, Json.getInt?]
  cases found : message.get? "seq" with
  | none => simp
  | some v =>
      cases small : v.asInt? with
      | none => simp [small]
      | some n =>
          have range := Json.range_of_asInt? (Json.wellFormed_of_get? wellFormed found) small
          simpa [small] using range

/-- A failure inherits everything, whatever failed: there is not much in it. -/
theorem inherited_failFor {P : Nat → Json → Prop} (inherited : Json.Inherited P) (limit : Nat) {message : Json}
    (wellFormed : message.WellFormed) (text : String) : P (limit + 1) (failFor message text).toJson := by
  obtain ⟨least, most⟩ := range_seqOf wellFormed
  have seq : P limit (.int (seqOf message)) := by
    refine inherited.int limit least ?_
    simp only [Json.maxInt]
    omega
  have text := inherited.text limit
  apply inherited.ofMembers
  simp only [failFor, Option.map_some, Option.map_none, Option.toList_some, Option.toList_none,
    List.append_nil, List.cons_append, List.nil_append, List.forall_mem_cons]
  exact ⟨seq, text _, seq, inherited.bool limit false, text _, text _, by simp⟩

end DebugBridge.Response
