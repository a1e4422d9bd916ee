import AssetCheck.Proofs.Scene.Moves

/-!
# What a scene answers

The answers to requests about a node, in terms of the node that the scene holds. A question leaves
the scene as it is.
-/

namespace AssetCheck.Scene

theorem query_ok {α : Type} {answer : Scene → Except HostError α} {s : Scene} {a : α}
    (h : answer s = .ok a) : query answer s = .ok a s := by
  unfold query; rw [h]

theorem query_error {α : Type} {answer : Scene → Except HostError α} {s : Scene} {e : HostError}
    (h : answer s = .error e) : query answer s = .error e s := by
  unfold query; rw [h]

section Answers

variable {s : Scene} {handle : NodeHandle} {n : SceneNode} (h : s.nodes.get? handle = some n)

include h

theorem nodeType_eq : host.nodeType handle s = .ok n.typeName s := by
  show query (fun s => do return (← s.node handle).typeName) s = _
  exact query_ok (by rw [node_of_get? h]; rfl)

theorem nodeName_eq : host.nodeName handle s = .ok n.name s := by
  show query (fun s => do return (← s.node handle).name) s = _
  exact query_ok (by rw [node_of_get? h]; rfl)

theorem inputs_eq : host.inputs handle s = .ok n.input.toList s := by
  show query (fun s => do return (← s.node handle).input.toList) s = _
  exact query_ok (by rw [node_of_get? h]; rfl)

theorem findParameter_eq (name : String) :
    host.findParameter handle name s =
      .ok (if name ∈ n.parameters.keys then some ⟨handle, name⟩ else none) s := by
  show query (fun s => do
    let node ← s.node handle
    return if (node.parameters.get? name).isSome then some (ParameterHandle.mk handle name)
      else none) s = _
  refine query_ok ?_
  rw [node_of_get? h]
  by_cases hname : name ∈ n.parameters.keys
  · obtain ⟨value, hv⟩ := Table.mem_keys_iff.1 hname
    rw [if_pos hname]
    show Except.ok (if (n.parameters.get? name).isSome then _ else _) = _
    rw [hv]
    rfl
  · rw [if_neg hname]
    show Except.ok (if (n.parameters.get? name).isSome then _ else _) = _
    rw [Table.get?_eq_none_iff.2 hname]
    rfl

theorem findTrigger_eq {type : NodeType} (ht : s.types.get? n.typeName = some type)
    (name : String) :
    host.findTrigger handle name s =
      .ok (if name ∈ type.triggers then some ⟨handle, name⟩ else none) s := by
  show query (fun s => do
    let type ← s.typeOf handle
    return if name ∈ type.triggers then some (ActionHandle.mk handle name) else none) s = _
  exact query_ok (by rw [typeOf_of_get? h ht]; rfl)

theorem parameterValue_eq {name : String} {value : ParamValue}
    (hv : n.parameters.get? name = some value) :
    host.parameterValue ⟨handle, name⟩ s = .ok value s := by
  show query (fun s => s.parameterValue ⟨handle, name⟩) s = _
  refine query_ok ?_
  unfold parameterValue
  rw [except_bind_ok (node_of_get? h), hv]

theorem messages_of_cooked {type : NodeType} (ht : s.types.get? n.typeName = some type)
    (hc : n.cooked = true) (read : NodeType → List String) :
    s.messages handle read = .ok (read type) := by
  unfold messages
  rw [except_bind_ok (node_of_get? h), if_pos hc, except_bind_ok (typeOf_of_get? h ht)]
  rfl

theorem warnings_of_cooked {type : NodeType} (ht : s.types.get? n.typeName = some type)
    (hc : n.cooked = true) : host.warnings handle s = .ok type.warnings s := by
  show query (fun s => s.messages handle (·.warnings)) s = _
  exact query_ok (messages_of_cooked h ht hc (·.warnings))

theorem errors_of_cooked {type : NodeType} (ht : s.types.get? n.typeName = some type)
    (hc : n.cooked = true) : host.errors handle s = .ok type.errors s := by
  show query (fun s => s.messages handle (·.errors)) s = _
  exact query_ok (messages_of_cooked h ht hc (·.errors))

theorem setParameter_of_mem {name : String} (hname : name ∈ n.parameters.keys)
    (value : ParamValue) :
    host.setParameter ⟨handle, name⟩ value s =
      .ok ()
        (s.updateNode handle fun n => { n with parameters := n.parameters.insert name value }) := by
  obtain ⟨old, hv⟩ := Table.mem_keys_iff.1 hname
  have hold : s.parameterValue ⟨handle, name⟩ = .ok old := by
    unfold parameterValue
    rw [except_bind_ok (node_of_get? h), hv]
  show setParameter ⟨handle, name⟩ value s = _
  unfold setParameter
  rw [hold]

end Answers

theorem fireTrigger_of_mem {s : Scene} {action : ActionHandle} (h : action.node ∈ s.nodes.keys) :
    host.fireTrigger action s = .ok () { s with fired := s.fired ++ [action] } := by
  obtain ⟨n, hn⟩ := Table.mem_keys_iff.1 h
  show fireTrigger action s = _
  unfold fireTrigger
  rw [node_of_get? hn]

end AssetCheck.Scene
