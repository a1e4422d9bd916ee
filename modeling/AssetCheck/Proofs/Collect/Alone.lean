import Mathlib.Data.List.Nodup
import AssetCheck.Proofs.Collect.Grounds
import AssetCheck.Proofs.Scene.Cooked

/-!
# Collecting without a chain

Where there is no chain, the nodes of a report are found by following inputs, in a loop of its own
with a bound on its steps. `Collect.Follows` is this loop without the bound, on any host. On a sound
scene it goes step by step as the loop by which nodes are cooked (`Follows.walks_like`), so it stops
too, and one comes to a cycle where the other does. If there is none, the report is made of the
nodes on the way, the farthest one first (`collects_along`).
-/

namespace AssetCheck

open Scene (host Sound)

/-- The nodes on the way along inputs from a node, without the node itself, with their types: the
farthest one first, and each of them once. -/
structure Scene.Upstream (s : Scene) (handle : NodeHandle) (nodes : List Collect.TypedNode) :
    Prop where
  mem : ∀ other, other ∈ nodes.map Prod.fst ↔ s.Needs handle other ∧ other ≠ handle
  once : (nodes.map Prod.fst).Nodup
  order : (nodes.map Prod.fst ++ [handle]).IsChain fun source fed => s.Feeds fed source
  types : ∀ node ∈ nodes, ∃ n, s.nodes.get? node.1 = some n ∧ n.typeName = node.2

namespace Collect

/-- The error of a way that comes to an input again. -/
def inputCycle (input terminal : NodeHandle) : ReportError :=
  .host (.protocol ("input cycle through " ++ input.label ++ " upstream of " ++ terminal.label))

/-! ## The loop without a bound -/

/-- The loop that follows inputs, from a node and some nodes seen so far on: what it comes to when
it stops. -/
inductive Follows {σ : Type} (h : Host σ) (terminal : NodeHandle) :
    List NodeHandle → NodeHandle → σ → EStateM.Result ReportError σ (List NodeHandle) → Prop
  | refused {seen : List NodeHandle} {node : NodeHandle} {s t : σ} {e : ReportError} :
      ask (h.inputs node) s = .error e t → Follows h terminal seen node s (.error e t)
  | atEnd {seen : List NodeHandle} {node : NodeHandle} {s t : σ} :
      ask (h.inputs node) s = .ok [] t → Follows h terminal seen node s (.ok seen t)
  | again {seen others : List NodeHandle} {node input : NodeHandle} {s t : σ} :
      ask (h.inputs node) s = .ok (input :: others) t → input = terminal ∨ input ∈ seen →
      Follows h terminal seen node s (.error (inputCycle input terminal) t)
  | step {seen others : List NodeHandle} {node input : NodeHandle} {s t : σ}
      {result : EStateM.Result ReportError σ (List NodeHandle)} :
      ask (h.inputs node) s = .ok (input :: others) t → ¬ (input = terminal ∨ input ∈ seen) →
      Follows h terminal (input :: seen) input t result → Follows h terminal seen node s result

/-- The answer to the question for inputs is what the node holds. -/
theorem input_of_ask {node : NodeHandle} {n : SceneNode} {inputs : List NodeHandle} {s t : Scene}
    (hn : s.nodes.get? node = some n) (hasked : ask (host.inputs node) s = .ok inputs t) :
    n.input = inputs.head? ∧ t = s := by
  obtain ⟨rfl, rfl⟩ := EStateM.Result.ok.inj (hasked.symm.trans (ask_ok (Scene.inputs_eq hn)))
  exact ⟨Option.head?_toList.symm, rfl⟩

section Follows

variable {s : Scene} (hs : Sound s) {terminal : NodeHandle}

include hs

/-- With more steps than there are nodes that were not seen, the bound is not met. -/
theorem follows_followInputs (steps : Nat) {seen : List NodeHandle} {node : NodeHandle}
    (hnode : node ∈ s.nodes.keys) (hseen : (terminal :: seen).Nodup)
    (hlive : ∀ met ∈ terminal :: seen, met ∈ s.nodes.keys)
    (hsteps : s.nodes.length ≤ seen.length + steps) :
    Follows host terminal seen node s (followInputs host terminal steps seen node s) := by
  induction steps generalizing seen node with
  | zero =>
    have hle := Scene.length_le_of_nodup hseen hlive
    rw [List.length_cons] at hle
    omega
  | succ steps ih =>
    obtain ⟨n, hn⟩ := Table.mem_keys_iff.1 hnode
    have hinputs := ask_ok (Scene.inputs_eq hn)
    unfold followInputs
    rw [bind_ok hinputs]
    cases hinput : n.input with
    | none =>
      rw [hinput] at hinputs
      exact .atEnd hinputs
    | some input =>
      rw [hinput] at hinputs
      dsimp only [Option.toList]
      by_cases hagain : input = terminal ∨ input ∈ seen
      · rw [if_pos hagain]
        exact .again hinputs hagain
      · rw [if_neg hagain]
        have hmem := hs.mem_of_feeds ⟨n, hn, hinput⟩
        obtain ⟨hterminal, hall⟩ := List.forall_mem_cons.1 hlive
        refine .step hinputs hagain (ih hmem ?_ ?_ ?_)
        · rw [not_or] at hagain
          rw [List.nodup_cons] at hseen
          simp [hagain, hseen, Ne.symm hagain.1]
        · exact List.forall_mem_cons.2 ⟨hterminal, List.forall_mem_cons.2 ⟨hmem, hall⟩⟩
        · rw [List.length_cons]
          omega

theorem follows_of_reach (hmem : terminal ∈ s.nodes.keys) :
    Follows host terminal [] terminal s
      (followInputs host terminal (host.reach s) [] terminal s) := by
  refine follows_followInputs hs (s.nodes.length + 1) hmem (by simp)
    (List.forall_mem_singleton.2 hmem) ?_
  omega

/-- **Two loops.** Following inputs goes on, and stops, as the loop that looks up what the terminal
node depends on. -/
theorem Follows.walks_like {seen : List NodeHandle} {node : NodeHandle} {n : SceneNode}
    {result : EStateM.Result ReportError Scene (List NodeHandle)}
    (h : Follows host terminal seen node s result) (hn : s.nodes.get? node = some n) :
    (∃ rest, s.Walks terminal (seen ++ [terminal]) n.input
        (.ok (terminal :: (seen.reverse ++ rest))) ∧ result = .ok (rest.reverse ++ seen) s) ∨
      (s.Walks terminal (seen ++ [terminal]) n.input
          (.error (.failed ("cycle detected upstream of " ++ terminal.label))) ∧
        ∃ input, result = .error (inputCycle input terminal) s) := by
  induction h generalizing n with
  | refused hasked => cases hasked.symm.trans (ask_ok (Scene.inputs_eq hn))
  | @atEnd seen node s t hasked =>
    obtain ⟨hinput, rfl⟩ := input_of_ask hn hasked
    rw [hinput]
    have hend : t.Walks terminal (seen ++ [terminal]) none _ := .atEnd
    exact .inl ⟨[], by simpa using hend, rfl⟩
  | @again seen others node input s t hasked hagain =>
    obtain ⟨hinput, rfl⟩ := input_of_ask hn hasked
    rw [hinput]
    exact .inr ⟨.again (by simpa [or_comm] using hagain), input, rfl⟩
  | @step seen others node input s t result hasked hfresh _ ih =>
    obtain ⟨hinput, rfl⟩ := input_of_ask hn hasked
    obtain ⟨n', hn'⟩ := Table.mem_keys_iff.1 (hs.mem_of_feeds ⟨n, hn, hinput⟩)
    have hnew : input ∉ seen ++ [terminal] := by simpa [or_comm] using hfresh
    rw [hinput]
    rcases ih hs hn' with ⟨rest, hwalks, rfl⟩ | ⟨hwalks, hcycle⟩
    · refine .inl ⟨input :: rest, .step hnew hn' ?_, by simp⟩
      simpa using hwalks
    · exact .inr ⟨.step hnew hn' hwalks, hcycle⟩

/-- Inputs are followed to the end of the way from a node, or to a node again. -/
theorem followInputs_cases (hmem : terminal ∈ s.nodes.keys) :
    (∃ rest, s.Way (some terminal) (terminal :: rest) ∧
        followInputs host terminal (host.reach s) [] terminal s = .ok rest.reverse s) ∨
      (s.Revisits terminal ∧ ∃ input, followInputs host terminal (host.reach s) [] terminal s =
        .error (inputCycle input terminal) s) := by
  obtain ⟨n, hn⟩ := Table.mem_keys_iff.1 hmem
  have hsupply := Scene.walks_supply hn
  rcases (follows_of_reach hs hmem).walks_like hs hn with
    ⟨rest, hwalks, hresult⟩ | ⟨hwalks, hresult⟩
  · rcases hs.supply_cases hmem with ⟨nodes, hway⟩ | ⟨-, hcycle⟩
    · cases hway.supply_eq.symm.trans (hsupply.unique hwalks)
      exact .inl ⟨rest, hway, by simpa using hresult⟩
    · cases hcycle.symm.trans (hsupply.unique hwalks)
  · rcases hs.supply_cases hmem with ⟨nodes, hway⟩ | ⟨hrevisits, -⟩
    · cases hway.supply_eq.symm.trans (hsupply.unique hwalks)
    · exact .inr ⟨hrevisits, hresult⟩

end Follows

/-! ## The report -/

section Report

variable {s : Scene} {terminal : NodeHandle}

theorem withTypes_live {handles : List NodeHandle}
    (hlive : ∀ handle ∈ handles, handle ∈ s.nodes.keys) :
    ∃ nodes, withTypes host handles s = .ok nodes s ∧ nodes.map Prod.fst = handles ∧
      ∀ node ∈ nodes, ∃ n, s.nodes.get? node.1 = some n ∧ n.typeName = node.2 := by
  induction handles with
  | nil => exact ⟨[], rfl, rfl, List.forall_mem_nil _⟩
  | cons handle rest ih =>
    obtain ⟨hhandle, hrest⟩ := List.forall_mem_cons.1 hlive
    obtain ⟨n, hn⟩ := Table.mem_keys_iff.1 hhandle
    obtain ⟨nodes, hnodes, hhandles, htypes⟩ := ih hrest
    refine ⟨(handle, n.typeName) :: nodes, ?_, by rw [List.map_cons, hhandles],
      List.forall_mem_cons.2 ⟨⟨n, hn, rfl⟩, htypes⟩⟩
    unfold withTypes
    rw [bind_ok (ask_ok (Scene.nodeType_eq hn)), bind_ok hnodes]
    rfl

theorem upstream_of_way {rest : List NodeHandle} (hway : s.Way (some terminal) (terminal :: rest))
    {nodes : List TypedNode} (hnodes : nodes.map Prod.fst = rest.reverse)
    (htypes : ∀ node ∈ nodes, ∃ n, s.nodes.get? node.1 = some n ∧ n.typeName = node.2) :
    s.Upstream terminal nodes where
  mem := by
    intro other
    have hnodup := List.nodup_cons.1 hway.nodup
    rw [hnodes, List.mem_reverse, ← hway.mem_iff, List.mem_cons]
    constructor
    · intro hmem
      exact ⟨.inr hmem, fun he => hnodup.1 (he ▸ hmem)⟩
    · rintro ⟨rfl | hmem, hne⟩
      · exact absurd rfl hne
      · exact hmem
  once := by
    rw [hnodes, List.nodup_reverse]
    exact (List.nodup_cons.1 hway.nodup).2
  order := by
    rw [hnodes, ← List.reverse_cons, List.isChain_reverse]
    exact hway.isChain
  types := htypes

/-- A way that comes to a node again ends the report at once. -/
theorem fromInputs_of_revisits (hs : Sound s) (setting : Setting) (h : s.Revisits terminal) :
    ∃ input, fromInputs host setting terminal s = .error (inputCycle input terminal) s := by
  rcases followInputs_cases hs h.mem_keys with ⟨rest, hway, -⟩ | ⟨-, input, hcycle⟩
  · exact absurd h hway.not_revisits
  · exact ⟨input, bind_error hcycle⟩

theorem fromInputs_of_way (hs : Sound s) (setting : Setting) (hmem : terminal ∈ s.nodes.keys)
    (h : ¬ s.Revisits terminal) :
    ∃ nodes, s.Upstream terminal nodes ∧
      fromInputs host setting terminal s = fromNodes host setting terminal nodes s := by
  rcases followInputs_cases hs hmem with ⟨rest, hway, hfollow⟩ | ⟨hrevisits, -⟩
  · have hlive : ∀ handle ∈ rest.reverse, handle ∈ s.nodes.keys := fun handle hmem =>
      hway.mem_keys (List.mem_cons_of_mem _ (List.mem_reverse.1 hmem))
    obtain ⟨nodes, hnodes, hhandles, htypes⟩ := withTypes_live hlive
    refine ⟨nodes, upstream_of_way hway hhandles htypes, ?_⟩
    unfold fromInputs
    dsimp only
    rw [bind_ok hfollow, bind_ok hnodes]
  · exact absurd hrevisits h

/-- Over the nodes on a way, no report ends in an error of the host. -/
theorem fromNodes_of_upstream (hs : Sound s) (setting : Setting) {nodes : List TypedNode}
    (h : s.Upstream terminal nodes) {e : ReportError} {t : Scene}
    (herror : fromNodes host setting terminal nodes s = .error e t) : e.isOfNodes = true := by
  have hlive : s.Live (nodes.map Prod.fst) := by
    refine ⟨hs, List.forall_mem_map.2 fun node hnode => ?_⟩
    obtain ⟨n, hn, -⟩ := h.types node hnode
    exact Table.mem_keys_iff.2 ⟨n, hn⟩
  have hsettles := fromNodes_settles setting terminal
    (fun node hnode => List.mem_map_of_mem (f := Prod.fst) hnode) s hlive
  rw [herror] at hsettles
  exact hsettles

/-- A report ends in the error of an input cycle only where the way comes to a node again, and with
the scene as before. -/
theorem revisits_of_fromInputs (hs : Sound s) (setting : Setting) (hmem : terminal ∈ s.nodes.keys)
    {input : NodeHandle} {t : Scene}
    (h : fromInputs host setting terminal s = .error (inputCycle input terminal) t) :
    s.Revisits terminal ∧ t = s := by
  have hrevisits : s.Revisits terminal := by
    by_contra hend
    obtain ⟨nodes, hnodes, hreport⟩ := fromInputs_of_way hs setting hmem hend
    cases fromNodes_of_upstream hs setting hnodes (hreport.symm.trans h)
  obtain ⟨other, hother⟩ := fromInputs_of_revisits hs setting hrevisits
  exact ⟨hrevisits, (EStateM.Result.error.inj (h.symm.trans hother)).2⟩

end Report

end Collect

open Collect in
/-- **Without a chain.** At a node of a reachable scene, the loop along inputs stops. The report
ends in the error of an input cycle if and only if cooking the node would end in its error for
cycles, and then the scene is as before. That is where the way comes to a node again; elsewhere the
report is made over the other nodes on the way. -/
theorem collects_along {s : Scene} (h : s.Reachable) (setting : Setting) {handle : NodeHandle}
    (hmem : handle ∈ s.nodes.keys) :
    Follows host handle [] handle s
      (followInputs host handle (host.reach s) [] handle s) ∧
    ((∃ input t, fromInputs host setting handle s = .error (inputCycle input handle) t) ↔
      ∃ t, host.cook handle s =
        .error (.failed ("cycle detected upstream of " ++ handle.label)) t) ∧
    (∀ input t, fromInputs host setting handle s = .error (inputCycle input handle) t → t = s) ∧
    (s.Revisits handle ↔ ∃ t, host.cook handle s =
      .error (.failed ("cycle detected upstream of " ++ handle.label)) t) ∧
    (¬ s.Revisits handle → ∃ nodes, s.Upstream handle nodes ∧
      fromInputs host setting handle s = fromNodes host setting handle nodes s) := by
  have hs := h.sound
  have hcook := hs.revisits_iff_cook hmem
  refine ⟨follows_of_reach hs hmem, ?_, ?_, hcook, fromInputs_of_way hs setting hmem⟩
  · rw [show host.cook = Scene.cook from rfl, ← hcook]
    constructor
    · rintro ⟨input, t, hcycle⟩
      exact (revisits_of_fromInputs hs setting hmem hcycle).1
    · intro hrevisits
      obtain ⟨input, hcycle⟩ := fromInputs_of_revisits hs setting hrevisits
      exact ⟨input, s, hcycle⟩
  · intro input t hcycle
    exact (revisits_of_fromInputs hs setting hmem hcycle).2

open Collect Scene in
/-- A way into a cycle that does not come back to its start, and one past two checks. -/
theorem collects_along_knotted :
    let setting : Setting := ⟨{}, ⟨"artist", "ws01"⟩, "08:00"⟩
    (knotted false).Reachable ∧
    ⟨1⟩ ∈ (knotted false).nodes.keys ∧ ⟨6⟩ ∈ (knotted false).nodes.keys ∧
    host.cook ⟨1⟩ (knotted false) =
      .error (.failed "cycle detected upstream of #1") (knotted false) ∧
    (∃ input, fromInputs host setting ⟨1⟩ (knotted false) =
      .error (inputCycle input ⟨1⟩) (knotted false)) ∧
    ¬ (knotted false).Revisits ⟨6⟩ ∧
    ∃ nodes, (knotted false).Upstream ⟨6⟩ nodes ∧
      fromInputs host setting ⟨6⟩ (knotted false) =
        fromNodes host setting ⟨6⟩ nodes (knotted false) := by
  intro setting
  have hone : ⟨1⟩ ∈ (knotted false).nodes.keys := by decide
  have hsix : ⟨6⟩ ∈ (knotted false).nodes.keys := by decide
  have hway : (knotted false).Way (some ⟨6⟩) [⟨6⟩, ⟨5⟩, ⟨4⟩] :=
    .step rfl (.step rfl (.step rfl .atEnd))
  have hcook : host.cook ⟨1⟩ (knotted false) =
      .error (.failed "cycle detected upstream of #1") (knotted false) := rfl
  obtain ⟨-, hagree, hsame, -⟩ := collects_along .knotted setting hone
  obtain ⟨-, -, -, -, hcollects⟩ := collects_along .knotted setting hsix
  obtain ⟨input, t, hcycle⟩ := hagree.2 ⟨_, hcook⟩
  obtain rfl := hsame input t hcycle
  exact ⟨.knotted, hone, hsix, hcook, ⟨input, hcycle⟩, hway.not_revisits,
    hcollects hway.not_revisits⟩

end AssetCheck
