import AssetCheck.Proofs.Build.Calls
import AssetCheck.Proofs.Build.Frame
import AssetCheck.Proofs.Scene.Answers
import AssetCheck.Proofs.Scene.Handles

/-!
# Names of nodes

A node is named by its type with a number behind it, which counts the nodes of that type. Nothing is
counted back, so nodes of one type never share a name, also where some have been removed since.
Nothing stands between type and number, so nodes of different types may; then one type is the other
with digits behind it (`nameLaws_of_named`).

What is done to a scene is told in events. A chain that is built is an event of its own: it comes to
the calls that the build makes, with those that take nodes away again (`Event.after_eq`).
-/

namespace AssetCheck

/-! ## Numbers behind a text -/

namespace Text

/-- The longer text is the shorter one with one or more digits behind it. -/
def FollowedByDigits (short long : String) : Prop :=
  ∃ digits : List Char, digits ≠ [] ∧ (∀ c ∈ digits, c.isDigit = true) ∧
    long = short ++ String.ofList digits

theorem toList_append_toString (s : String) (n : Nat) :
    (s ++ toString n).toList = s.toList ++ Nat.toDigits 10 n := by
  rw [String.toList_append]
  exact congrArg _ String.toList_ofList

theorem toDigits_inj {m n : Nat} (h : Nat.toDigits 10 m = Nat.toDigits 10 n) : m = n := by
  rw [← Nat.ofDigitChars_ten_toDigits (n := m), h, Nat.ofDigitChars_ten_toDigits]

theorem append_toString_inj {s : String} {m n : Nat} (h : s ++ toString m = s ++ toString n) :
    m = n := by
  rw [← String.toList_inj, toList_append_toString, toList_append_toString] at h
  exact toDigits_inj (List.append_cancel_left h)

/-- What a text has more than another belongs to the number behind the other. -/
theorem eq_or_followedByDigits {s t : String} {m n : Nat} {more : List Char}
    (ht : t.toList = s.toList ++ more) (hm : Nat.toDigits 10 m = more ++ Nat.toDigits 10 n) :
    s = t ∧ m = n ∨ FollowedByDigits s t := by
  by_cases hmore : more = []
  · rw [hmore, List.append_nil] at ht
    rw [hmore, List.nil_append] at hm
    exact .inl ⟨String.toList_inj.1 ht.symm, toDigits_inj hm⟩
  · refine .inr ⟨more, hmore, fun c hc => ?_, ?_⟩
    · have hmem : c ∈ Nat.toDigits 10 m := hm ▸ List.mem_append_left _ hc
      exact Nat.isDigit_of_mem_toDigits (by decide) (by decide) hmem
    · rw [← String.toList_inj, ht, String.toList_append, String.toList_ofList]

/-- Two texts with numbers behind them are the same in no other way. -/
theorem cases_of_append_toString_eq {s t : String} {m n : Nat}
    (h : s ++ toString m = t ++ toString n) :
    s = t ∧ m = n ∨ FollowedByDigits s t ∨ FollowedByDigits t s := by
  rw [← String.toList_inj, toList_append_toString, toList_append_toString,
    List.append_eq_append_iff] at h
  rcases h with ⟨more, ht, hm⟩ | ⟨more, hs, hn⟩
  · exact (eq_or_followedByDigits ht hm).imp_right .inl
  · exact (eq_or_followedByDigits hs hn).imp (fun ⟨hts, hnm⟩ => ⟨hts.symm, hnm.symm⟩) .inr

end Text

namespace Scene

/-! ## Names that are given -/

/-- A node as it is made: its handle, the type that was asked for, and its name. -/
structure Naming where
  handle : NodeHandle
  typeName : String
  name : String
  deriving DecidableEq, Repr

/-- The node that a move makes, with the name that the scene tells for it. -/
def Move.naming? (s : Scene) : Move → Option Naming
  | .ask (.createNode typeName) =>
    match host.createNode typeName s with
    | .error _ _ => none
    | .ok handle t =>
      match host.nodeName handle t with
      | .error _ _ => none
      | .ok name _ => some ⟨handle, typeName, name⟩
  | _ => none

/-- The nodes that moves make one after the other. -/
def namings : Scene → List Move → List Naming
  | _, [] => []
  | s, m :: moves => (m.naming? s).toList ++ namings (m.apply s) moves

/-- What happens to a scene: a single move, or the building of a chain with a number. -/
inductive Event
  | move (m : Move)
  | build (spec : PipelineSpec) (subs : Substitutions) (id : Nat)

def Event.after (s : Scene) : Event → Scene
  | .move m => m.apply s
  | .build spec subs id => (stateAfter (AssetCheck.build host spec subs) ⟨s, id⟩).host

/-- The request of a call. -/
def Move.ofCall? : Call → Option Move
  | .asked request _ => some (.ask request)
  | .saved _ _ => none

/-- The moves of an event: for a build, the requests that it makes. -/
def Event.moves (s : Scene) : Event → List Move
  | .move m => [m]
  | .build spec subs id => (buildCalls host spec subs ⟨s, id⟩).filterMap Move.ofCall?

/-- Events lead to the scene from the empty one, and nodes were made with these names, in this
order. -/
inductive Named : Scene → List Naming → Prop
  | new : Named {} []
  | event {s : Scene} {names : List Naming} (e : Event) : Named s names →
      Named (e.after s) (names ++ namings s (e.moves s))

/-- The laws of the names that a scene has given. -/
structure NameLaws (s : Scene) (names : List Naming) : Prop where
  /-- Each handle that was given out has its name. -/
  past : Past s (names.map (·.handle))
  /-- Nodes of the scene have the type and the name that they were made with. -/
  kept : ∀ handle n, s.nodes.get? handle = some n → ⟨handle, n.typeName, n.name⟩ ∈ names
  /-- Nodes of one type never share a name. -/
  apart : names.Pairwise fun a b => a.typeName = b.typeName → a.name ≠ b.name
  /-- Where nodes share a name, the type of one is that of the other with digits behind it. -/
  shared : names.Pairwise fun a b => a.name = b.name →
    a.typeName ≠ b.typeName ∧
      (Text.FollowedByDigits a.typeName b.typeName ∨ Text.FollowedByDigits b.typeName a.typeName)

/-! ## A build as its calls -/

/-- The scene is what calls have made of another. -/
def Replayed (s : Scene) (b : Scene × List Call) : Prop :=
  b.1 = (b.2.filterMap Move.ofCall?).foldl Move.apply s

theorem logged_perform_eq (s : Scene) (calls : List Call) (request : Request) :
    ∃ call, Move.ofCall? call = some (.ask request) ∧
      stateAfter (host.logged.perform request) (s, calls) =
        (Move.apply s (.ask request), calls ++ [call]) := by
  show ∃ call, _ ∧ _ = (stateAfter (host.perform request) s, _)
  cases h : host.perform request s with
  | ok a t =>
    rw [stateAfter_ok h, stateAfter_ok (Host.perform_logged_ok h calls)]
    exact ⟨_, rfl, rfl⟩
  | error e t =>
    rw [stateAfter_error h, stateAfter_error (Host.perform_logged_error h calls)]
    exact ⟨_, rfl, rfl⟩

theorem replayed_perform (s : Scene) (request : Request) :
    Keeps (Replayed s) (host.logged.perform request) := by
  rintro ⟨t, calls⟩ h
  obtain ⟨call, hcall, hafter⟩ := logged_perform_eq t calls request
  have ht : (calls.filterMap Move.ofCall?).foldl Move.apply s = t := h.symm
  show (stateAfter (host.logged.perform request) (t, calls)).1 = _
  rw [hafter, List.filterMap_append, List.foldl_append, ht, List.filterMap_cons_some hcall]
  rfl

/-- **Builds.** A build leaves the scene as the calls that it makes do, one after the other. -/
theorem Event.after_eq (s : Scene) (e : Event) :
    e.after s = (e.moves s).foldl Move.apply s := by
  cases e with
  | move m => rfl
  | build spec subs id =>
    have hreplayed : Replayed s
        (stateAfter (AssetCheck.build host.logged spec subs) ⟨(s, []), id⟩).host :=
      build_keeps (fun request _ => replayed_perform s request) spec subs ⟨(s, []), id⟩ rfl
    have hlogged : (stateAfter (AssetCheck.build host.logged spec subs) ⟨(s, []), id⟩).host.1 =
        (stateAfter (AssetCheck.build host spec subs) ⟨s, id⟩).host :=
      ((build_logged host spec subs).stateAfter ⟨rfl, rfl⟩).1
    exact hlogged.symm.trans hreplayed

/-! ## Types and names that stay -/

def title? (s : Scene) (handle : NodeHandle) : Option (String × String) :=
  (s.nodes.get? handle).map fun n => (n.typeName, n.name)

theorem title?_of_get? {s : Scene} {handle : NodeHandle} {n : SceneNode}
    (h : s.nodes.get? handle = some n) : s.title? handle = some (n.typeName, n.name) := by
  unfold title?; rw [h]; rfl

theorem title?_eq_of_map {s t : Scene} {handle : NodeHandle} {change : SceneNode → SceneNode}
    (hget : t.nodes.get? handle = (s.nodes.get? handle).map change)
    (h : ∀ n, (change n).typeName = n.typeName ∧ (change n).name = n.name) :
    t.title? handle = s.title? handle := by
  unfold title?
  rw [hget, Option.map_map]
  refine congrArg (fun f => (s.nodes.get? handle).map f) (funext fun n => ?_)
  exact Prod.ext (h n).1 (h n).2

theorem title?_updateNode (s : Scene) (handle other : NodeHandle) {change : SceneNode → SceneNode}
    (h : ∀ n, (change n).typeName = n.typeName ∧ (change n).name = n.name) :
    (s.updateNode handle change).title? other = s.title? other := by
  refine title?_eq_of_map (get?_updateNode s handle change other) fun n => ?_
  split
  · exact h n
  · exact ⟨rfl, rfl⟩

theorem title?_marked (s : Scene) (handles : List NodeHandle) (other : NodeHandle) :
    (s.marked handles).title? other = s.title? other :=
  title?_eq_of_map (get?_marked s handles other) fun n =>
    ⟨typeName_markedNode handles other n, name_markedNode handles other n⟩

theorem title?_without (s : Scene) (handle other : NodeHandle) :
    (s.without handle).title? other = if other = handle then none else s.title? other := by
  have hget := get?_without s handle other
  by_cases hother : other = handle
  · rw [if_pos hother] at hget
    rw [if_pos hother]
    unfold title?
    rw [hget]
    rfl
  · rw [if_neg hother] at hget
    rw [if_neg hother]
    refine title?_eq_of_map hget fun n => ?_
    unfold detached
    split <;> exact ⟨rfl, rfl⟩

/-- A request that does not make, remove or connect nodes leaves their types and names. -/
theorem title?_perform {request : Request} (h : changesGraph request = false) (s : Scene)
    (handle : NodeHandle) :
    (stateAfter (perform request) s).title? handle = s.title? handle := by
  cases request with
  | createNode _ | destroyNode _ | connectInput _ _ => cases h
  | setParameter parameter value =>
    show (stateAfter (setParameter parameter value) s).title? handle = _
    unfold stateAfter setParameter
    cases s.parameterValue parameter with
    | error e => rfl
    | ok old => exact title?_updateNode s parameter.node handle fun n => ⟨rfl, rfl⟩
  | fireTrigger action =>
    show (stateAfter (fireTrigger action) s).title? handle = _
    unfold stateAfter fireTrigger
    cases s.node action.node <;> rfl
  | cook node =>
    show (stateAfter (cook node) s).title? handle = _
    obtain ⟨marks, hmarks⟩ := exists_marked_of_cook node s
    rw [hmarks, title?_marked]
  | layout => rfl
  | nodeName _ | nodeType _ | inputs _ | findParameter _ _ | findTrigger _ _ | parameterValue _
  | warnings _ | errors _ =>
    unfold perform
    rw [stateAfter_query]

theorem title?_save (path : String) (files : FileTree) (s : Scene) (handle : NodeHandle) :
    (stateAfter (save path) (s, files)).1.title? handle = s.title? handle := by
  cases hsave : save path (s, files) with
  | ok _ after =>
    rw [stateAfter_ok hsave, eq_of_save_ok hsave]
    rfl
  | error e after => rw [stateAfter_error hsave, eq_of_save_error hsave]

/-- A move that makes no node may take one away; the others keep their types and names. -/
theorem title?_apply {s : Scene} {m : Move} {handle : NodeHandle} {title : String × String}
    (hnone : m.given? s = none) (h : (m.apply s).title? handle = some title) :
    s.title? handle = some title := by
  cases m with
  | register type => exact h
  | save path files => exact (title?_save path files s handle).symm.trans h
  | ask request =>
    have h : (stateAfter (perform request) s).title? handle = some title := h
    cases hchanges : changesGraph request with
    | false => rwa [title?_perform hchanges] at h
    | true =>
      cases request with
      | createNode typeName =>
        have h : (stateAfter (createNode typeName) s).title? handle = some title := h
        cases htype : s.types.get? typeName with
        | none => rwa [stateAfter_error (createNode_of_none htype)] at h
        -- A node of a known type is made, and its handle is given out.
        | some type =>
          rw [given?_createNode htype] at hnone
          cases hnone
      | destroyNode node =>
        have h : (stateAfter (destroyNode node) s).title? handle = some title := h
        by_cases hmem : node ∈ s.nodes.keys
        · rw [stateAfter_ok (destroyNode_of_mem hmem), title?_without] at h
          split at h
          · cases h
          · exact h
        · rwa [stateAfter_error (destroyNode_of_not_mem hmem)] at h
      | connectInput node source =>
        have h : (stateAfter (connectInput node source) s).title? handle = some title := h
        have hsame : (s.connected node source).title? handle = s.title? handle :=
          title?_updateNode s node handle fun n => ⟨rfl, rfl⟩
        by_cases hmem : source ∈ s.nodes.keys ∧ node ∈ s.nodes.keys
        · rwa [stateAfter_ok (connectInput_of_mem hmem.1 hmem.2), hsame] at h
        · rwa [stateAfter_connectInput_of_not_mem hmem] at h
      | _ => cases hchanges

/-! ## What a move names -/

section Naming

variable {s : Scene}

theorem Sound.naming?_createNode (hs : Sound s) {typeName : String} {type : NodeType}
    (h : s.types.get? typeName = some type) :
    Move.naming? s (.ask (.createNode typeName)) =
      some ⟨s.nextHandle, typeName, typeName ++ toString (s.count typeName + 1)⟩ := by
  have hcreate : host.createNode typeName s = _ := createNode_of_some h
  have hfresh := nextHandle_not_mem hs
  have hget := get?_add_self (s := s.counted typeName) hfresh (s.newNode typeName type)
  unfold Move.naming?
  dsimp only
  rw [hcreate]
  dsimp only
  rw [nodeName_eq hget]
  rfl

theorem naming?_eq_none {m : Move} (h : m.given? s = none) : m.naming? s = none := by
  cases m with
  | register _ | save _ _ => rfl
  | ask request =>
    cases request with
    | createNode typeName =>
      cases htype : s.types.get? typeName with
      | none =>
        have hcreate : host.createNode typeName s = _ := createNode_of_none htype
        unfold Move.naming?
        dsimp only
        rw [hcreate]
      | some type =>
        rw [given?_createNode htype] at h
        cases h
    | _ => rfl

/-- A name is told with each handle that is given out. -/
theorem Sound.map_handle_naming? (hs : Sound s) (m : Move) :
    (m.naming? s).map (·.handle) = m.given? s := by
  cases hgiven : m.given? s with
  | none => rw [naming?_eq_none hgiven, Option.map_none]
  | some handle =>
    obtain ⟨typeName, type, rfl, htype, rfl⟩ := exists_of_given? hgiven
    rw [hs.naming?_createNode htype, Option.map_some]

end Naming

/-! ## Counting nodes -/

/-- Nothing is counted back. -/
theorem count_le_apply (s : Scene) (m : Move) (typeName : String) :
    s.count typeName ≤ (m.apply s).count typeName := by
  have heffect := effect_apply s m
  generalize m.apply s = t at heffect ⊢
  cases heffect with
  | still hgraph =>
    unfold count
    rw [hgraph.named]
  | @created created _ _ => exact count_le_counted s created typeName
  | registered _ | removed _ | connected _ _ => exact Nat.le_refl _

/-- A name is its type with a number behind it, up to the count of the type, and no name of a type
has come twice. -/
structure Numbered (s : Scene) (names : List Naming) : Prop where
  past : Past s (names.map (·.handle))
  kept : ∀ handle n, s.nodes.get? handle = some n → ⟨handle, n.typeName, n.name⟩ ∈ names
  numbered : ∀ a ∈ names, ∃ k, k ≤ s.count a.typeName ∧ a.name = a.typeName ++ toString k
  apart : names.Pairwise fun a b => a.typeName = b.typeName → a.name ≠ b.name

section Numbered

variable {s : Scene} {names : List Naming}

theorem Numbered.empty : Numbered {} [] where
  past := .new
  kept := by intro handle n hn; cases hn
  numbered := List.forall_mem_nil _
  apart := .nil

theorem Numbered.past_move (h : Numbered s names) (m : Move) :
    Past (m.apply s) ((names ++ (m.naming? s).toList).map (·.handle)) := by
  have hpast := h.past.move m
  rwa [← h.past.sound.map_handle_naming? m, Option.toList_map, ← List.map_append] at hpast

theorem Numbered.numbered_apply (h : Numbered s names) (m : Move) :
    ∀ a ∈ names, ∃ k, k ≤ (m.apply s).count a.typeName ∧ a.name = a.typeName ++ toString k := by
  intro a ha
  obtain ⟨k, hk, hname⟩ := h.numbered a ha
  exact ⟨k, hk.trans (count_le_apply s m a.typeName), hname⟩

theorem Numbered.move_of_none (h : Numbered s names) {m : Move} (hnone : m.given? s = none) :
    Numbered (m.apply s) names where
  past := by
    have hpast := h.past_move m
    rwa [naming?_eq_none hnone, Option.toList_none, List.append_nil] at hpast
  kept := by
    intro handle n hn
    have htitle := title?_apply hnone (title?_of_get? hn)
    obtain ⟨old, hold, heq⟩ := Option.map_eq_some_iff.1 htitle
    obtain ⟨htype, hname⟩ := Prod.mk.inj heq
    rw [← htype, ← hname]
    exact h.kept handle old hold
  numbered := h.numbered_apply m
  apart := h.apart

/-- The number of the next node lies above those of all nodes of its type. -/
theorem Numbered.ne_next (h : Numbered s names) {a : Naming} (ha : a ∈ names) :
    a.name ≠ a.typeName ++ toString (s.count a.typeName + 1) := by
  obtain ⟨k, hk, hname⟩ := h.numbered a ha
  rw [hname]
  intro heq
  have hnext := Text.append_toString_inj heq
  omega

theorem Numbered.create (h : Numbered s names) {typeName : String} {type : NodeType}
    (htype : s.types.get? typeName = some type) :
    Numbered (Move.apply s (.ask (.createNode typeName)))
      (names ++ [⟨s.nextHandle, typeName, typeName ++ toString (s.count typeName + 1)⟩]) where
  past := by
    have hpast := h.past_move (.ask (.createNode typeName))
    rwa [h.past.sound.naming?_createNode htype] at hpast
  kept := by
    intro handle n hn
    have hfresh := nextHandle_not_mem h.past.sound
    rw [apply_createNode htype, get?_add (s := s.counted typeName) hfresh] at hn
    by_cases hnext : handle = s.nextHandle
    · subst hnext
      rw [if_pos rfl] at hn
      cases hn
      exact List.mem_append_right _ (List.mem_singleton.2 rfl)
    · rw [if_neg hnext] at hn
      exact List.mem_append_left _ (h.kept handle n hn)
  numbered := by
    refine List.forall_mem_append.2 ⟨h.numbered_apply _, List.forall_mem_singleton.2 ?_⟩
    refine ⟨s.count typeName + 1, ?_, rfl⟩
    rw [apply_createNode htype]
    show _ ≤ (s.counted typeName).count typeName
    rw [count_counted, if_pos rfl]
  apart := by
    refine List.pairwise_append.2 ⟨h.apart, List.pairwise_singleton _ _, fun a ha => ?_⟩
    refine List.forall_mem_singleton.2 fun hsame => ?_
    have hsame : a.typeName = typeName := hsame
    subst hsame
    exact h.ne_next ha

/-- Every move keeps the numbers. -/
theorem Numbered.move (h : Numbered s names) (m : Move) :
    Numbered (m.apply s) (names ++ (m.naming? s).toList) := by
  cases hgiven : m.given? s with
  | none =>
    rw [naming?_eq_none hgiven, Option.toList_none, List.append_nil]
    exact h.move_of_none hgiven
  | some handle =>
    obtain ⟨typeName, type, rfl, htype, rfl⟩ := exists_of_given? hgiven
    rw [h.past.sound.naming?_createNode htype]
    exact h.create htype

/-- So does one move after the other. -/
theorem Numbered.moves (h : Numbered s names) (moves : List Move) :
    Numbered (moves.foldl Move.apply s) (names ++ namings s moves) := by
  induction moves generalizing s names with
  | nil =>
    show Numbered s (names ++ [])
    rwa [List.append_nil]
  | cons m rest ih =>
    have hrest := ih (h.move m)
    rwa [List.append_assoc] at hrest

theorem Named.numbered (h : Named s names) : Numbered s names := by
  induction h with
  | new => exact .empty
  | event e _ ih =>
    rw [e.after_eq]
    exact ih.moves (e.moves _)

/-- **Names.** Whatever has happened to a scene, also where nodes were removed and where chains were
taken away again, nodes of one type have different names; nodes of different types share one only if
the one type is the other with digits behind it. -/
theorem nameLaws_of_named (h : Named s names) : NameLaws s names := by
  have hnames := h.numbered
  refine ⟨hnames.past, hnames.kept, hnames.apart, ?_⟩
  refine hnames.apart.imp_of_mem fun {a b} ha hb hapart hshared => ?_
  have htypes : a.typeName ≠ b.typeName := fun hsame => hapart hsame hshared
  obtain ⟨k, -, hk⟩ := hnames.numbered a ha
  obtain ⟨l, -, hl⟩ := hnames.numbered b hb
  rw [hk, hl] at hshared
  rcases Text.cases_of_append_toString_eq hshared with ⟨hsame, -⟩ | hdigits
  · exact absurd hsame htypes
  · exact ⟨htypes, hdigits⟩

end Numbered

/-- Eleven nodes are taken away again, as the last type of their chain is not there; then a node of
another type gets the name that the last of them had. -/
theorem nameLaws_after_rollback :
    ∃ s names, Named s names ∧ s.nodes.keys = [⟨12⟩] ∧
      ⟨⟨11⟩, "check", "check11"⟩ ∈ names ∧ ⟨⟨12⟩, "check1", "check11"⟩ ∈ names ∧
      s.NameLaws names := by
  have hnamed := (((Named.new.event (.move (.register { name := "check" }))).event
    (.move (.register { name := "check1" }))).event
    (.build ⟨List.replicate 11 ⟨"check", []⟩ ++ [⟨"gone", []⟩]⟩ .empty 0)).event
    (.move (.ask (.createNode "check1")))
  exact ⟨_, _, hnamed, by decide +kernel, by decide +kernel, by decide +kernel,
    nameLaws_of_named hnamed⟩

end Scene

end AssetCheck
