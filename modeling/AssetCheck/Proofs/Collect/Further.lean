import AssetCheck.Proofs.Collect.Agreement
import AssetCheck.Proofs.Collect.Verdicts

/-!
# Reports further down a chain

A chain is read from its first node on. So a report that is taken further down has the same path of
the asset, and more nodes behind those that an earlier report has (`diagnosed_prefix_of_le`): it
extends the earlier report where there is one, and fails for the same reason where there is none.
Only a missing path of an asset is said of the node at which the report is taken
(`reports_extend`).
-/

namespace AssetCheck

open Scene (host)

/-- The nodes with a diagnostic further down begin with those further up. -/
theorem Chain.diagnosed_prefix_of_le (c : Chain) (config : Config) {p q : Nat} (h : p ≤ q) :
    c.diagnosed config p <+: c.diagnosed config q :=
  (List.take_prefix_take_left h).filter _

namespace Scene

section Positions

variable {s : Scene} {c : Chain} {setting : Setting} {p q : Nat} (hp : 0 < p) (hpq : p < q)
  {earlier later : NodeHandle} {n m : SceneNode} (hn : s.nodes.get? earlier = some n)
  (hm : s.nodes.get? later = some m)

include hp hpq hn hm

/-- Behind the first node, the path of the asset is what that node holds. -/
theorem assetPathAt_cases (config : Config) :
    (∃ path, s.assetPathAt config c p earlier = .ok path ∧
      s.assetPathAt config c q later = .ok path) ∨
    s.assetPathAt config c p earlier = .error (.missingLoader n.name) ∧
      s.assetPathAt config c q later = .error (.missingLoader m.name) := by
  unfold assetPathAt
  rw [List.head?_take, if_neg (Nat.ne_of_gt hp), List.head?_take,
    if_neg (Nat.ne_of_gt (Nat.lt_trans hp hpq)), node_of_get? hn, node_of_get? hm]
  cases c.nodes.head?.bind fun loader => s.valueOf? loader.handle config.loaderParameter with
  | some value => exact .inl ⟨value.asPath, rfl, rfl⟩
  | none => exact .inr ⟨rfl, rfl⟩

theorem reportAt_extends {report : Report}
    (h : s.reportAt setting c q later = .ok report) :
    ∃ diagnostics cookSuccess,
      s.reportAt setting c p earlier = .ok { report with diagnostics, cookSuccess } ∧
      diagnostics <+: report.diagnostics ∧ (report.cookSuccess = true → cookSuccess = true) := by
  unfold reportAt at h ⊢
  obtain ⟨path, hpath, h⟩ := exists_ok_of_bind h
  obtain ⟨all, hall, h⟩ := exists_ok_of_bind h
  cases h
  obtain ⟨diagnostics, hdiagnostics, hprefix⟩ :=
    mapM_prefix_ok (c.diagnosed_prefix_of_le setting.config (Nat.le_of_lt hpq)) hall
  have hearlier : s.assetPathAt setting.config c p earlier = .ok path := by
    rcases assetPathAt_cases hp hpq hn hm setting.config with ⟨found, hfound, hsame⟩ | ⟨-, hnone⟩
    · cases hsame.symm.trans hpath
      exact hfound
    · cases hnone.symm.trans hpath
  rw [except_bind_ok hearlier, except_bind_ok hdiagnostics]
  refine ⟨diagnostics, _, rfl, hprefix, fun hcooked => List.all_eq_true.2 fun handle hmem => ?_⟩
  have hle : p + 1 ≤ q + 1 := by omega
  exact List.all_eq_true.1 hcooked handle (List.take_subset_take_left c.handles hle hmem)

/-- Where there is no report, there is none further down for the same reason. -/
theorem reportAt_fails {e : ReportError} (h : s.reportAt setting c p earlier = .error e) :
    (∃ node ∈ c.nodes, s.verdict setting.config node = .error e) ∧
        s.reportAt setting c q later = .error e ∨
      e = .missingLoader n.name ∧
        s.reportAt setting c q later = .error (.missingLoader m.name) := by
  unfold reportAt at h ⊢
  rcases assetPathAt_cases hp hpq hn hm setting.config with ⟨path, hpath, hlater⟩ | ⟨hnone, hlater⟩
  · rw [except_bind_ok hpath] at h
    rw [except_bind_ok hlater]
    cases hverdicts : (c.diagnosed setting.config p).mapM (s.verdict setting.config) with
    | ok diagnostics =>
      rw [except_bind_ok hverdicts] at h
      cases h
    | error reason =>
      rw [except_bind_error hverdicts] at h
      cases h
      obtain ⟨node, hnode, hverdict⟩ := exists_of_mapM_error hverdicts
      have hprefix := c.diagnosed_prefix_of_le setting.config (Nat.le_of_lt hpq)
      exact .inl ⟨⟨node, List.mem_of_mem_take (List.mem_filter.1 hnode).1, hverdict⟩,
        except_bind_error (mapM_prefix_error hprefix hverdicts)⟩
  · rw [except_bind_error hnone] at h
    cases h
    exact .inr ⟨rfl, except_bind_error hlater⟩

end Positions

end Scene

/-- **Further down.** For a chain that stands, two positions behind its first node are compared on
one scene. If there is a report at the later one, there is one at the earlier one that differs only
in that it has the first of the diagnostics, and that cooking may have gone well so far. If there is
none at the earlier one, there is none at the later one for the same reason; where it is that no
node gives a path of an asset, each names the node at which the report was to be taken. -/
theorem reports_extend {c : Chain} {s : Scene} (h : Standing c s) (setting : Setting) {p q : Nat}
    (hp : 0 < p) (hpq : p < q) {earlier later : ChainNode} (hearlier : c.node? p = some earlier)
    (hlater : c.node? q = some later) :
    let taken (position : Nat) : Except ReportError Report :=
      resultOf (Collect.fromChain host setting c position) s
    (∀ report, taken q = .ok report → ∃ diagnostics cookSuccess,
      taken p = .ok { report with diagnostics, cookSuccess } ∧
      diagnostics <+: report.diagnostics ∧ (report.cookSuccess = true → cookSuccess = true)) ∧
    ∀ e, taken p = .error e →
      (∀ name, e ≠ .missingLoader name) ∧ taken q = .error e ∨
      ∃ name other, host.nodeName earlier.handle s = .ok name s ∧
        host.nodeName later.handle s = .ok other s ∧
        e = .missingLoader name ∧ taken q = .error (.missingLoader other) := by
  intro taken
  obtain ⟨hs, hcarries⟩ := h.holds
  have htaken : ∀ {position node}, c.node? position = some node →
      taken position = s.reportAt setting c position node.handle := fun hnode =>
    resultOf_known (Collect.fromChain_eq hcarries hs setting hnode)
  obtain ⟨n, hn⟩ := Table.mem_keys_iff.1 (hcarries.mem_keys (Chain.handle_mem hearlier))
  obtain ⟨m, hm⟩ := Table.mem_keys_iff.1 (hcarries.mem_keys (Chain.handle_mem hlater))
  rw [htaken hearlier, htaken hlater]
  refine ⟨fun report => Scene.reportAt_extends hp hpq hn hm, fun e he => ?_⟩
  rcases Scene.reportAt_fails hp hpq hn hm he with
    ⟨⟨node, hnode, hverdict⟩, hfails⟩ | ⟨rfl, hfails⟩
  · obtain ⟨_, _, _, _, _, -, -, -, rfl⟩ := hcarries.exists_of_verdict_error hs hnode hverdict
    refine .inl ⟨?_, hfails⟩
    rintro name ⟨⟩
  · exact .inr ⟨n.name, m.name, Scene.nodeName_eq hn, Scene.nodeName_eq hm, rfl, hfails⟩

/-- Behind the loader and behind a check with errors, and where the loader holds no path. -/
theorem reports_extend_faces :
    Standing .faces (.faces "a.fbx" false) ∧
    (∃ report diagnostics cookSuccess,
      resultOf (Collect.fromChain host ⟨{}, ⟨"artist", "ws01"⟩, "08:00"⟩ .faces 2)
        (.faces "a.fbx" false) = .ok report ∧
      report.diagnostics = [⟨"open edge", "check_faces1", "check_faces", .error⟩] ∧
      resultOf (Collect.fromChain host ⟨{}, ⟨"artist", "ws01"⟩, "08:00"⟩ .faces 1)
        (.faces "a.fbx" false) = .ok { report with diagnostics, cookSuccess } ∧
      diagnostics <+: report.diagnostics ∧ cookSuccess = true) ∧
    resultOf (Collect.fromChain host ⟨{ loaderParameter := "path" }, ⟨"artist", "ws01"⟩, "08:00"⟩
      .faces 1) (.faces "a.fbx" false) = .error (.missingLoader "check_faces1") ∧
    resultOf (Collect.fromChain host ⟨{ loaderParameter := "path" }, ⟨"artist", "ws01"⟩, "08:00"⟩
      .faces 2) (.faces "a.fbx" false) = .error (.missingLoader "report_json1") := by
  have hs := Standing.faces "a.fbx"
  obtain ⟨hextends, -⟩ := reports_extend hs ⟨{}, ⟨"artist", "ws01"⟩, "08:00"⟩ Nat.one_pos
    Nat.one_lt_two rfl rfl
  obtain ⟨-, hfails⟩ := reports_extend hs
    ⟨{ loaderParameter := "path" }, ⟨"artist", "ws01"⟩, "08:00"⟩ Nat.one_pos Nat.one_lt_two rfl rfl
  obtain ⟨diagnostics, cookSuccess, hearlier, hprefix, hcooked⟩ := hextends _ rfl
  refine ⟨hs, ⟨_, diagnostics, cookSuccess, rfl, rfl, hearlier, hprefix, hcooked rfl⟩, rfl, ?_⟩
  rcases hfails (.missingLoader "check_faces1") rfl with ⟨hother, -⟩ | ⟨_, _, _, hname, _, hlater⟩
  · exact absurd rfl (hother _)
  · cases hname
    exact hlater

end AssetCheck
