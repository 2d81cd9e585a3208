import Mathlib.Data.List.Nodup
import Mathlib.Data.List.Perm.Subperm
import Mathlib.Logic.Relation
import HibikiCore.Domain.Plan

/-!
# What a valid plan is

`validateDag` accepts only graphs that are well formed: they have nodes, named apart, edges between
them, a hash on every edge that waits for a verdict, and no cycle. With a frame of the stack for
every node and one more it accepts all of them.

The search keeps two lists. The nodes it has left are *finished*: whatever they lead to is finished
as well, and none of them lies on a cycle. The nodes it is inside of form a path to the node it
looks at, so meeting one of them again closes a cycle. The path never holds a node twice, which
bounds the depth of the recursion by the number of nodes.
-/

namespace HibikiCore

/-! ## Finished sets -/

section Finished

variable {α : Type*} {r : α → α → Prop} {done : List α}

/-- A list that is closed under a relation, and no member of which leads back to itself. -/
structure Finished (r : α → α → Prop) (done : List α) : Prop where
  closed : ∀ u ∈ done, ∀ v, r u v → v ∈ done
  acyclic : ∀ u ∈ done, ¬Relation.TransGen r u u

theorem Finished.nil : Finished r [] := ⟨fun _ h ↦ (nomatch h), fun _ h ↦ (nomatch h)⟩

theorem Finished.reaches (h : Finished r done) {u v : α} (hu : u ∈ done)
    (hreach : Relation.ReflTransGen r u v) : v ∈ done := by
  induction hreach with
  | refl => exact hu
  | tail _ hlast ih => exact h.closed _ ih _ hlast

/-- A node all of whose successors are finished, and that is not one of them, can be left. -/
theorem Finished.cons (h : Finished r done) {u : α} (hu : u ∉ done)
    (hsucc : ∀ v, r u v → v ∈ done) : Finished r (u :: done) := by
  constructor
  · intro w hw v hwv
    rcases List.mem_cons.mp hw with rfl | hw
    · exact List.mem_cons_of_mem _ (hsucc v hwv)
    · exact List.mem_cons_of_mem _ (h.closed w hw v hwv)
  · intro w hw hcycle
    rcases List.mem_cons.mp hw with rfl | hw
    · -- the cycle leaves `w` to a finished node, from which only finished nodes are reached
      obtain ⟨v, hwv, hback⟩ := Relation.TransGen.head'_iff.mp hcycle
      exact hu (h.reaches (hsucc v hwv) hback)
    · exact h.acyclic w hw hcycle

/-- A node that nothing leads to lies on no cycle: a relation without cycles has none either when
such a node is given successors. -/
theorem transGen_of_source {r' : α → α → Prop} {a : α} (hin : ∀ u, ¬r' u a)
    (hsame : ∀ u v, u ≠ a → r' u v → r u v) (hacyclic : ∀ u, ¬Relation.TransGen r u u) (u : α) :
    ¬Relation.TransGen r' u u := by
  have hnever {u : α} (h : Relation.TransGen r' u a) : False := by
    obtain ⟨d, -, hd⟩ := Relation.TransGen.tail'_iff.mp h
    exact hin d hd
  have hold {u v : α} (h : Relation.TransGen r' u v) (hu : u ≠ a) : Relation.TransGen r u v := by
    induction h with
    | single h => exact .single (hsame _ _ hu h)
    | @tail b c hub hbc ih =>
      refine ih.tail (hsame _ _ ?_ hbc)
      rintro rfl
      exact hnever hub
  intro hcycle
  by_cases hu : u = a
  · exact hnever (hu ▸ hcycle)
  · exact hacyclic u (hold hcycle hu)

end Finished

/-! ## The depth-first search -/

section Search

variable {adj : String → List String} {ids : List String}

/-- One node leads to another. -/
def Leads (adj : String → List String) (u v : String) : Prop := v ∈ adj u

theorem dfs_succ (frames : Nat) (visiting visited : List String) (u : String) :
    dfs adj (frames + 1) visiting visited u =
      if visiting.contains u then .error (.precondition "plan_cycle" "plan contains cycle")
      else if visited.contains u then .ok visited
      else ((adj u).foldlM (dfs adj frames (u :: visiting)) visited).map (u :: ·) := by
  rw [dfs]
  split
  · rfl
  · split
    · rfl
    · cases (adj u).foldlM (dfs adj frames (u :: visiting)) visited <;> rfl

theorem foldlM_cons_ok {β : Type*} {f : List String → β → Except Error (List String)} {b : β}
    {l : List β} {init last : List String} (h : (b :: l).foldlM f init = .ok last) :
    ∃ mid, f init b = .ok mid ∧ l.foldlM f mid = .ok last := by
  rw [List.foldlM_cons] at h
  cases hmid : f init b with
  | error e =>
    rw [hmid] at h
    cases h
  | ok mid =>
    rw [hmid] at h
    exact ⟨mid, rfl, h⟩

/-- What a search that returns has done: it left the nodes it started from, and no node that it is
still inside of. -/
structure Left (adj : String → List String) (visiting visited visited' : List String)
    (starts : List String) : Prop where
  finished : Finished (Leads adj) visited'
  kept : ∀ w ∈ visited, w ∈ visited'
  left : ∀ w ∈ starts, w ∈ visited'
  inside : ∀ w ∈ visiting, w ∈ visited' → w ∈ visited

theorem Left.cons {visiting v₀ v₁ v₂ starts : List String} {u : String}
    (hfirst : Left adj visiting v₀ v₁ [u]) (hrest : Left adj visiting v₁ v₂ starts) :
    Left adj visiting v₀ v₂ (u :: starts) where
  finished := hrest.finished
  kept w hw := hrest.kept w (hfirst.kept w hw)
  left w hw := by
    rcases List.mem_cons.mp hw with rfl | hw
    · exact hrest.kept w (hfirst.left w List.mem_cons_self)
    · exact hrest.left w hw
  inside w hw hlast := hfirst.inside w hw (hrest.inside w hw hlast)

/-- A fold of searches leaves all the nodes it is given, when each search leaves its own. -/
theorem foldlM_left {visiting : List String}
    {search : List String → String → Except Error (List String)}
    (hsearch : ∀ {visited visited' u}, Finished (Leads adj) visited →
      search visited u = .ok visited' → Left adj visiting visited visited' [u]) :
    ∀ {starts visited visited'}, Finished (Leads adj) visited →
      starts.foldlM search visited = .ok visited' →
        Left adj visiting visited visited' starts := by
  intro starts
  induction starts with
  | nil =>
    intro visited visited' hfinished h
    cases h
    exact ⟨hfinished, fun _ h ↦ h, fun _ h ↦ (nomatch h), fun _ _ h ↦ h⟩
  | cons u starts ih =>
    intro visited visited' hfinished h
    obtain ⟨mid, hmid, hrest⟩ := foldlM_cons_ok h
    have hleft := hsearch hfinished hmid
    exact hleft.cons (ih hleft.finished hrest)

/-- A search that returns has left its node. -/
theorem dfs_left : ∀ {frames visiting visited visited' u}, Finished (Leads adj) visited →
    dfs adj frames visiting visited u = .ok visited' →
      Left adj visiting visited visited' [u] := by
  intro frames
  induction frames with
  | zero =>
    intro _ _ _ _ _ h
    cases h
  | succ frames ih =>
    intro visiting visited visited' u hfinished h
    rw [dfs_succ] at h
    split at h
    · cases h
    rename_i hvisiting
    split at h
    · rename_i hvisited
      cases h
      refine ⟨hfinished, fun _ h ↦ h, ?_, fun _ _ h ↦ h⟩
      simpa using hvisited
    · rename_i hvisited
      cases hfold : (adj u).foldlM (dfs adj frames (u :: visiting)) visited with
      | error e =>
        rw [hfold] at h
        cases h
      | ok last =>
        rw [hfold] at h
        cases h
        have hleft := foldlM_left (fun hf hs ↦ ih hf hs) hfinished hfold
        have hu : u ∉ last := by
          intro hlast
          have := hleft.inside u List.mem_cons_self hlast
          simp [this] at hvisited
        refine ⟨hleft.finished.cons hu hleft.left, ?_, ?_, ?_⟩
        · exact fun w hw ↦ List.mem_cons_of_mem _ (hleft.kept w hw)
        · intro w hw
          rw [List.mem_singleton] at hw
          exact hw ▸ List.mem_cons_self
        · intro w hw hlast
          rcases List.mem_cons.mp hlast with rfl | hlast
          · simp [hw] at hvisiting
          · exact hleft.inside w (List.mem_cons_of_mem _ hw) hlast

/-- The path a search is inside of: nodes of the graph, each once, that lead to the node it looks
at. -/
structure Inside (adj : String → List String) (ids visiting : List String) (u : String) :
    Prop where
  nodup : visiting.Nodup
  nodes : ∀ w ∈ visiting, w ∈ ids
  node : u ∈ ids
  leads : ∀ w ∈ visiting, Relation.TransGen (Leads adj) w u

theorem Inside.start {u : String} (hu : u ∈ ids) : Inside adj ids [] u :=
  ⟨List.nodup_nil, fun _ h ↦ (nomatch h), hu, fun _ h ↦ (nomatch h)⟩

theorem Inside.next {visiting : List String} {u v : String} (h : Inside adj ids visiting u)
    (hu : u ∉ visiting) (hv : v ∈ adj u) (hnode : v ∈ ids) :
    Inside adj ids (u :: visiting) v := by
  refine ⟨List.nodup_cons.mpr ⟨hu, h.nodup⟩, ?_, hnode, ?_⟩
  · intro w hw
    rcases List.mem_cons.mp hw with rfl | hw
    · exact h.node
    · exact h.nodes w hw
  · intro w hw
    rcases List.mem_cons.mp hw with rfl | hw
    · exact .single hv
    · exact (h.leads w hw).tail hv

/-- Without a repetition, a path is not longer than the graph has nodes. -/
theorem Inside.length_le {visiting : List String} {u : String} (h : Inside adj ids visiting u) :
    visiting.length ≤ ids.length :=
  (h.nodup.subperm h.nodes).length_le

theorem foldlM_error {β : Type*} {f : List String → β → Except Error (List String)} {e : Error} :
    ∀ {l : List β} {init : List String}, l.foldlM f init = .error e →
      ∃ mid, ∃ b ∈ l, f mid b = .error e := by
  intro l
  induction l with
  | nil =>
    intro init h
    cases h
  | cons b l ih =>
    intro init h
    rw [List.foldlM_cons] at h
    cases hfirst : f init b with
    | error e' =>
      rw [hfirst] at h
      cases h
      exact ⟨init, b, List.mem_cons_self, hfirst⟩
    | ok mid =>
      rw [hfirst] at h
      obtain ⟨mid', b', hb', hb⟩ := ih h
      exact ⟨mid', b', List.mem_cons_of_mem _ hb', hb⟩

/-- A search fails on a cycle, or because no frame is left for a node of its path. -/
theorem dfs_error (hadj : ∀ u, ∀ v ∈ adj u, v ∈ ids) {e : Error} :
    ∀ {frames visiting visited u}, Inside adj ids visiting u →
      dfs adj frames visiting visited u = .error e →
        e = .recursion ∧ visiting.length + frames ≤ ids.length ∨
          e = .precondition "plan_cycle" "plan contains cycle" ∧
            ∃ w, Relation.TransGen (Leads adj) w w := by
  intro frames
  induction frames with
  | zero =>
    intro visiting visited u hinside h
    cases h
    exact .inl ⟨rfl, hinside.length_le⟩
  | succ frames ih =>
    intro visiting visited u hinside h
    rw [dfs_succ] at h
    split at h
    · rename_i hvisiting
      cases h
      rw [List.contains_iff_mem] at hvisiting
      exact .inr ⟨rfl, u, hinside.leads u hvisiting⟩
    rename_i hvisiting
    split at h
    · cases h
    · cases hfold : (adj u).foldlM (dfs adj frames (u :: visiting)) visited with
      | ok last =>
        rw [hfold] at h
        cases h
      | error e' =>
        rw [hfold] at h
        cases h
        obtain ⟨mid, v, hv, hsearch⟩ := foldlM_error hfold
        have hu : u ∉ visiting := by simpa using hvisiting
        rcases ih (hinside.next hu hv (hadj u v hv)) hsearch with ⟨he, hlength⟩ | hcycle
        · rw [List.length_cons] at hlength
          exact .inl ⟨he, by omega⟩
        · exact .inr hcycle

end Search

/-! ## Well-formed graphs -/

/-- The successors of a node, in the order of the edges. -/
def successors (edges : List PlanEdge) (u : String) : List String :=
  (edges.filter (·.fromWorkUnitId == u)).map PlanEdge.toWorkUnitId

/-- An edge leads from one node to another. -/
def EdgeTo (edges : List PlanEdge) (u v : String) : Prop :=
  ∃ e ∈ edges, e.fromWorkUnitId = u ∧ e.toWorkUnitId = v

theorem leads_successors {edges : List PlanEdge} :
    Leads (successors edges) = EdgeTo edges := by
  ext u v
  simp [Leads, successors, EdgeTo, and_assoc]

/-- An edge between nodes; one that waits for a verdict names the artifact it is about. -/
structure PlanEdge.WellFormed (nodes : List PlanNode) (e : PlanEdge) : Prop where
  source : ∃ n ∈ nodes, n.workUnitId = e.fromWorkUnitId
  target : ∃ n ∈ nodes, n.workUnitId = e.toWorkUnitId
  pinned : e.predicate = .verdictPass → ∃ hash, e.artifactHash = some hash ∧ hash ≠ ""

/-- A graph that can be a plan's: nodes named apart, edges between them, and no cycle. -/
structure WellFormedGraph (nodes : List PlanNode) (edges : List PlanEdge) : Prop where
  nonempty : nodes ≠ []
  distinct : (nodes.map PlanNode.workUnitId).Nodup
  edge : ∀ e ∈ edges, e.WellFormed nodes
  acyclic : ∀ u, ¬Relation.TransGen (EdgeTo edges) u u

theorem PlanEdge.check_ok_iff {nodes : List PlanNode} {e : PlanEdge} :
    e.check (nodes.map PlanNode.workUnitId) = .ok () ↔ e.WellFormed nodes := by
  have hhash : ¬(e.artifactHash.filter (· ≠ "")) = none ↔
      ∃ hash, e.artifactHash = some hash ∧ hash ≠ "" := by
    cases e.artifactHash <;> simp
  rw [PlanEdge.check]
  constructor
  · intro h
    split at h
    · cases h
    · rename_i hends
      split at h
      · cases h
      · rename_i hpass
        simp only [Bool.or_eq_true, Bool.not_eq_true', List.contains_eq_mem, not_or,
          decide_eq_false_iff_not, not_not, List.mem_map] at hends
        exact ⟨hends.1, hends.2, fun hp ↦ hhash.mp fun hnone ↦ hpass ⟨hp, hnone⟩⟩
  · intro h
    have hends : (!(nodes.map PlanNode.workUnitId).contains e.fromWorkUnitId ||
        !(nodes.map PlanNode.workUnitId).contains e.toWorkUnitId) = false := by
      simpa using ⟨h.source, h.target⟩
    rw [hends, if_neg Bool.false_ne_true, if_neg fun hpass ↦ hhash.mpr (h.pinned hpass.1) hpass.2]

theorem PlanEdge.check_ne_recursion (ids : List String) (e : PlanEdge) :
    e.check ids ≠ .error .recursion := by
  rw [PlanEdge.check]
  split
  · simp [Error.precondition, Error.recursion]
  · split
    · simp [Error.precondition, Error.recursion]
    · exact fun h ↦ (nomatch h)

/-- The search over all nodes of a graph. -/
def search (frames : Nat) (nodes : List PlanNode) (edges : List PlanEdge) :
    Except Error (List String) :=
  (nodes.map PlanNode.workUnitId).foldlM (dfs (successors edges) frames []) []

variable {frames : Nat} {nodes : List PlanNode} {edges : List PlanEdge}

theorem search_acyclic {visited : List String} (hedges : ∀ e ∈ edges, e.WellFormed nodes)
    (h : search frames nodes edges = .ok visited) (u : String) :
    ¬Relation.TransGen (EdgeTo edges) u u := by
  have hleft := foldlM_left (fun hf hs ↦ dfs_left hf hs) Finished.nil h
  intro hcycle
  -- a node on a cycle has an edge out of it, so it is a node of the graph
  obtain ⟨v, ⟨e, he, rfl, -⟩, -⟩ := Relation.TransGen.head'_iff.mp hcycle
  obtain ⟨n, hn, hsource⟩ := (hedges e he).source
  rw [← leads_successors] at hcycle
  exact hleft.finished.acyclic _ (hleft.left _ (List.mem_map.mpr ⟨n, hn, hsource⟩)) hcycle

theorem search_error {e : Error} (hedges : ∀ e ∈ edges, e.WellFormed nodes)
    (h : search frames nodes edges = .error e) :
    e = .recursion ∧ frames ≤ nodes.length ∨
      e = .precondition "plan_cycle" "plan contains cycle" ∧
        ∃ u, Relation.TransGen (EdgeTo edges) u u := by
  obtain ⟨mid, u, hu, hsearch⟩ := foldlM_error h
  have hadj : ∀ u, ∀ v ∈ successors edges u, v ∈ nodes.map PlanNode.workUnitId := by
    intro u v hv
    obtain ⟨e, he, rfl⟩ := List.mem_map.mp hv
    obtain ⟨n, hn, htarget⟩ := (hedges e (List.mem_filter.mp he).1).target
    exact List.mem_map.mpr ⟨n, hn, htarget⟩
  rw [← leads_successors]
  simpa using dfs_error hadj (Inside.start hu) hsearch

/-- Validation of a graph with nodes that are named apart. -/
theorem validateDag_of_distinct (hnodes : nodes ≠ [])
    (hdistinct : (nodes.map PlanNode.workUnitId).Nodup) :
    validateDag frames nodes edges =
      edges.forM (PlanEdge.check (nodes.map PlanNode.workUnitId)) >>= fun _ ↦
        search frames nodes edges >>= fun _ ↦ .ok () := by
  have hempty : ¬nodes.isEmpty = true := by simpa using hnodes
  rw [validateDag, if_neg hempty, if_neg (not_not.mpr hdistinct)]
  rfl

theorem validateDag_unnamed (frames : Nat) (edges : List PlanEdge)
    (h : ¬(nodes ≠ [] ∧ (nodes.map PlanNode.workUnitId).Nodup)) :
    ∃ code message, validateDag frames nodes edges = .error (.precondition code message) := by
  rw [validateDag]
  by_cases hempty : nodes.isEmpty
  · rw [if_pos hempty]
    exact ⟨_, _, rfl⟩
  · have hdistinct : ¬(nodes.map PlanNode.workUnitId).Nodup :=
      fun hd ↦ h ⟨by simpa using hempty, hd⟩
    rw [if_neg hempty, if_pos hdistinct]
    exact ⟨_, _, rfl⟩

/-- A well-formed graph is as good as its search. -/
theorem WellFormedGraph.validateDag_eq (h : WellFormedGraph nodes edges) :
    validateDag frames nodes edges = search frames nodes edges >>= fun _ ↦ .ok () := by
  rw [validateDag_of_distinct h.nonempty h.distinct]
  rcases forM_cases (PlanEdge.check (nodes.map PlanNode.workUnitId)) edges with
    ⟨hcheck, -⟩ | ⟨e, -, edge, hedge, hfails⟩
  · rw [hcheck]
    rfl
  · rw [PlanEdge.check_ok_iff.mpr (h.edge edge hedge)] at hfails
    cases hfails

/-- A graph is accepted and well-formed, or refused for a reason and not well-formed, or it has at
least as many nodes as there are frames, and they do not suffice. -/
theorem validateDag_cases (frames : Nat) (nodes : List PlanNode) (edges : List PlanEdge) :
    validateDag frames nodes edges = .ok () ∧ WellFormedGraph nodes edges ∨
      (∃ e, validateDag frames nodes edges = .error e ∧ e ≠ .recursion ∧
        ¬WellFormedGraph nodes edges) ∨
      validateDag frames nodes edges = .error .recursion ∧ frames ≤ nodes.length := by
  by_cases hnodes : nodes ≠ [] ∧ (nodes.map PlanNode.workUnitId).Nodup
  swap
  · obtain ⟨code, message, herror⟩ := validateDag_unnamed frames edges hnodes
    refine .inr (.inl ⟨_, herror, by simp [Error.precondition, Error.recursion], fun h ↦ ?_⟩)
    exact hnodes ⟨h.nonempty, h.distinct⟩
  rw [validateDag_of_distinct hnodes.1 hnodes.2]
  rcases forM_cases (PlanEdge.check (nodes.map PlanNode.workUnitId)) edges with
    ⟨hcheck, hall⟩ | ⟨e, hcheck, edge, hedge, hfails⟩
  · have hedges : ∀ e ∈ edges, e.WellFormed nodes :=
      fun e he ↦ PlanEdge.check_ok_iff.mp (hall e he)
    rw [hcheck]
    cases hsearch : search frames nodes edges with
    | ok visited =>
      exact .inl ⟨rfl, hnodes.1, hnodes.2, hedges, search_acyclic hedges hsearch⟩
    | error e =>
      rcases search_error hedges hsearch with ⟨rfl, hframes⟩ | ⟨rfl, u, hcycle⟩
      · exact .inr (.inr ⟨rfl, hframes⟩)
      · refine .inr (.inl ⟨_, rfl, ?_, fun h ↦ h.acyclic u hcycle⟩)
        simp [Error.precondition, Error.recursion]
  · rw [hcheck]
    refine .inr (.inl ⟨e, rfl, ?_, fun h ↦ ?_⟩)
    · rintro rfl
      exact PlanEdge.check_ne_recursion _ edge hfails
    · rw [PlanEdge.check_ok_iff.mpr (h.edge edge hedge)] at hfails
      cases hfails

theorem WellFormedGraph.of_validateDag (h : validateDag frames nodes edges = .ok ()) :
    WellFormedGraph nodes edges := by
  rcases validateDag_cases frames nodes edges with ⟨-, hgraph⟩ | ⟨e, herror, -, -⟩ | ⟨herror, -⟩
  · exact hgraph
  · rw [herror] at h
    cases h
  · rw [herror] at h
    cases h

/-- The recursion never goes deeper than the graph has nodes. -/
theorem validateDag_ne_recursion (hroom : nodes.length < frames) :
    validateDag frames nodes edges ≠ .error .recursion := by
  intro h
  rcases validateDag_cases frames nodes edges with ⟨hok, -⟩ | ⟨e, herror, hother, -⟩ | ⟨-, hframes⟩
  · rw [hok] at h
    cases h
  · exact hother (Except.error.inj (herror.symm.trans h))
  · omega

theorem WellFormedGraph.accepted (h : WellFormedGraph nodes edges)
    (hroom : nodes.length < frames) : validateDag frames nodes edges = .ok () := by
  rcases validateDag_cases frames nodes edges with ⟨hok, -⟩ | ⟨e, -, -, hgraph⟩ | ⟨-, hframes⟩
  · exact hok
  · exact absurd h hgraph
  · omega

end HibikiCore
